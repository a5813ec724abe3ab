import PolicyHost.Command.Options
import PolicyHost.Path
import PolicyHost.Text.Utf8

namespace PolicyHost
namespace Command

/-!
# Requests

A command line names a command, a bundle and what else the command needs.
Files are named by paths from the working directory, and every file that is
named has to be there.
-/

open Options

structure File where
  path : String
  content : Bytes
deriving DecidableEq, Repr, Inhabited

/-- The working directory, and the files that can be named from it. -/
structure Folder where
  path : String
  files : List File
deriving DecidableEq, Repr, Inhabited

def Folder.file? (folder : Folder) (path : String) : Option File :=
  folder.files.find? fun file => file.path == Path.resolve folder.path path

structure Evaluation where
  bundle : File
  entrypoint : String
  inputFile : Option File := none
  inputText : Option String := none
  dataFile : Option File := none
  configFile : Option File := none
  json : Bool := false
  debug : Bool := false
deriving DecidableEq, Repr, Inhabited

/-- What a command line asks for. -/
inductive Request where
  | version
  | help
  | entrypoints (bundle : File) (json : Bool)
  | eval (evaluation : Evaluation)
  | inspect (bundle : File) (json : Bool)
deriving DecidableEq, Repr

def helpOption : Spec := ⟨"help", ["--help"], false⟩

def jsonOption : Spec := ⟨"json", ["--json"], false⟩

/-- The options before a command. -/
def commonOptions : List Spec :=
  [⟨"version", ["--version", "-v"], false⟩, helpOption]

/-- The options of commands that only look at a bundle. -/
def viewOptions : List Spec := [jsonOption, helpOption]

def evalOptions : List Spec :=
  [⟨"input", ["--input"], true⟩, ⟨"input-json", ["--input-json", "-i"], true⟩,
    ⟨"data", ["--data"], true⟩, ⟨"config", ["--config", "-c"], true⟩, jsonOption,
    ⟨"debug", ["--debug"], false⟩, helpOption]

def findFile (folder : Folder) (path : String) : Except Misuse File :=
  match folder.file? path with
  | some file => .ok file
  | none => .error (.badPath path)

def findOption (folder : Folder) (parsed : Parsed) (key : String) :
    Except Misuse (Option File) :=
  match parsed.value? key with
  | none => .ok none
  | some path => (findFile folder path).map some

def bundleArgument : String := "BUNDLE_PATH"

/-- The name of the argument that names an entrypoint. -/
def entrypointArgument : String := "ENTRYPOINT"

/-- Read the arguments of a command that looks at a bundle. -/
def readView (folder : Folder) (make : File → Bool → Request) (arguments : List String) :
    Except Misuse Request := do
  let parsed ← parse viewOptions true arguments
  if parsed.has "help" then return .help
  match parsed.others with
  | [] => throw (.missingArgument bundleArgument)
  | [bundle] => return make (← findFile folder bundle) (parsed.has "json")
  | _ :: extra :: _ => throw (.extraArgument extra)

def readEval (folder : Folder) (arguments : List String) : Except Misuse Request := do
  let parsed ← parse evalOptions true arguments
  if parsed.has "help" then return .help
  match parsed.others with
  | [] => throw (.missingArgument bundleArgument)
  | [_] => throw (.missingArgument entrypointArgument)
  | [bundle, entrypoint] =>
    return .eval
      { bundle := ← findFile folder bundle
        entrypoint
        inputFile := ← findOption folder parsed "input"
        inputText := parsed.value? "input-json"
        dataFile := ← findOption folder parsed "data"
        configFile := ← findOption folder parsed "config"
        json := parsed.has "json"
        debug := parsed.has "debug" }
  | _ :: _ :: extra :: _ => throw (.extraArgument extra)

/-- Read a command line.  The version and help come before any command, the
one that is named first before the other. -/
def Request.read (folder : Folder) (arguments : List String) : Except Misuse Request := do
  let parsed ← parse commonOptions false arguments
  match parsed.given, parsed.others with
  | ("version", _) :: _, _ => return .version
  | _ :: _, _ => return .help
  | [], [] => throw .missingCommand
  | [], "entrypoints" :: rest => readView folder .entrypoints rest
  | [], "eval" :: rest => readEval folder rest
  | [], "inspect" :: rest => readView folder .inspect rest
  | [], name :: _ => throw (.unknownCommand name)

end Command
end PolicyHost
