import PolicyHost.Text.Characters

namespace PolicyHost
namespace Options

/-!
# Options on a command line

Arguments are options and the rest.  An option has long names with two dashes
and may have short ones with one.  It takes a value or it is a flag.  A value
is the next argument, or it is attached: to a long name after an equals sign,
to a short name directly.  Short names may be written together.  After two
dashes alone no argument is an option.

A command may end its options at the first argument that is none, so that
what follows can be read by another command.
-/

structure Spec where
  /-- The name the option is stored under. -/
  key : String
  names : List String
  takesValue : Bool
deriving DecidableEq, Repr

/-- What is wrong with a command line. -/
inductive Misuse where
  | unknownOption (name : String)
  | valueMissing (name : String)
  | valueForFlag (name : String)
  | missingArgument (name : String)
  | extraArgument (text : String)
  | missingCommand
  | unknownCommand (name : String)
  | badPath (path : String)
deriving DecidableEq, Repr

/-- What is wrong, in words. -/
def Misuse.text : Misuse → String
  | unknownOption name => "No such option: " ++ name
  | valueMissing name => "Option '" ++ name ++ "' requires an argument."
  | valueForFlag name => "Option '" ++ name ++ "' does not take a value."
  | missingArgument name => "Missing argument '" ++ name ++ "'."
  | extraArgument text => "Got unexpected extra argument (" ++ text ++ ")"
  | missingCommand => "Missing command."
  | unknownCommand name => "No such command '" ++ name ++ "'."
  | badPath path => "File '" ++ path ++ "' does not exist."

/-- The options that were given, in order, and the other arguments. -/
structure Parsed where
  given : List (String × Option String) := []
  others : List String := []
deriving DecidableEq, Repr

namespace Parsed

/-- Whether an option was given. -/
def has (parsed : Parsed) (key : String) : Bool :=
  parsed.given.any fun g => g.1 == key

def value? (parsed : Parsed) (key : String) : Option String :=
  (parsed.given.reverse.find? fun g => g.1 == key).bind (·.2)

end Parsed

/-- What an argument is. -/
inductive Reading where
  /-- The end of the options. -/
  | stop
  | other
  /-- Options that are complete. -/
  | complete (given : List (String × Option String))
  /-- Options of which the last one takes the next argument as its value. -/
  | pending (given : List (String × Option String)) (key name : String)
deriving DecidableEq, Repr

def find? (specs : List Spec) (name : String) : Option Spec :=
  specs.find? fun spec => spec.names.contains name

/-- Read short names that are written together. -/
def readShort (specs : List Spec) : List (String × Option String) → List Char →
    Except Misuse Reading
  | given, [] => .ok (.complete given)
  | given, c :: rest =>
    let name := String.ofList ['-', c]
    match find? specs name with
    | none => .error (.unknownOption name)
    | some spec =>
      if !spec.takesValue then readShort specs (given ++ [(spec.key, none)]) rest
      else if rest.isEmpty then .ok (.pending given spec.key name)
      else .ok (.complete (given ++ [(spec.key, some (String.ofList rest))]))

def readLong? (specs : List Spec) (name : String) (attached : Option String) :
    Option (Except Misuse Reading) :=
  if name.startsWith "--" then
    (find? specs name).map fun spec =>
      match spec.takesValue, attached with
      | true, some value => .ok (.complete [(spec.key, some value)])
      | true, none => .ok (.pending [] spec.key name)
      | false, some _ => .error (.valueForFlag name)
      | false, none => .ok (.complete [(spec.key, none)])
  else none

def read (specs : List Spec) (argument : String) : Except Misuse Reading :=
  match argument.toList with
  | ['-', '-'] => .ok .stop
  | '-' :: c :: rest =>
    let chars := '-' :: c :: rest
    let name := String.ofList (chars.takeWhile (· != '='))
    let attached := match chars.dropWhile (· != '=') with
      | _ :: value => some (String.ofList value)
      | [] => none
    match readLong? specs name attached with
    | some outcome => outcome
    | none => if c = '-' then .error (.unknownOption name) else readShort specs [] (c :: rest)
  | _ => .ok .other

/-- Read arguments after those read before.  `mixed` tells whether options
may follow other arguments. -/
def parseFrom (specs : List Spec) (mixed : Bool) (parsed : Parsed) : List String →
    Except Misuse Parsed
  | [] => .ok parsed
  | argument :: rest =>
    match read specs argument with
    | .error misuse => .error misuse
    | .ok .stop => .ok { parsed with others := parsed.others ++ rest }
    | .ok .other =>
      if mixed then parseFrom specs mixed { parsed with others := parsed.others ++ [argument] } rest
      else .ok { parsed with others := parsed.others ++ argument :: rest }
    | .ok (.complete given) =>
      parseFrom specs mixed { parsed with given := parsed.given ++ given } rest
    | .ok (.pending given key name) =>
      match rest with
      | [] => .error (.valueMissing name)
      | value :: rest =>
        parseFrom specs mixed
          { parsed with given := parsed.given ++ given ++ [(key, some value)] } rest

/-- Read the arguments of a command. -/
def parse (specs : List Spec) (mixed : Bool) (arguments : List String) : Except Misuse Parsed :=
  parseFrom specs mixed {} arguments

end Options
end PolicyHost
