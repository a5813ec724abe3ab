import PolicyHost.Bundle
import PolicyHost.Command.Request
import PolicyHost.Command.Screen
import PolicyHost.Configuration.File
import PolicyHost.Evaluation.Builder

namespace PolicyHost
namespace Command

/-!
# Commands

There are three commands: one lists the entrypoints of a bundle's policy
module, one evaluates an entrypoint, and one shows what a bundle holds.  Each
prints for people or, if asked to, as JSON.

A report ends a command with the exit code 1 and is printed.  A fault of
another kind ends it too, but is passed on.  A command line that makes no
sense has the exit code 2.
-/

/-- The version of this program. -/
def version : String := "0.1.0"

structure Outcome where
  exitCode : Nat := 0
  output : String := ""
  /-- The fault that was passed on. -/
  raised : Option Fault := none
  /-- The level that logging was set up with. -/
  level : Option Logging.Level := none
  misuse : Option Options.Misuse := none
deriving Inhabited

namespace Outcome

def pass (fault : Fault) : Outcome :=
  { exitCode := 1, raised := some fault }

variable (terminal : Terminal)

def printing (exitCode : Nat) (items : List Screen.Item) : Outcome :=
  let (output, complete) := Screen.print terminal items
  if complete then { exitCode, output } else { pass .badMarkup with output }

def printingJson (exitCode : Nat) (document : Value) : Outcome :=
  printing terminal exitCode [.plain (Json.writeIndented document)]

def failing (report : Report) (json debug : Bool) : Outcome :=
  if json then
    let fields := ("error", .bool true) :: report.fields
    printingJson terminal 1
      (Value.object (if debug then fields ++ [("traceback", .text report.literal)] else fields))
  else
    let items := [.text ("[red]" ++ Markup.escape report.text ++ "[/red]")]
    printing terminal 1
      (if debug then items ++ [.text ("[dim]" ++ Markup.escape report.literal ++ "[/dim]")]
        else items)

/-- End with a fault: print it if it is a report, and pass it on otherwise. -/
def ofFault (fault : Fault) (json debug : Bool) : Outcome :=
  match fault with
  | .report report => failing terminal report json debug
  | fault => pass fault

/-- Refuse options that are well formed but make no sense. -/
def refusing (message : String) (json : Bool) : Outcome :=
  if json then
    printingJson terminal 1
      (Value.object [("error", .bool true), ("error_type", .text "usage_error"),
        ("message", .text message)])
  else printing terminal 1 [.text ("[red]Error: " ++ Markup.escape message ++ "[/red]")]

end Outcome

/-- What a command finds around it: a terminal, room to read the documents
that are given to it and those in bundles, and a reader of configurations. -/
structure Surroundings where
  terminal : Terminal
  given : Nat
  bundled : Nat
  yaml : Yaml.Loader

def Surroundings.standard : Surroundings :=
  ⟨.plain, Json.Data.standardRoom, Json.Data.standardRoom, Yaml.load⟩

def sorted (names : List String) : List String :=
  names.mergeSort fun a b => a ≤ b

/-- The names of a bundle's policy sources, in order. -/
def sourceNames (bundle : Bundle) : List HostText :=
  (bundle.sources.map (·.1)).mergeSort fun a b => !b.points.lex a.points Nat.blt

variable (around : Surroundings)

def readBundle (file : File) : Except Fault Bundle :=
  (Bundle.ofFile around.bundled file.path (some file.content)).map (·.1)

def buildHost {σ : Type} (engine : Engine σ) (builder : Builder) (bundle : Bundle) :
    Except Fault (Host σ) :=
  match builder.buildFromBundle engine bundle {} with
  | .ok host _ => .ok host
  | .error fault _ => .error fault

/-! ## Entrypoints -/

def identifiers {σ : Type} (host : Host σ) : List String → Except Fault (List (String × Int))
  | [] => .ok []
  | name :: rest =>
    match Host.resolve name host with
    | .error fault _ => .error fault
    | .ok (_, id) host =>
      match identifiers host rest with
      | .ok others => .ok ((name, id) :: others)
      | .error fault => .error fault

def entrypointTable (rows : List (String × Int)) : Table where
  columns := [{ title := "ID", fixed := some 4 }, { title := "Entrypoint" }]
  rows := rows.map fun row => [toString row.2, row.1]

/-- List the entrypoints of a bundle's policy module. -/
def entrypoints {σ : Type} (engine : Engine σ) (file : File) (json : Bool) : Outcome :=
  match (readBundle around file).bind (buildHost engine {}) with
  | .error fault => .ofFault around.terminal fault json false
  | .ok host =>
    match identifiers host (sorted (host.entrypoints.map (·.1))) with
    | .error fault => .pass fault
    | .ok rows =>
      if json then
        .printingJson around.terminal 0
          (Value.object [("abi_minor_version", .int host.minor),
            ("entrypoints", Value.object (rows.map fun row => (row.1, .int row.2)))])
      else
        .printing around.terminal 0
          [.table (entrypointTable rows),
            .text ("[dim]ABI minor version: " ++ toString host.minor ++ "[/dim]")]

/-! ## Evaluation -/

/-- How a command ends that is given a document it cannot read. -/
def unread (json : Bool) (label source : String) : Json.Data.Flaw → Outcome
  | .exhausted => .pass .exhausted
  | .malformed =>
    .refusing around.terminal
      ("Invalid JSON " ++ label ++ " in " ++ source ++ ": " ++ Json.Data.Flaw.malformed.text) json
  | flaw => .refusing around.terminal flaw.text json

/-- The document in a text from a source. -/
def readJson (json : Bool) (label source : String) (chars : List Char) : Except Outcome Value :=
  (Json.Data.readText around.given chars).mapError (unread around json label source)

/-- The document in a file or else in a text.  If there is neither, it is
null. -/
def readDocument (json : Bool) (label : String) (file : Option File) (text : Option String) :
    Except Outcome Value :=
  match file, text with
  | some file, _ =>
    match Utf8.decode file.content with
    | some chars => readJson around json label file.path chars
    | none => .error (unread around json label file.path .notText)
  | none, some text => readJson around json label ("--" ++ label ++ "-json") text.toList
  | none, none => .ok .null

/-- The dataset: the one that was given, or the bundle's, or an empty one. -/
def dataset (given : Value) (bundle : Bundle) : Value :=
  match given, bundle.data with
  | .null, .null => .mapping []
  | .null, data => data
  | given, _ => given

def result {σ : Type} (engine : Engine σ) (builder : Builder) (e : Evaluation)
    (input data : Value) : Except Fault Value := do
  let bundle ← readBundle around e.bundle
  let host ← buildHost engine builder bundle
  let evaluation : Operation (Host σ) Value := do
    Host.setData (dataset data bundle)
    Host.eval e.entrypoint input .any
  match evaluation host with
  | .ok value _ => return value
  | .error fault _ => throw fault

/-- The builder of an evaluation, and the log level of its configuration. -/
def configured (file : Option File) : Except Fault (Builder × Option Logging.Level) :=
  match file with
  | none => .ok ({}, none)
  | some file => do
    let configuration ← Configuration.ofFile around.yaml file.path (some file.content)
    return (← Builder.ofConfiguration configuration, some configuration.logLevel)

def printResult (e : Evaluation) (value : Value) : Outcome :=
  .printingJson around.terminal 0
    (if e.json then Value.object [("entrypoint", .text e.entrypoint), ("result", value)] else value)

/-- Evaluate an entrypoint of a bundle. -/
def eval {σ : Type} (engine : Engine σ) (e : Evaluation) : Outcome :=
  let level := if e.debug then some Logging.Level.debug else none
  if e.inputFile.isSome && e.inputText.isSome then
    { Outcome.refusing around.terminal "Use either --input or --input-json, not both" e.json with
      level }
  else
    match readDocument around e.json "input" e.inputFile e.inputText,
      readDocument around e.json "data" e.dataFile none with
    | .error outcome, _ | .ok _, .error outcome => { outcome with level }
    | .ok input, .ok data =>
      match configured around e.configFile with
      | .error fault => { Outcome.ofFault around.terminal fault e.json e.debug with level }
      | .ok (builder, configuredLevel) =>
        let level := level.or configuredLevel
        match result around engine builder e input data with
        | .error fault => { Outcome.ofFault around.terminal fault e.json e.debug with level }
        | .ok value => { printResult around e value with level }

/-! ## Inspection -/

def orNone (text : String) : String :=
  if text.isEmpty then "none" else text

def moduleTable (modules : List PolicyModule) : Table where
  columns :=
    [{ title := "Entrypoint" }, { title := "Module" }, { title := "Size", flushRight := true }]
  rows := modules.map fun m =>
    [Markup.escape m.entrypoint, Markup.escape m.path, toString m.binary.length ++ " B"]

def manifestItems : Option Manifest → List Screen.Item
  | none => [.text "[yellow]No manifest[/yellow]"]
  | some manifest =>
    [.text ("[bold]Revision:[/bold] " ++ orNone (Markup.escape manifest.revision)),
      .text ("[bold]Roots:[/bold] " ++ orNone (Markup.escape (", ".intercalate manifest.roots)))]

/-- What is shown of a bundle's modules. -/
def moduleItems (bundle : Bundle) : List Screen.Item :=
  if bundle.modules.isEmpty then [.text "[yellow]No WASM modules[/yellow]"]
  else [.table (moduleTable bundle.modules)]

/-- The names up to the first that has no UTF-8 form. -/
def nameItems : List HostText → List Screen.Item
  | .whole name :: rest => .text ("  " ++ Markup.escape name) :: nameItems rest
  | _ => []

/-- What is shown of a bundle's policy sources. -/
def sourceItems (bundle : Bundle) : List Screen.Item :=
  if bundle.sources.isEmpty then []
  else [.plain "", .text "[bold]Rego files:[/bold]"] ++ nameItems (sourceNames bundle)

def bundleItems (file : File) (bundle : Bundle) : List Screen.Item :=
  [.text ("[bold cyan]" ++ Markup.escape (Path.fileName file.path) ++ "[/bold cyan]"), .plain ""] ++
    manifestItems bundle.manifest ++
    [.text ("[bold]Data:[/bold] " ++ if bundle.hasData then "yes" else "no"), .plain ""] ++
    moduleItems bundle ++ sourceItems bundle

def bundleDocument (file : File) (bundle : Bundle) : Value :=
  Value.object
    [("revision", match bundle.manifest with | some m => .text m.revision | none => .null),
      ("roots", .list ((bundle.manifest.map (·.roots)).getD [] |>.map .text)),
      ("wasm", .list (bundle.modules.map fun m =>
        Value.object [("entrypoint", .text m.entrypoint), ("module", .text m.path),
          ("size", .int m.binary.length)])),
      ("rego", .list ((sourceNames bundle).map .ofText)),
      ("has_data", .bool bundle.hasData), ("bundle_path", .text file.path)]

/-- Show what a bundle holds. -/
def inspect (file : File) (json : Bool) : Outcome :=
  match readBundle around file with
  | .error fault => .ofFault around.terminal fault json false
  | .ok bundle =>
    if json then .printingJson around.terminal 0 (bundleDocument file bundle)
    else
      let outcome := Outcome.printing around.terminal 0 (bundleItems file bundle)
      if outcome.raised.isNone && (sourceNames bundle).any HostText.isBroken then
        { Outcome.pass .unencodable with output := outcome.output }
      else outcome

/-! ## All commands -/

/-- How the program is used. -/
def helpText : String :=
  "Usage: opawasm [OPTIONS] COMMAND [ARGS]...

  Evaluate OPA policies compiled to WebAssembly.

Options:
  -v, --version  Show version and exit.
  --help         Show this message and exit.

Commands:
  entrypoints  List the entrypoints of a bundle's policy module.
  eval         Evaluate an entrypoint of a bundle.
  inspect      Show the manifest and contents of a bundle."

/-- Do what was asked for. -/
def perform {σ : Type} (engine : Engine σ) : Request → Outcome
  | .version => .printing around.terminal 0 [.text ("[bold]opawasm[/bold] version " ++ version)]
  | .help => .printing around.terminal 0 [.plain helpText]
  | .entrypoints bundle json => entrypoints around engine bundle json
  | .eval evaluation => eval around engine evaluation
  | .inspect bundle json => inspect around bundle json

def run {σ : Type} (engine : Engine σ) (folder : Folder) (arguments : List String) : Outcome :=
  match Request.read folder arguments with
  | .ok request => perform around engine request
  | .error misuse => { exitCode := 2, misuse := some misuse }

end Command
end PolicyHost
