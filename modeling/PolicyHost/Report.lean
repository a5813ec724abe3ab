import PolicyHost.Value.Literal

namespace PolicyHost

/-!
# Error reports

Whatever goes wrong in the host's own domain is told as a report: a kind, a
message, a numeric code, sometimes a suggestion, and named details.  Kinds
form a small hierarchy, and a kind carries the details of the kinds above it
as well as its own.

A report is built from whatever its author supplies; the kind fills in the
rest.  The details are repeated in the report's context, where they override
what the author put under the same name.
-/

inductive ReportKind where
  | general
  | build | missingExport
  | configuration | noData | unknownEntrypoint | runtimeBusy | contextDestroyed
  | marshaling | noResults
  | guestTrap | guestAbort | guestMemory
  | resourceLeak
  | bundle | bundleManifest | bundleData | bundleEmpty
  | remote
  | configFile
deriving DecidableEq, Repr, Inhabited

/-- A named detail of a report.  A detail that is not recorded does not
appear in the context. -/
structure Detail where
  name : String
  blank : Value
  recorded : Bool := true

namespace ReportKind

def all : List ReportKind :=
  [.general, .build, .missingExport, .configuration, .noData, .unknownEntrypoint, .runtimeBusy,
    .contextDestroyed, .marshaling, .noResults, .guestTrap, .guestAbort, .guestMemory,
    .resourceLeak, .bundle, .bundleManifest, .bundleData, .bundleEmpty, .remote, .configFile]

def name : ReportKind → String
  | general => "OpaWasmError"
  | build => "BuildError"
  | missingExport => "MissingExportError"
  | configuration => "ConfigurationError"
  | noData => "NoDataError"
  | unknownEntrypoint => "UnknownEntrypointError"
  | runtimeBusy => "RuntimeBusyError"
  | contextDestroyed => "ContextDestroyedError"
  | marshaling => "MarshalingError"
  | noResults => "NoResultsError"
  | guestTrap => "GuestTrapError"
  | guestAbort => "GuestAbortError"
  | guestMemory => "GuestMemoryError"
  | resourceLeak => "ResourceLeakError"
  | bundle => "BundleError"
  | bundleManifest => "BundleManifestError"
  | bundleData => "BundleDataError"
  | bundleEmpty => "BundleEmptyError"
  | remote => "RemoteError"
  | configFile => "ConfigFileError"

def named? (name : String) : Option ReportKind :=
  all.find? fun kind => kind.name == name

/-- The kind and those above it, itself first. -/
def lineage : ReportKind → List ReportKind
  | general => [general]
  | missingExport => [missingExport, build, general]
  | noData => [noData, configuration, general]
  | unknownEntrypoint => [unknownEntrypoint, configuration, general]
  | runtimeBusy => [runtimeBusy, configuration, general]
  | contextDestroyed => [contextDestroyed, configuration, general]
  | noResults => [noResults, marshaling, general]
  | guestAbort => [guestAbort, guestTrap, general]
  | guestMemory => [guestMemory, guestTrap, general]
  | bundleManifest => [bundleManifest, bundle, general]
  | bundleData => [bundleData, bundle, general]
  | bundleEmpty => [bundleEmpty, bundle, general]
  | kind => [kind, general]

/-- Whether a kind is another one or lies below it. -/
def isA (kind above : ReportKind) : Bool :=
  kind.lineage.contains above

/-- The code of a report whose author gives none. -/
def code : ReportKind → Int
  | general => 0
  | build => 1001
  | missingExport => 1002
  | configuration => 2001
  | noData => 2002
  | unknownEntrypoint => 2003
  | runtimeBusy => 2004
  | contextDestroyed => 2005
  | marshaling => 3001
  | noResults => 3002
  | guestTrap => 4001
  | guestAbort => 4002
  | guestMemory => 4003
  | resourceLeak => 5001
  | bundle => 6001
  | bundleManifest => 6002
  | bundleData => 6003
  | bundleEmpty => 6004
  | remote => 7001
  | configFile => 8001

/-- The details a kind adds to those of the kinds above it. -/
def ownDetails : ReportKind → List Detail
  | build => [⟨"stage", .text "", true⟩, ⟨"underlying_error", .text "", true⟩]
  | missingExport => [⟨"exports", .list [], true⟩]
  | unknownEntrypoint => [⟨"entrypoint", .text "", true⟩, ⟨"available", .list [], false⟩]
  | marshaling =>
    [⟨"direction", .text "", true⟩, ⟨"target_type", .text "", true⟩,
      ⟨"underlying_error", .text "", true⟩]
  | noResults => [⟨"entrypoint", .text "", true⟩]
  | guestTrap => [⟨"export", .text "", true⟩, ⟨"underlying_error", .text "", true⟩]
  | guestAbort => [⟨"guest_message", .text "", true⟩]
  | guestMemory => [⟨"requested_pages", .int 0, true⟩, ⟨"max_pages", .null, true⟩]
  | resourceLeak => [⟨"underlying_error", .text "", true⟩]
  | bundle => [⟨"bundle_path", .text "", true⟩, ⟨"underlying_error", .text "", true⟩]
  | remote =>
    [⟨"url", .text "", true⟩, ⟨"status_code", .null, true⟩, ⟨"underlying_error", .text "", true⟩]
  | configFile => [⟨"config_path", .text "", true⟩, ⟨"validation_error", .text "", true⟩]
  | _ => []

/-- All details of a kind, those of the kinds above it first. -/
def details (kind : ReportKind) : List Detail :=
  kind.lineage.reverse.flatMap ownDetails

end ReportKind

/-- Entries under names, in the order the names were first stored. -/
abbrev Fields := List (String × Value)

namespace Fields

def find? (fields : Fields) (name : String) : Option Value :=
  (List.find? (fun f => f.1 == name) fields).map (·.2)

/-- The value stored under a name, or null. -/
def get (fields : Fields) (name : String) : Value :=
  (fields.find? name).getD .null

/-- Store a value.  A name that is present keeps its place. -/
def put : Fields → String → Value → Fields
  | [], name, value => [(name, value)]
  | f :: rest, name, value =>
    if f.1 == name then (name, value) :: rest else f :: put rest name value

/-- Store several values, one after the other. -/
def putAll (fields : Fields) (more : Fields) : Fields :=
  more.foldl (fun stored f => put stored f.1 f.2) fields

end Fields

structure Report where
  kind : ReportKind
  message : String
  code : Int
  suggestion : Option String
  context : Fields
  /-- The kind's details, in the kind's order. -/
  details : Fields
deriving Inhabited

structure Findings where
  message : String := ""
  code : Int := 0
  suggestion : Option String := none
  context : Fields := []
  details : Fields := []

namespace Report

def textsOf : Value → List String
  | .list items | .tuple items | .set items => items.map Literal.inSentence
  | _ => []

/-- The message of a report whose author gives none. -/
def standardMessage (kind : ReportKind) (details : Fields) : String :=
  let text (name : String) : String := Literal.inSentence (details.get name)
  match kind with
  | .general | .configuration => ""
  | .build =>
    "Failed to build policy module (" ++ text "stage" ++ "): " ++ text "underlying_error"
  | .missingExport =>
    "Policy module is missing required exports: " ++
      ", ".intercalate (textsOf (details.get "exports"))
  | .noData => "No data provided, all decisions would be undefined"
  | .unknownEntrypoint => "Unknown entrypoint: " ++ text "entrypoint"
  | .runtimeBusy => "Policy runtime is in use by a live evaluation context"
  | .contextDestroyed => "Evaluation context has already been destroyed"
  | .marshaling =>
    "Failed to " ++ text "direction" ++ " " ++ text "target_type" ++ ": " ++ text "underlying_error"
  | .noResults => "The query produced no results: " ++ text "entrypoint"
  | .guestTrap => "Policy module trapped in " ++ text "export" ++ ": " ++ text "underlying_error"
  | .guestAbort => "OPA abort was called: " ++ text "guest_message"
  | .guestMemory =>
    let bound := match details.get "max_pages" with
      | .null => "unbounded"
      | pages => Literal.inSentence pages
    "Cannot grow guest memory by " ++ text "requested_pages" ++ " pages (max: " ++ bound ++ ")"
  | .resourceLeak => "Failed to release evaluation context: " ++ text "underlying_error"
  | .bundle => "Invalid bundle: " ++ text "underlying_error"
  | .bundleManifest => "Invalid manifest: " ++ text "underlying_error"
  | .bundleData => "Invalid data file: " ++ text "underlying_error"
  | .bundleEmpty => "The bundle must contain at least one WASM module"
  | .remote => "Request to " ++ text "url" ++ " failed: " ++ text "underlying_error"
  | .configFile => "Invalid configuration " ++ text "config_path" ++ ": " ++ text "validation_error"

/-- The suggestion of a report whose author gives none or an empty one. -/
def standardSuggestion (kind : ReportKind) (details : Fields) : Option String :=
  match kind with
  | .missingExport => some "Rebuild the policy with `opa build -t wasm`"
  | .noData => some "Call set_data() at least once before evaluating, e.g. set_data(\x7b\x7d)"
  | .unknownEntrypoint =>
    match textsOf (details.get "available") with
    | [] => none
    | names =>
      some ("Available entrypoints: " ++ ", ".intercalate (names.mergeSort fun a b => a ≤ b))
  | .runtimeBusy => some "Destroy the open context first, or use one runtime per thread"
  | .guestTrap | .guestAbort | .resourceLeak => some "Discard this runtime and build a new one"
  | .guestMemory => some "Increase max_memory_pages or reduce the input size"
  | .bundleEmpty => some "Build the bundle with `opa build -t wasm -e <entrypoint>`"
  | _ => none

/-- A kind's details with what the author supplied for them.  Two details
have a standard value of their own where the supplied one is empty. -/
def settleDetails (kind : ReportKind) (supplied : Fields) : Fields :=
  kind.details.map fun detail =>
    let value := (supplied.find? detail.name).getD detail.blank
    let standard := match kind, detail.name with
      | .missingExport, "stage" => some "initialize"
      | .noResults, "direction" => some "decode"
      | _, _ => none
    match standard with
    | some text => (detail.name, if value.isFalsy then .text text else value)
    | none => (detail.name, value)

/-- The details that a report repeats in its context. -/
def recordedDetails (kind : ReportKind) (details : Fields) : Fields :=
  details.filter fun f => kind.details.any fun detail => detail.name == f.1 && detail.recorded

def make (kind : ReportKind) (found : Findings) : Report :=
  let details := settleDetails kind found.details
  { kind
    message := if found.message.isEmpty then standardMessage kind details else found.message
    code := if found.code = 0 then kind.code else found.code
    suggestion :=
      if (found.suggestion.getD "").isEmpty then
        (standardSuggestion kind details).or found.suggestion
      else found.suggestion
    context := found.context.putAll (recordedDetails kind details)
    details }

def text (report : Report) : String :=
  let heading := "[E" ++ toString report.code ++ "] " ++ report.message
  match report.suggestion with
  | none | some "" => heading
  | some suggestion => heading ++ "\nSuggestion: " ++ suggestion

/-- A name or nothing, as a value. -/
def optionalText : Option String → Value
  | some s => .text s
  | none => .null

/-- The report as a literal.  The most general kind shows no suggestion. -/
def literal (report : Report) : String :=
  let suggestion := if report.kind = .general then []
    else [("suggestion", optionalText report.suggestion)]
  let fields := [("message", .text report.message), ("code", .int report.code)] ++ suggestion ++
    [("context", Value.object report.context)] ++ report.details
  Literal.ofValue (.record .plain report.kind.name fields [])

def fields (report : Report) : Fields :=
  [("error_type", .text report.kind.name), ("message", .text report.message),
    ("code", .int report.code), ("suggestion", optionalText report.suggestion),
    ("context", Value.object report.context)]

def document (report : Report) : Value :=
  Value.object report.fields

/-- Reports are equal if they have one kind and equal fields. -/
def same (a b : Report) : Bool :=
  a.kind == b.kind && a.message == b.message && a.code == b.code && a.suggestion == b.suggestion &&
    (Value.object a.context).same (Value.object b.context) &&
    Value.sameFields a.details b.details

def buildFailed (stage underlying : String) : Report :=
  make .build { details := [("stage", .text stage), ("underlying_error", .text underlying)] }

/-- The module lacks exports. -/
def missingExports (exports : List String) : Report :=
  make .missingExport { details := [("exports", .list (exports.map .text))] }

def noData : Report := make .noData {}

/-- No entrypoint has this name. -/
def unknownEntrypoint (entrypoint : String) (available : List String) : Report :=
  make .unknownEntrypoint
    { details := [("entrypoint", .text entrypoint), ("available", .list (available.map .text))] }

/-- A context is open. -/
def runtimeBusy : Report := make .runtimeBusy {}

def contextDestroyed : Report := make .contextDestroyed {}

/-- A value does not pass the boundary. -/
def marshaling (direction target underlying : String) : Report :=
  make .marshaling
    { details :=
        [("direction", .text direction), ("target_type", .text target),
          ("underlying_error", .text underlying)] }

/-- An evaluation produced no result. -/
def noResults (entrypoint target : String) : Report :=
  make .noResults { details := [("target_type", .text target), ("entrypoint", .text entrypoint)] }

def trapped (export_ underlying : String) : Report :=
  make .guestTrap { details := [("export", .text export_), ("underlying_error", .text underlying)] }

def aborted (message : String) : Report :=
  make .guestAbort { details := [("export", .text "opa_abort"), ("guest_message", .text message)] }

def memoryRefused (pages : Int) (limit : Option Nat) (underlying : String) : Report :=
  make .guestMemory
    { details :=
        [("underlying_error", .text underlying), ("requested_pages", .int pages),
          ("max_pages", match limit with | some n => .int n | none => .null)] }

/-- A context could not be released. -/
def leaked (underlying : String) : Report :=
  make .resourceLeak { details := [("underlying_error", .text underlying)] }

/-- A bundle cannot be read. -/
def badBundle (kind : ReportKind) (path underlying : String) : Report :=
  make kind { details := [("bundle_path", .text path), ("underlying_error", .text underlying)] }

def requestFailed (url : String) (status : Option Int) (underlying : String) : Report :=
  make .remote
    { details :=
        [("url", .text url), ("status_code", match status with | some n => .int n | none => .null),
          ("underlying_error", .text underlying)] }

/-- A configuration document is not acceptable. -/
def badConfiguration (path underlying : String) : Report :=
  make .configFile
    { details := [("config_path", .text path), ("validation_error", .text underlying)] }

end Report
end PolicyHost
