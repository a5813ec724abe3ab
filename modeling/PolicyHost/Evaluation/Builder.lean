import PolicyHost.Bundle
import PolicyHost.Configuration
import PolicyHost.Evaluation.Host

namespace PolicyHost

/-!
# Building hosts

A module goes through an engine, which compiles it or takes it as compiled
ahead, and is then linked with a memory of the host's own.  Its start
function runs, its exports are checked against what its discipline will call,
and its entrypoint table is read.  Whatever goes wrong on the way is a build
failure that names the stage.
-/

inductive ModuleSource where
  | binary (bytes : Bytes)
  | text (source : String)

structure Engine (σ : Type) where
  compile : ModuleSource → Option (Module σ)
  /-- Take a module that this engine compiled ahead. -/
  deserialize : Bytes → Option (Module σ)
  /-- What the engine says about bytes it did not compile. -/
  complaint : Bytes → String

structure Builder where
  onAbort : Option (String → Reaction) := none
  onPrint : Option (String → Reaction) := none
  maxPages : Option Nat := none
  preferPrecompiled : Bool := true

namespace Builder

/-- The pages a memory begins with. -/
def initialPages : Nat := 2

/-- Bound the growth of guest memory. -/
def withMaxPages (builder : Builder) (pages : Option Int) : Except Fault Builder :=
  match pages with
  | none => .ok { builder with maxPages := none }
  | some n =>
    if n < initialPages then
      .error (.report (Report.make .configuration
        { message := "max_memory_pages must be at least " ++ toString initialPages ++ ", got " ++
            toString n }))
    else .ok { builder with maxPages := some n.toNat }

def ofConfiguration (configuration : Configuration) : Except Fault Builder :=
  withMaxPages
    { onPrint := some (Handlers.printTo configuration.guestLogLevel)
      preferPrecompiled := configuration.preferPrecompiled }
    configuration.maxPages

/-- The handlers of the hosts that are built. -/
def handlers (builder : Builder) : Handlers :=
  ⟨builder.onAbort.getD Handlers.standard.abort, builder.onPrint.getD Handlers.standard.print⟩

variable {σ : Type}

/-- The entrypoints in a checked table. -/
def entrypointsOf : Value → List (String × Int)
  | .mapping entries => entries.filterMap fun e =>
    match e with
    | (.text name, .int id) => some (name, id)
    | _ => none
  | _ => []

/-- Read the entrypoint table and take the checkpoints.  A guest that fails
here fails the build. -/
def prepare (discipline : Discipline) (terms : Region.Terms) :
    Operation (Instance σ) (List (String × Int) × Checkpoints) := do
  let outcome ← Operation.attempt do
    let document ← Instance.callAddress "entrypoints" []
    let table ← Exchange.readValue terms document (.mapping .text .int)
    return (entrypointsOf table, ← discipline.takeCheckpoints)
  match outcome with
  | .ok found => return found
  | .error fault =>
    match fault with
    | .report r =>
      if r.kind.isA .guestTrap || r.kind.isA .marshaling then
        Operation.report (Report.buildFailed "initialize" r.message)
      else throw fault
    | _ => throw fault

def minorVersionGlobal : String := "opa_wasm_abi_minor_version"

/-- Make an instance ready for use. -/
def initializeHost (maxPages : Option Nat) : Operation (Instance σ) (Host σ) := do
  let minor := (← get).globalValue minorVersionGlobal 0
  let discipline := Discipline.ofMinor minor
  Instance.require ("entrypoints" :: discipline.requiredExports)
  Instance.log "wasm.runtime" .debug
    ("ABI minor version " ++ toString minor ++ ", using " ++ discipline.name ++ " strategy")
  let (entrypoints, checkpoints) ← prepare discipline (discipline.terms maxPages)
  Instance.log "wasm.runtime" .debug ("loaded " ++ toString entrypoints.length ++ " entrypoints")
  let guest ← get
  return { guest, discipline, maxPages, minor, entrypoints, checkpoints
           dataset := none, busy := false, leak := none, contexts := [] }

/-- Link a module with a fresh memory and make it ready for use.  The journal
takes what is logged on the way. -/
def instantiate (builder : Builder) (module : Module σ) : Operation Journal (Host σ) :=
  fun journal =>
    let failed (stage : String) (journal : Journal) : EStateM.Result Fault Journal (Host σ) :=
      .error (.report (Report.buildFailed stage Instance.engineText)) journal
    let memory := Memory.fresh initialPages builder.maxPages
    if mostPages < builder.maxPages.getD 0 then failed "memory" journal
    else if !module.accepts memory then failed "instantiate" journal
    else
      let guest : Instance σ :=
        { module, memory, journal, handlers := builder.handlers, state := module.initial
          trapped := false }
      match Instance.follow (module.start memory module.initial) guest with
      | (.trapped, guest) => failed "instantiate" guest.journal
      | (.refused fault, guest) => .error fault guest.journal
      | (.returned (), guest) =>
        match initializeHost builder.maxPages guest with
        | .error fault guest => .error fault guest.journal
        | .ok host guest =>
          .ok { host with guest := { guest with journal := {}, history := [] } } guest.journal

def build (builder : Builder) (engine : Engine σ) (source : ModuleSource) :
    Operation Journal (Host σ) :=
  match engine.compile source with
  | some module => instantiate builder module
  | none => Operation.report (Report.buildFailed "compile" Instance.engineText)

def buildCompiled (builder : Builder) (engine : Engine σ) (bytes : Bytes) :
    Operation Journal (Host σ) :=
  match engine.deserialize bytes with
  | some module => instantiate builder module
  | none => Operation.report (Report.buildFailed "deserialize" Instance.engineText)

/-- Build a host from a bundle: from the module that was compiled ahead if it
is preferred and usable, and from the first of the others otherwise. -/
def buildFromBundle (builder : Builder) (engine : Engine σ) (bundle : Bundle) :
    Operation Journal (Host σ) :=
  let fromFirst : Operation Journal (Host σ) :=
    match bundle.modules with
    | [] => Operation.report (Report.make .bundleEmpty {})
    | first :: _ => build builder engine (.binary first.binary)
  match bundle.precompiled with
  | none => fromFirst
  | some bytes =>
    if !builder.preferPrecompiled then fromFirst
    else
      match engine.deserialize bytes, bundle.modules with
      | some module, _ => instantiate builder module
      | none, [] => buildCompiled builder engine bytes
      | none, _ :: _ => do
        modify fun journal => journal.add
          { records := [Logging.record "wasm.runtime" .warning
              ("precompiled module unusable, falling back to WASM: " ++ engine.complaint bytes)] }
        fromFirst

end Builder
end PolicyHost
