import PolicyHost.Evaluation.Operation
import PolicyHost.Guest.Address
import PolicyHost.Guest.Machine
import PolicyHost.Logging

namespace PolicyHost

/-!
# Module instances

An instance is a module together with its memory, its state, and the handlers
that answer its host calls.  Every call from the host into the guest goes
through `Instance.call`, which is where traps become faults and where an
instance that trapped, or whose handler refused, is closed for good.
-/

/-- Something a recording handler noted. -/
inductive Event where
  | aborted (message : String)
  | printed (text : String)
deriving DecidableEq, Repr

structure Reaction where
  records : List Logging.Record := []
  events : List Event := []
  /-- Why the guest call does not go on. -/
  fault : Option Fault := none

structure Handlers where
  abort : String → Reaction
  print : String → Reaction

namespace Handlers

/-- Log what a policy prints. -/
def printTo (level : Logging.Level) (text : String) : Reaction :=
  { records := [Logging.record "guest" level text] }

/-- Report that a policy gave up. -/
def reportAbort (message : String) : Reaction :=
  { fault := some (.report (Report.aborted message)) }

/-- The handlers in use unless others are given. -/
def standard : Handlers := ⟨reportAbort, printTo .info⟩

/-- The message for bytes that are not text. -/
def invalidString : String := "invalid string in memory"

/-- How a host call is answered.  What a policy prints has to be text; if it
is not, the policy is treated as having given up. -/
def react (handlers : Handlers) (memory : Memory) : HostCall → Reaction
  | .abort address =>
    handlers.abort ((memory.textUntilZero address.toNat).getD invalidString)
  | .print address =>
    match memory.textUntilZero address.toNat with
    | none => handlers.abort invalidString
    | some text => handlers.print text
  | .builtin arity id =>
    { records := [Logging.record "wasm.imports" .debug
        ("builtin " ++ toString id ++ " called with " ++ toString arity ++
          " args, returning undefined")] }

end Handlers

/-- What was logged and noted, the latest first. -/
structure Journal where
  records : List Logging.Record := []
  events : List Event := []

namespace Journal

/-- Add what a handler produced. -/
def add (journal : Journal) (reaction : Reaction) : Journal :=
  ⟨reaction.records.reverse ++ journal.records, reaction.events.reverse ++ journal.events⟩

end Journal

/-- Something the host did with a guest: it entered an export, which found the
guest as it was then, or it wrote into guest memory. -/
inductive Access (σ : Type) where
  | call (name : String) (arguments : List UInt32) (found : Snapshot σ)
  | write (address : Address) (bytes : Bytes)

structure Instance (σ : Type) where
  module : Module σ
  handlers : Handlers
  memory : Memory
  state : σ
  /-- Whether guest code may not be entered any more. -/
  trapped : Bool
  journal : Journal
  /-- What the host did with the guest, the latest first.  It decides
  nothing. -/
  history : List (Access σ) := []

namespace Instance

inductive Ending (α : Type) where
  | returned (result : α)
  | trapped
  | refused (fault : Fault)

variable {σ : Type}

/-- The guest as its code finds it. -/
def snapshot (guest : Instance σ) : Snapshot σ := ⟨guest.memory, guest.state⟩

def follow {α : Type} : Run σ α → Instance σ → Ending α × Instance σ
  | .done result memory state, guest => (.returned result, { guest with memory, state })
  | .trap memory state, guest => (.trapped, { guest with memory, state })
  | .call request memory state rest, guest =>
    let reaction := guest.handlers.react memory request
    let guest := { guest with memory, state, journal := guest.journal.add reaction }
    match reaction.fault with
    | some fault => (.refused fault, guest)
    | none => follow rest guest

/-- The wording for what the engine says. -/
def engineText : String := "<wasm>"

/-- Write a record. -/
def log (logger : String) (level : Logging.Level) (text : String) : Operation (Instance σ) Unit :=
  fun guest =>
    let record := Logging.record logger level text
    let journal := { guest.journal with records := record :: guest.journal.records }
    .ok () { guest with journal }

def closeAfterTrap {α : Type} (name : String) : Operation (Instance σ) α := do
  modify fun guest => { guest with trapped := true }
  log "wasm.exports" .debug ("guest trap in " ++ name ++ ": " ++ engineText)
  Operation.report (Report.trapped name engineText)

def closedReport (name : String) : Report :=
  Report.make .guestTrap
    { message := "Policy module is unusable after an earlier trap"
      details := [("export", .text name)] }

/-- Call an exported function. -/
def call (name : String) (arguments : List Int) : Operation (Instance σ) (Option UInt32) :=
  fun guest =>
    match guest.module.find? name with
    | some (.function arity) =>
      if guest.trapped then .error (.report (closedReport name)) guest
      else if arguments.length ≠ arity then closeAfterTrap name guest
      else
        let words := arguments.map UInt32.ofInt
        let entered := { guest with history := .call name words guest.snapshot :: guest.history }
        match follow (guest.module.invoke name words guest.memory guest.state) entered with
        | (.returned result, guest) => .ok result guest
        | (.trapped, guest) => closeAfterTrap name guest
        -- An exception of a handler unwinds the code of the guest, which is left half done.
        | (.refused fault, guest) => .error fault { guest with trapped := true }
    | _ => .error (.report (Report.missingExports [name])) guest

def callWord (name : String) (arguments : List Int) : Operation (Instance σ) UInt32 := do
  match ← call name arguments with
  | some result => return result
  | none => throw .badType

def callAddress (name : String) (arguments : List Int) : Operation (Instance σ) Address := do
  return Address.ofWord (← callWord name arguments)

/-- Call a function for its effect. -/
def callVoid (name : String) (arguments : List Int) : Operation (Instance σ) Unit := do
  let _ ← call name arguments

/-- Require that names are exported as functions.  All that are not are
reported. -/
def require (names : List String) : Operation (Instance σ) Unit := fun guest =>
  match names.filter fun name => !guest.module.hasFunction name with
  | [] => .ok () guest
  | missing => .error (.report (Report.missingExports missing)) guest

def globalValue (guest : Instance σ) (name : String) (otherwise : Int) : Int :=
  match guest.module.find? name with
  | some (.constant value) => value
  | _ => otherwise

end Instance
end PolicyHost
