import PolicyHost.Evaluation.Host

namespace PolicyHost

/-!
# Sessions

A session is a host together with names for what it handed out: contexts,
addresses and views.  Its steps are everything that can be done with a host,
from evaluating a decision to reading a byte of guest memory, and each step
answers with a value or fails with a fault.
-/

/-- A place in guest memory: a number, or the name of a stored address. -/
inductive Target where
  | number (offset : Int)
  | slot (name : String)
deriving DecidableEq, Repr

/-- A step that looks at guest memory or the export table directly. -/
inductive Probe where
  | call (name : String) (arguments : List Int)
  | has (name : String)
  | require (names : List String)
  | globalValue (name : String) (otherwise : Int)
  | allocate (length : Int) (slot : String)
  | free (target : Target)
  | place (bytes : Bytes) (slot : String)
  | heapPointer
  | setHeapPointer (target : Target)
  | write (target : Target) (bytes : Bytes)
  | read (target : Target) (length : Int)
  | readUntilZero (target : Target)
  | readText (target : Target)
  | ensure (stop : Int)
  | grow (pages : Int)
  | readView (slot : String) (offset : Int) (length : Option Int)
  | writeView (slot : String) (bytes : Bytes) (offset : Int)
  | writeValue (value : Value) (slot : String)
  | writeEncoded (bytes : Bytes) (slot : String)
  | readRaw (target : Target)
  | readValue (target : Target) (schema : Schema)

inductive Step where
  | setData (value : Value)
  | eval (entrypoint : String) (input : Value) (schema : Schema)
  /-- The same evaluation several times over. -/
  | evalRepeatedly (entrypoint : String) (input : Value) (times : Nat)
  | decide (binding : Except Fault Binding) (input : Value)
  | openContext (slot : String) (input : Value)
  | contextEval (slot : String) (entrypoint : String) (schema : Schema)
  | contextState (slot : String)
  | destroy (slot : String)
  | drop (slot : String)
  | block (input : Value) (steps : List (Host.BlockStep × Bool))
  | entrypointId (entrypoint : String)
  | probe (probe : Probe)

/-- What a step answers with. -/
inductive Reply where
  | value (v : Value)
  | phase (phase : Phase)
  | block (block : Host.Block)

structure Session (σ : Type) where
  host : Host σ
  contexts : List (String × ContextId) := []
  addresses : List (String × Address) := []
  views : List (String × Region.View) := []

namespace Session

variable {σ : Type}

def find? {α : Type} (slots : List (String × α)) (name : String) : Option α :=
  (slots.find? fun s => s.1 == name).map (·.2)

def store {α : Type} (slots : List (String × α)) (name : String) (a : α) : List (String × α) :=
  (name, a) :: slots.filter fun s => s.1 != name

def onHost {α : Type} (operation : Operation (Host σ) α) : Operation (Session σ) α :=
  fun session =>
    match operation session.host with
    | .ok a host => .ok a { session with host }
    | .error fault host => .error fault { session with host }

def onGuest {α : Type} (operation : Region.Terms → Operation (Instance σ) α) :
    Operation (Session σ) α :=
  onHost (Host.onGuest fun host => operation host.terms)

def contextAt (name : String) : Operation (Session σ) ContextId := do
  match find? (← get).contexts name with
  | some id => return id
  | none => throw .noSlot

def viewAt (name : String) : Operation (Session σ) Region.View := do
  match find? (← get).views name with
  | some view => return view
  | none => throw .noSlot

def resolve : Target → Operation (Session σ) Address
  | .number offset => Operation.lift (Address.ofInt offset)
  | .slot name => do
    match find? (← get).addresses name with
    | some address => return address
    | none => throw .noSlot

/-- Store an address under a name, and answer with it. -/
def keep (name : String) (address : Address) : Operation (Session σ) Value := do
  modify fun session => { session with addresses := store session.addresses name address }
  return .int address.offset

def optionalBytes : Option Bytes → Value
  | some b => .bytes b
  | none => .null

/-- Look at guest memory or the export table. -/
def runProbe : Probe → Operation (Session σ) Value
  | .call name arguments => do
    match ← onGuest fun _ => Instance.call name arguments with
    | some result => return .int result.toNat
    | none => return .null
  | .has name => return .bool ((← get).host.guest.module.find? name).isSome
  | .require names => do
    onGuest fun _ => Instance.require names
    return .null
  | .globalValue name otherwise => return .int ((← get).host.guest.globalValue name otherwise)
  | .allocate length slot => do
    let view ← onGuest fun _ => Region.allocate length
    modify fun session =>
      { session with
        addresses := store session.addresses slot view.address
        views := store session.views slot view }
    return .list [.int view.address.offset, .int view.length, .text view.literal]
  | .free target => do
    let address ← resolve target
    onGuest fun terms => Region.free terms address
    return .null
  | .place bytes slot => do keep slot (← onGuest fun terms => Region.place terms bytes)
  | .heapPointer => return .int (← onGuest fun _ => Region.heapPointer).offset
  | .setHeapPointer target => do
    let address ← resolve target
    onGuest fun _ => Region.setHeapPointer address
    return .null
  | .write target bytes => do
    let address ← resolve target
    onGuest fun terms => Region.write terms address bytes
    return .null
  | .read target length => do
    let address ← resolve target
    return .bytes (← onGuest fun _ => Region.read address length)
  | .readUntilZero target => do
    let address ← resolve target
    return optionalBytes (← onGuest fun _ => Region.readUntilZero address)
  | .readText target => do
    let address ← resolve target
    return Report.optionalText (← onGuest fun _ => Region.readText address)
  | .ensure stop => do
    onGuest fun terms => Region.ensure terms stop
    return .null
  | .grow pages => do
    onGuest fun terms => Region.grow terms pages
    return .null
  | .readView slot offset length => do
    let view ← viewAt slot
    return .bytes (← onGuest fun _ => Region.readView view offset length)
  | .writeView slot bytes offset => do
    let view ← viewAt slot
    onGuest fun terms => Region.writeView terms view bytes offset
    return .null
  | .writeValue value slot => do keep slot (← onGuest fun terms => Exchange.writeValue terms value)
  | .writeEncoded bytes slot => do
    keep slot (← onGuest fun terms => Exchange.writeEncoded terms bytes)
  | .readRaw target => do
    let address ← resolve target
    return .bytes (← onGuest fun terms => Exchange.readRaw terms address)
  | .readValue target schema => do
    let address ← resolve target
    onGuest fun terms => Exchange.readValue terms address schema

/-- Evaluate several times, and answer with the last result. -/
def evalTimes (entrypoint : String) (input : Value) :
    Nat → Value → Operation (Session σ) Value
  | 0, last => return last
  | times + 1, _ => do
    evalTimes entrypoint input times (← onHost (Host.eval entrypoint input .any))

def run : Step → Operation (Session σ) Reply
  | .setData value => do
    onHost (Host.setData value)
    return .value .null
  | .eval entrypoint input schema => do
    return .value (← onHost (Host.eval entrypoint input schema))
  | .evalRepeatedly entrypoint input times => do
    return .value (← evalTimes entrypoint input times .null)
  | .decide binding input => do
    let binding ← Operation.lift binding
    return .value (← onHost (Host.decide binding input))
  | .openContext slot input => do
    let id ← onHost (Host.openContext input)
    modify fun session => { session with contexts := store session.contexts slot id }
    return .phase .created
  | .contextEval slot entrypoint schema => do
    let id ← contextAt slot
    return .value (← onHost (Host.contextEval id entrypoint schema))
  | .contextState slot => do
    let id ← contextAt slot
    return .phase (← onHost (Host.context id)).phase
  | .destroy slot => do
    let id ← contextAt slot
    onHost (Host.destroy id)
    return .value .null
  | .drop slot => do
    let id ← contextAt slot
    modify fun session => { session with contexts := session.contexts.filter fun s => s.1 != slot }
    onHost (Host.drop id)
    return .value .null
  | .block input steps => return .block (← onHost (Host.withContext input steps))
  | .entrypointId entrypoint => return .value (.int (← onHost (Host.resolve entrypoint)).2)
  | .probe probe => return .value (← runProbe probe)

/-- Run a step and hand over what was logged and noted during it. -/
def advance (session : Session σ) (step : Step) : Except Fault Reply × Journal × Session σ :=
  let settle (session : Session σ) : Journal × Session σ :=
    (session.host.guest.journal,
      { session with
        host.guest.journal := {}
        host.guest.history := []
        host.lockings := [] })
  match run step session with
  | .ok reply session => (.ok reply, settle session)
  | .error fault session => (.error fault, settle session)

end Session
end PolicyHost
