import PolicyHost.Binding
import PolicyHost.Evaluation.Discipline

namespace PolicyHost

/-!
# Policy hosts

A host is an instance made ready for use: its entrypoints are known, a
dataset can be installed, and entrypoints can be evaluated, one at a time or
several against one input in an evaluation context.

A host does one thing at a time.  A lock is taken for every piece of work,
and an open context keeps it until it is destroyed.  Two things end the use
of a host for good: guest code that trapped, and a context whose guest memory
could not be released.
-/

/-- The life of an evaluation context. -/
inductive Phase where
  | created
  | evaluating
  | destroyed
deriving DecidableEq, Repr

def Phase.name : Phase → String
  | created => "created"
  | evaluating => "evaluating"
  | destroyed => "destroyed"

structure Context where
  handle : Handle
  phase : Phase
deriving DecidableEq, Repr

/-- A context by its place among all contexts a host ever created. -/
abbrev ContextId := Nat

/-- Something that was done with the lock of a host.  A context that ends gives
it back in its own name, and a piece of work in nobody's. -/
inductive Locking where
  | taken
  | released (holder : Option ContextId)
deriving DecidableEq, Repr

structure Host (σ : Type) where
  guest : Instance σ
  discipline : Discipline
  maxPages : Option Nat
  minor : Int
  entrypoints : List (String × Int)
  /-- The installed dataset. -/
  dataset : Option Address
  checkpoints : Checkpoints
  /-- Whether a piece of work or a context holds the host. -/
  busy : Bool
  /-- Why no context may be opened any more. -/
  leak : Option Report
  contexts : List Context
  /-- What was done with the lock, the latest first.  It decides nothing. -/
  lockings : List Locking := []

namespace Host

variable {σ : Type}

def literal (host : Host σ) : String :=
  "PolicyRuntime(entrypoints=" ++ toString host.entrypoints.length ++ ", abi_minor_version=" ++
    toString host.minor ++ ", strategy=" ++ Literal.ofText host.discipline.name ++ ")"

/-- Whether a dataset is installed. -/
def hasData (host : Host σ) : Bool := host.dataset.isSome

/-- The terms on which a host uses guest memory. -/
def terms (host : Host σ) : Region.Terms := host.discipline.terms host.maxPages

def onGuest {α : Type} (operation : Host σ → Operation (Instance σ) α) : Operation (Host σ) α :=
  fun host =>
    match operation host host.guest with
    | .ok a guest => .ok a { host with guest }
    | .error fault guest => .error fault { host with guest }

/-- Write a record. -/
def log (logger : String) (level : Logging.Level) (text : String) : Operation (Host σ) Unit :=
  onGuest fun _ => Instance.log logger level text

def leakReport (leak : Report) : Report :=
  Report.make .resourceLeak
    { message := "Policy runtime is unusable after an evaluation context leak"
      details := [("underlying_error", leak.details.get "underlying_error")] }

def trapReport : Report :=
  Report.make .guestTrap { message := "Policy runtime is unusable after a guest trap" }

/-- Fail unless the host can be used. -/
def checkUsable : Operation (Host σ) Unit := fun host =>
  match host.leak with
  | some leak => .error (.report (leakReport leak)) host
  | none => if host.guest.trapped then .error (.report trapReport) host else .ok () host

/-- Take the lock. -/
def acquire : Operation (Host σ) Unit := fun host =>
  if host.busy then .error (.report Report.runtimeBusy) host
  else .ok () { host with busy := true, lockings := .taken :: host.lockings }

/-- Give the lock back.  It has to be held. -/
def release (holder : Option ContextId) : Operation (Host σ) Unit := fun host =>
  let host := { host with lockings := .released holder :: host.lockings }
  if host.busy then .ok () { host with busy := false } else .error .unheldLock host

/-- Hold the lock during an operation. -/
def exclusively {α : Type} (operation : Operation (Host σ) α) : Operation (Host σ) α := do
  acquire
  Operation.ensuring operation (release none)

/-- The identifier of an entrypoint, under its normalized name. -/
def resolve (entrypoint : String) : Operation (Host σ) (String × Int) := fun host =>
  let path := normalizePath entrypoint
  match host.entrypoints.find? fun e => e.1 == path with
  | some e => .ok (path, e.2) host
  | none =>
    .error (.report (Report.unknownEntrypoint path (host.entrypoints.map (·.1)))) host

/-- The installed dataset. -/
def requireData : Operation (Host σ) Address := fun host =>
  match host.dataset with
  | some data => .ok data host
  | none => .error (.report Report.noData) host

/-- Replace the dataset. -/
def setData (value : Value) : Operation (Host σ) Unit := do
  checkUsable
  exclusively do
    let raw ← Operation.liftReport (Payload.encode value)
    let previous := (← get).dataset
    -- Until the new dataset is there, there is none.
    modify fun host => { host with dataset := none }
    let (document, checkpoints) ← onGuest fun host =>
      host.discipline.installData host.terms host.checkpoints previous raw
    modify fun host => { host with dataset := some document, checkpoints }
    log "wasm.runtime" .debug ("installed " ++ toString raw.length ++ " byte dataset")

def eval (entrypoint : String) (input : Value) (schema : Schema) : Operation (Host σ) Value := do
  checkUsable
  exclusively do
    let (path, id) ← resolve entrypoint
    let data ← requireData
    onGuest fun host =>
      host.discipline.evaluate host.terms host.checkpoints path id data input schema

/-- Evaluate a policy binding. -/
def decide (binding : Binding) (input : Value) : Operation (Host σ) Value := do
  let input ← Operation.liftReport (binding.prepareInput input)
  eval binding.path input binding.output

def openContext (input : Value) : Operation (Host σ) ContextId := do
  checkUsable
  acquire
  let handle ← Operation.onFault
    (do
      let data ← requireData
      onGuest fun host => host.discipline.openContext host.terms host.checkpoints data input)
    (release none)
  -- From here on the lock belongs to the context.
  modifyGet fun host =>
    (host.contexts.length, { host with contexts := host.contexts ++ [⟨handle, .created⟩] })

def context (id : ContextId) : Operation (Host σ) Context := fun host =>
  match host.contexts[id]? with
  | some context => .ok context host
  | none => .error .noSlot host

def setPhase (id : ContextId) (phase : Phase) : Operation (Host σ) Unit :=
  modify fun host => { host with contexts := host.contexts.modify id fun c => { c with phase } }

def contextEval (id : ContextId) (entrypoint : String) (schema : Schema) :
    Operation (Host σ) Value := do
  let context ← context id
  if context.phase = .destroyed then Operation.report Report.contextDestroyed
  setPhase id .evaluating
  checkUsable
  let (path, entrypoint) ← resolve entrypoint
  onGuest fun host =>
    host.discipline.contextEval host.terms context.handle path entrypoint schema

/-- Release what a context owns and give the lock back. -/
def releaseContext (id : ContextId) (handle : Handle) : Operation (Host σ) Unit :=
  Operation.ensuring
    (onGuest fun host => host.discipline.closeContext host.terms host.checkpoints handle)
    (release (some id))

def poison (leak : Report) : Operation (Host σ) Unit :=
  modify fun host => { host with leak := some leak }

/-- End the life of a context.  While another fault is on its way, a failure
is only logged. -/
def teardown (id : ContextId) (unwinding : Bool) : Operation (Host σ) Unit := do
  let context ← context id
  if context.phase = .destroyed then return ()
  -- This comes first, so that a context ends once, whatever fails below.
  setPhase id .destroyed
  match ← Operation.attempt (releaseContext id context.handle) with
  | .ok () => return ()
  | .error fault =>
    if unwinding then
      log "wasm.context" .warning
        ("suppressed context release failure while unwinding: " ++ fault.text)
    else
      let leak := Report.leaked fault.text
      poison leak
      Operation.report leak

def destroy (id : ContextId) : Operation (Host σ) Unit := do
  if (← context id).phase = .destroyed then Operation.report Report.contextDestroyed
  teardown id false

/-- Finalize a context nobody refers to any more. -/
def drop (id : ContextId) : Operation (Host σ) Unit := do
  if (← context id).phase = .destroyed then return ()
  match ← Operation.attempt (teardown id false) with
  | .ok () => return ()
  | .error fault =>
    if fault.isA .resourceLeak then
      log "wasm.context" .critical ("evaluation context leaked guest memory: " ++ fault.text)
    else throw fault

/-- Something done inside a block that holds a context. -/
inductive BlockStep where
  | eval (entrypoint : String) (schema : Schema)
  | destroy
  /-- The caller leaves the block. -/
  | interrupt

structure Block where
  results : List (Except Fault Value)
  leftWith : Option Fault

/-- Do one thing inside a block. -/
def runBlockStep (id : ContextId) : BlockStep → Operation (Host σ) Value
  | .eval entrypoint schema => contextEval id entrypoint schema
  | .destroy => do
    destroy id
    return .null
  | .interrupt => throw .interruption

/-- Run the steps of a block.  A caught step contributes its fault to the
results, and an uncaught one ends the block. -/
def runBlockSteps (id : ContextId) : List (BlockStep × Bool) → List (Except Fault Value) →
    Operation (Host σ) Block
  | [], results => return ⟨results.reverse, none⟩
  | (step, caught) :: rest, results => do
    match ← Operation.attempt (runBlockStep id step) with
    | .ok value => runBlockSteps id rest (.ok value :: results)
    | .error fault =>
      if caught then runBlockSteps id rest (.error fault :: results)
      else return ⟨results.reverse, some fault⟩

/-- Open a context for a block and destroy it when the block is left. -/
def withContext (input : Value) (steps : List (BlockStep × Bool)) : Operation (Host σ) Block := do
  match ← Operation.attempt (openContext input) with
  | .error fault => return ⟨[], some fault⟩
  | .ok id =>
    let block ← runBlockSteps id steps []
    match ← Operation.attempt (teardown id block.leftWith.isSome) with
    | .ok () => return block
    | .error fault => return { block with leftWith := some fault }

end Host
end PolicyHost
