import PolicyHost.Guest.Memory

namespace PolicyHost

/-!
# Guest modules

A module is what the engine makes of a policy: exports that can be called,
and a start function that runs once.  Guest code computes on its memory and
on a state of its own, calls host functions on the way, and ends with a
result or a trap.  Nothing else about guest code is assumed.

A run is written down as what happens, in order.  Host functions change
neither memory nor guest state, so a run goes on after a host call exactly
where it stopped.
-/

inductive HostCall where
  /-- The policy gave up, with a message at an address. -/
  | abort (address : UInt32)
  /-- The policy printed, with a text at an address. -/
  | print (address : UInt32)
  /-- A builtin the module does not implement, and how many arguments it was
  given. -/
  | builtin (arity : Nat) (id : Int)
deriving DecidableEq, Repr

structure Snapshot (σ : Type) where
  memory : Memory
  state : σ

/-- What guest code does. -/
inductive Run (σ α : Type) where
  | done (result : α) (memory : Memory) (state : σ)
  | trap (memory : Memory) (state : σ)
  | call (request : HostCall) (memory : Memory) (state : σ) (rest : Run σ α)

namespace Run

def andThen {σ α β : Type} : Run σ α → (α → Memory → σ → Run σ β) → Run σ β
  | .done result memory state, next => next result memory state
  | .trap memory state, _ => .trap memory state
  | .call request memory state rest, next => .call request memory state (rest.andThen next)

end Run

/-- Guest code as a step of a longer computation. -/
def Code (σ α : Type) : Type := Memory → σ → Run σ α

namespace Code

instance {σ : Type} : Monad (Code σ) where
  pure a := fun memory state => .done a memory state
  bind code next := fun memory state => (code memory state).andThen next

def trap {σ α : Type} : Code σ α := fun memory state => .trap memory state

def memory {σ : Type} : Code σ Memory := fun memory state => .done memory memory state

def setMemory {σ : Type} (memory : Memory) : Code σ Unit := fun _ state => .done () memory state

/-- The guest's own state. -/
def state {σ : Type} : Code σ σ := fun memory state => .done state memory state

/-- Change the guest's own state. -/
def modify {σ : Type} (f : σ → σ) : Code σ Unit := fun memory state => .done () memory (f state)

def call {σ : Type} (request : HostCall) : Code σ Unit :=
  fun memory state => .call request memory state (.done () memory state)

end Code

inductive Export where
  /-- A function and the number of its arguments. -/
  | function (arity : Nat)
  /-- A global and its value. -/
  | constant (value : Int)
deriving DecidableEq, Repr

structure Module (σ : Type) where
  exports : List (String × Export)
  /-- The least size of the memory it imports, in pages. -/
  memoryLeast : Nat
  /-- The greatest maximum it accepts for that memory. -/
  memoryMost : Option Nat
  /-- Whether it imports something the host does not have. -/
  importsUnknown : Bool
  initial : σ
  start : Code σ Unit
  /-- Run an exported function.  It is only called with the right number of
  arguments. -/
  invoke : String → List UInt32 → Code σ (Option UInt32)

namespace Module

def find? {σ : Type} (module : Module σ) (name : String) : Option Export :=
  (module.exports.find? fun e => e.1 == name).map (·.2)

def hasFunction {σ : Type} (module : Module σ) (name : String) : Bool :=
  match module.find? name with
  | some (.function _) => true
  | _ => false

def accepts {σ : Type} (module : Module σ) (memory : Memory) : Bool :=
  !module.importsUnknown && module.memoryLeast ≤ memory.pages &&
    match module.memoryMost with
    | none => true
    | some most =>
      match memory.limit with
      | none => false
      | some limit => limit ≤ most

end Module
end PolicyHost
