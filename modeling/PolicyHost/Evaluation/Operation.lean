import PolicyHost.Fault

namespace PolicyHost

/-!
# Operations

An operation changes a state and either returns or fails with a fault.  A
failed operation keeps the changes it made before it failed: the guest's
memory does not come back, and it is the business of whoever called to clean
up.  The combinators for cleaning up are spelled out here, since they decide
which of two faults a caller gets to see.
-/

/-- An operation on a state of type `S`. -/
abbrev Operation (S : Type) : Type → Type := EStateM Fault S

namespace Operation

def report {S α : Type} (r : Report) : Operation S α := throw (.report r)

def lift {S α : Type} : Except Fault α → Operation S α
  | .ok a => pure a
  | .error fault => throw fault

/-- Lift the outcome of a pure step that fails with reports only. -/
def liftReport {S α : Type} : Except Report α → Operation S α
  | .ok a => pure a
  | .error r => report r

/-- The outcome of an operation, which itself does not fail. -/
def attempt {S α : Type} (operation : Operation S α) : Operation S (Except Fault α) := fun s =>
  match operation s with
  | .ok a s => .ok (.ok a) s
  | .error fault s => .ok (.error fault) s

/-- Run `cleanup` after an operation, whether it failed or not.  A fault of
the cleanup replaces that of the operation. -/
def ensuring {S α : Type} (operation : Operation S α) (cleanup : Operation S Unit) :
    Operation S α := fun s =>
  match operation s with
  | .ok a s =>
    match cleanup s with
    | .ok _ s => .ok a s
    | .error fault s => .error fault s
  | .error fault s =>
    match cleanup s with
    | .ok _ s => .error fault s
    | .error later s => .error later s

/-- Run `cleanup` after an operation that failed, and fail with its fault. -/
def onFault {S α : Type} (operation : Operation S α) (cleanup : Operation S Unit) :
    Operation S α := fun s =>
  match operation s with
  | .ok a s => .ok a s
  | .error fault s =>
    match cleanup s with
    | .ok _ s => .error fault s
    | .error later s => .error later s

end Operation
end PolicyHost
