import PolicyHost.Guest.Behaviour
import PolicyHost.Proofs.Pages

namespace PolicyHost

/-!
# Guest code and its memory

What guest code may do to its memory is up to the engine.  It writes inside, it
is given blank pages, and not more of them than the memory was made for.  Code
that is confined like this leads memory on at every step, up to every host call
and to its end.

The code of a policy is: each of its steps looks first whether what it reads or
writes lies in memory, and what is put together from such steps is confined too.
-/

variable {σ α β : Type}

namespace Run

/-- Every memory that a run comes to leads on from the one before it. -/
def LeadsFrom : Run σ α → Memory → Prop
  | .done _ after _, before => before.Leads after
  | .trap after _, before => before.Leads after
  | .call _ after _ rest, before => before.Leads after ∧ rest.LeadsFrom after

variable {run : Run σ α} {before middle : Memory}

theorem LeadsFrom.since (leads : run.LeadsFrom middle) (early : before.Leads middle) :
    run.LeadsFrom before := by
  cases run with
  | done result memory state => exact IsTrans.trans _ _ _ early leads
  | trap memory state => exact IsTrans.trans _ _ _ early leads
  | call request memory state rest => exact ⟨IsTrans.trans _ _ _ early leads.1, leads.2⟩

theorem LeadsFrom.andThen {next : α → Memory → σ → Run σ β} (leads : run.LeadsFrom before)
    (goesOn : ∀ result memory state, (next result memory state).LeadsFrom memory) :
    (run.andThen next).LeadsFrom before := by
  induction run generalizing before with
  | done result memory state => exact (goesOn result memory state).since leads
  | trap memory state => exact leads
  | call request memory state rest inductionHypothesis =>
    exact ⟨leads.1, inductionHypothesis leads.2⟩

theorem LeadsFrom.outcome {result : α} {after : Snapshot σ} (leads : run.LeadsFrom before)
    (ended : run.outcome = some (result, after)) : before.Leads after.memory := by
  induction run generalizing before with
  | done result memory state =>
    cases ended
    exact leads
  | trap memory state => cases ended
  | call request memory state rest inductionHypothesis =>
    exact IsTrans.trans _ _ _ leads.1 (inductionHypothesis leads.2 ended)

end Run

namespace Code

/-- Code that leads on every memory it is given. -/
def Confined (code : Code σ α) : Prop :=
  ∀ memory state, (code memory state).LeadsFrom memory

theorem confined_pure (a : α) : Confined (pure a : Code σ α) :=
  fun memory _ => refl memory

theorem Confined.bind {code : Code σ α} {next : α → Code σ β} (confined : code.Confined)
    (goesOn : ∀ a, (next a).Confined) : Confined (code >>= next) :=
  fun memory state => (confined memory state).andThen goesOn

theorem confined_trap : Confined (trap : Code σ α) :=
  fun memory _ => refl memory

theorem confined_memory : Confined (memory : Code σ Memory) :=
  fun memory _ => refl memory

theorem confined_state : Confined (state : Code σ σ) :=
  fun memory _ => refl memory

theorem confined_modify (f : σ → σ) : Confined (modify f) :=
  fun memory _ => refl memory

theorem confined_call (request : HostCall) : Confined (call request : Code σ Unit) :=
  fun memory _ => ⟨refl memory, refl memory⟩

end Code

/-- The engine keeps the code of a module to its memory. -/
structure Module.Confined (module : Module σ) : Prop where
  start : module.start.Confined
  invoke : ∀ name arguments, (module.invoke name arguments).Confined

/-!
### The code of policies
-/

namespace PolicyCode

open Code

theorem loadAt_confined (place count : Nat) : Confined (loadAt place count) := by
  intro memory state
  unfold loadAt
  split <;> exact refl memory

theorem storeAt_confined (place : Nat) (bytes : Bytes) : Confined (storeAt place bytes) := by
  intro memory state
  unfold storeAt
  split
  · rename_i inside
    exact Memory.leads_overwrite fun _ => of_decide_eq_true inside
  · exact refl memory

theorem store_confined (address : UInt32) (bytes : Bytes) : Confined (store address bytes) :=
  storeAt_confined _ bytes

theorem loadWord_confined (record : UInt32) (offset : Nat) : Confined (loadWord record offset) :=
  (loadAt_confined _ _).bind fun _ => confined_pure _

theorem storeWord_confined (record : UInt32) (offset : Nat) (word : UInt32) :
    Confined (storeWord record offset word) :=
  storeAt_confined _ _

theorem copy_confined (target source count : UInt32) : Confined (copy target source count) := by
  intro memory state
  unfold copy
  split
  · rename_i inside
    simp only [Memory.contains, Bool.and_eq_true, decide_eq_true_eq] at inside
    refine Memory.leads_overwrite fun sound => ?_
    have size_le := sound.size_le
    rw [Memory.bytes_length _ _ _ (by omega)]
    exact inside.2
  · exact refl memory

theorem fill_confined (target : UInt32) (byte : UInt8) (count : UInt32) :
    Confined (fill target byte count) := by
  intro memory state
  unfold fill
  split
  · rename_i inside
    refine Memory.leads_overwrite fun _ => ?_
    rw [List.length_replicate]
    exact of_decide_eq_true inside
  · exact refl memory

theorem growTo_leads (stop budget : Nat) (memory : Memory) :
    memory.Leads (growTo stop budget memory).1 := by
  induction budget generalizing memory with
  | zero => exact refl memory
  | succ budget inductionHypothesis =>
    unfold growTo
    split
    · cases grown : memory.grow? 1 with
      | some larger =>
        exact IsTrans.trans _ _ _ (Memory.leads_grown grown) (inductionHypothesis larger)
      | none => exact refl memory
    · exact refl memory

theorem allocate_confined (size : UInt32) : Confined (allocate size) := by
  intro memory state
  unfold allocate
  have grows := growTo_leads ((((state.heap + 7) &&& 0xFFFFFFF8) + size).toNat) (mostPages + 1)
    memory
  revert grows
  dsimp only
  generalize growTo _ _ memory = grown
  rcases grown with ⟨larger, enough⟩
  cases enough <;> exact id

theorem newDocument_confined (size : UInt32) : Confined (newDocument size) := by
  refine (allocate_confined _).bind fun document => ?_
  refine (storeWord_confined _ _ _).bind fun _ => ?_
  exact (storeWord_confined _ _ _).bind fun _ => confined_pure _

theorem parse_confined (address size : UInt32) : Confined (parse address size) := by
  unfold parse
  split
  · exact confined_pure _
  · refine (newDocument_confined size).bind fun document => ?_
    exact (copy_confined _ _ _).bind fun _ => confined_pure _

theorem dump_confined (document : UInt32) : Confined (dump document) := by
  refine (loadWord_confined _ _).bind fun size => confined_state.bind fun state => ?_
  split
  · refine (confined_modify _).bind fun _ => confined_memory.bind fun memory => ?_
    refine (loadWord_confined _ _).bind fun text => ?_
    exact (copy_confined _ _ _).bind fun _ => confined_pure _
  · refine (allocate_confined _).bind fun target => (loadWord_confined _ _).bind fun text => ?_
    refine (copy_confined _ _ _).bind fun _ => ?_
    exact (store_confined _ _).bind fun _ => confined_pure _

theorem partSize_confined (input data : UInt32) (part : Part) :
    Confined (partSize input data part) := by
  cases part with
  | text bytes => exact confined_pure _
  | repeated byte count => exact confined_pure _
  | input => exact loadWord_confined _ _
  | data => exact loadWord_confined _ _
  | hasData =>
    refine (loadWord_confined _ _).bind fun size => ?_
    split <;> exact confined_pure _

theorem answerSize_confined (input data : UInt32) (parts : List Part) :
    Confined (answerSize input data parts) := by
  induction parts with
  | nil => exact confined_pure _
  | cons part rest inductionHypothesis =>
    refine (partSize_confined input data part).bind fun size => ?_
    exact inductionHypothesis.bind fun _ => confined_pure _

theorem writeParts_confined (input data target : UInt32) (parts : List Part) :
    Confined (writeParts input data target parts) := by
  induction parts generalizing target with
  | nil => exact confined_pure _
  | cons part rest inductionHypothesis =>
    refine (partSize_confined input data part).bind fun size => ?_
    cases part with
    | text bytes => exact (store_confined _ _).bind fun _ => inductionHypothesis _
    | repeated byte count => exact (fill_confined _ _ _).bind fun _ => inductionHypothesis _
    | input =>
      refine (loadWord_confined _ _).bind fun text => ?_
      exact (copy_confined _ _ _).bind fun _ => inductionHypothesis _
    | data =>
      refine (loadWord_confined _ _).bind fun text => ?_
      exact (copy_confined _ _ _).bind fun _ => inductionHypothesis _
    | hasData => exact (store_confined _ _).bind fun _ => inductionHypothesis _

theorem perform_confined (texts : List Bytes) (action : Action) :
    Confined (perform texts action) := by
  cases action with
  | trap => exact confined_trap
  | allocate size => exact (allocate_confined size).bind fun _ => confined_pure _
  | _ => exact confined_call _

theorem performAll_confined (texts : List Bytes) (actions : List Action) :
    Confined (performAll texts actions) := by
  induction actions with
  | nil => exact confined_pure _
  | cons action rest inductionHypothesis =>
    exact (perform_confined texts action).bind fun _ => inductionHypothesis

theorem evaluate_confined (policy : Policy) (entrypoint input data : UInt32) :
    Confined (evaluate policy entrypoint input data) := by
  unfold evaluate
  split
  · exact confined_trap
  · refine (performAll_confined _ _).bind fun _ => (answerSize_confined _ _ _).bind fun size => ?_
    refine (newDocument_confined size).bind fun document => ?_
    exact (writeParts_confined _ _ _ _).bind fun _ => confined_pure _

theorem work_confined (policy : Policy) (name : String) (arguments : List UInt32) :
    Confined (work policy name arguments) := by
  unfold work
  split
  · refine (newDocument_confined _).bind fun document => ?_
    exact (store_confined _ _).bind fun _ => confined_pure _
  · exact (allocate_confined _).bind fun _ => confined_pure _
  · dsimp only
    split
    · exact (confined_modify _).bind fun _ => confined_pure _
    · exact confined_pure _
  · exact (parse_confined _ _).bind fun _ => confined_pure _
  · exact (dump_confined _).bind fun _ => confined_pure _
  · exact confined_state.bind fun _ => confined_pure _
  · exact (confined_modify _).bind fun _ => confined_pure _
  · refine (allocate_confined _).bind fun context => ?_
    exact (fill_confined _ _ _).bind fun _ => confined_pure _
  · exact (storeWord_confined _ _ _).bind fun _ => confined_pure _
  · exact (storeWord_confined _ _ _).bind fun _ => confined_pure _
  · exact (storeWord_confined _ _ _).bind fun _ => confined_pure _
  · exact (loadWord_confined _ _).bind fun _ => confined_pure _
  · refine (loadWord_confined _ _).bind fun entrypoint => (loadWord_confined _ _).bind
      fun input => (loadWord_confined _ _).bind fun data => ?_
    refine (evaluate_confined _ _ _ _).bind fun answer => ?_
    exact (storeWord_confined _ _ _).bind fun _ => confined_pure _
  · refine (confined_modify _).bind fun _ => (parse_confined _ _).bind fun document => ?_
    refine (evaluate_confined _ _ _ _).bind fun answer => ?_
    exact (dump_confined _).bind fun _ => confined_pure _
  · split <;> exact confined_pure _

theorem misbehave_confined (name : String) {work : PolicyCode (Option UInt32)}
    (confined : Confined work) (misbehaviours : List Misbehaviour) :
    Confined (misbehave name work misbehaviours) := by
  induction misbehaviours with
  | nil => exact confined
  | cons misbehaviour rest inductionHypothesis =>
    cases misbehaviour with
    | trap => exact confined_trap
    | result value => exact confined_pure _
    | atEnd => exact (confined_modify _).bind fun _ => inductionHypothesis

end PolicyCode

/-- The code of a policy is confined, whatever the policy and however its module
misbehaves. -/
theorem Policy.confined (policy : Policy) : policy.toModule.Confined where
  start := by
    unfold toModule
    dsimp only
    have performs := PolicyCode.performAll_confined policy.ownTexts policy.start
    split
    · exact performs
    · exact (PolicyCode.store_confined _ _).bind fun _ => performs
  invoke name arguments := by
    refine Code.confined_state.bind fun state => (Code.confined_modify _).bind fun _ => ?_
    exact PolicyCode.misbehave_confined name (PolicyCode.work_confined policy name arguments) _

end PolicyHost
