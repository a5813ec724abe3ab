import PolicyHost.Proofs.Footprint

namespace PolicyHost
namespace Host

/-!
# What the record of the lock decides

A host records what was done with its lock so that it can be told afterwards.
Nothing that the host does goes by that record, so hosts that differ in nothing
else cannot be told apart.
-/

variable {σ α : Type}

/-- Hosts that differ at most in what is recorded of their locks. -/
def SameBut (host host' : Host σ) : Prop := ∃ lockings, host' = { host with lockings }

theorem onGuest_respects (operation : Host σ → Operation (Instance σ) α)
    (same : ∀ host lockings, operation { host with lockings } = operation host) :
    Operation.Respects SameBut (onGuest operation) := by
  rintro host _ ⟨lockings, rfl⟩
  unfold Operation.outcome onGuest
  dsimp only
  rw [same host lockings]
  generalize operation host host.guest = result
  cases result <;> exact ⟨rfl, lockings, rfl⟩

theorem log_respects (logger : String) (level : Logging.Level) (text : String) :
    Operation.Respects SameBut (log (σ := σ) logger level text) :=
  onGuest_respects _ fun _ _ => rfl

theorem checkUsable_respects : Operation.Respects SameBut (checkUsable (σ := σ)) := by
  rintro ⟨guest, _, _, _, _, _, _, _, leak, _, _⟩ _ ⟨lockings, rfl⟩
  unfold Operation.outcome checkUsable
  dsimp only
  cases leak with
  | some leak => exact ⟨rfl, lockings, rfl⟩
  | none =>
    dsimp only
    by_cases lost : guest.trapped = true
    · rw [if_pos lost, if_pos lost]
      exact ⟨rfl, lockings, rfl⟩
    · rw [if_neg lost, if_neg lost]
      exact ⟨rfl, lockings, rfl⟩

theorem acquire_respects : Operation.Respects SameBut (acquire (σ := σ)) := by
  rintro ⟨_, _, _, _, _, _, _, busy, _, _, _⟩ _ ⟨lockings, rfl⟩
  unfold Operation.outcome acquire
  cases busy <;> exact ⟨rfl, _, rfl⟩

theorem release_respects (holder : Option ContextId) :
    Operation.Respects SameBut (release (σ := σ) holder) := by
  rintro ⟨_, _, _, _, _, _, _, busy, _, _, _⟩ _ ⟨lockings, rfl⟩
  unfold Operation.outcome release
  cases busy <;> exact ⟨rfl, _, rfl⟩

theorem exclusively_respects {operation : Operation (Host σ) α}
    (respects : Operation.Respects SameBut operation) :
    Operation.Respects SameBut (exclusively operation) :=
  acquire_respects.bind fun _ => respects.ensuring (release_respects none)

theorem resolve_respects (entrypoint : String) :
    Operation.Respects SameBut (resolve (σ := σ) entrypoint) := by
  rintro host _ ⟨lockings, rfl⟩
  unfold Operation.outcome resolve
  dsimp only
  generalize host.entrypoints.find? _ = found
  cases found <;> exact ⟨rfl, lockings, rfl⟩

theorem requireData_respects : Operation.Respects SameBut (requireData (σ := σ)) := by
  rintro ⟨_, _, _, _, _, dataset, _, _, _, _, _⟩ _ ⟨lockings, rfl⟩
  unfold Operation.outcome requireData
  cases dataset <;> exact ⟨rfl, lockings, rfl⟩

theorem context_respects (id : ContextId) :
    Operation.Respects SameBut (context (σ := σ) id) := by
  rintro host _ ⟨lockings, rfl⟩
  unfold Operation.outcome context
  dsimp only
  generalize host.contexts[id]? = found
  cases found <;> exact ⟨rfl, lockings, rfl⟩

theorem modify_respects (change : Host σ → Host σ)
    (apart : ∀ host lockings, change { host with lockings } = { change host with lockings }) :
    Operation.Respects SameBut (modify change) := by
  rintro host _ ⟨lockings, rfl⟩
  exact ⟨rfl, lockings, apart host lockings⟩

theorem setPhase_respects (id : ContextId) (phase : Phase) :
    Operation.Respects SameBut (setPhase (σ := σ) id phase) :=
  modify_respects _ fun _ _ => rfl

theorem setData_respects (value : Value) :
    Operation.Respects SameBut (setData (σ := σ) value) := by
  refine checkUsable_respects.bind fun _ => exclusively_respects ?_
  refine (Operation.respects_liftReport _).bind fun raw => ?_
  have installs : ∀ previous, Operation.Respects SameBut (do
      modify fun host : Host σ => { host with dataset := none }
      let installed ← onGuest fun host =>
        host.discipline.installData host.terms host.checkpoints previous raw
      modify fun host => { host with dataset := some installed.1, checkpoints := installed.2 }
      log "wasm.runtime" .debug ("installed " ++ toString raw.length ++ " byte dataset")) := by
    intro previous
    refine (modify_respects _ fun _ _ => rfl).bind fun _ => ?_
    refine (onGuest_respects _ fun _ _ => rfl).bind fun installed => ?_
    exact (modify_respects _ fun _ _ => rfl).bind fun _ => log_respects _ _ _
  rintro host _ ⟨lockings, rfl⟩
  exact installs host.dataset host _ ⟨lockings, rfl⟩

theorem eval_respects (entrypoint : String) (input : Value) (schema : Schema) :
    Operation.Respects SameBut (eval (σ := σ) entrypoint input schema) := by
  refine checkUsable_respects.bind fun _ => exclusively_respects ?_
  refine (resolve_respects entrypoint).bind fun found => requireData_respects.bind fun data => ?_
  exact onGuest_respects _ fun _ _ => rfl

theorem openContext_respects (input : Value) :
    Operation.Respects SameBut (openContext (σ := σ) input) := by
  refine checkUsable_respects.bind fun _ => acquire_respects.bind fun _ => ?_
  refine Operation.Respects.bind ?_ fun handle => ?_
  · exact (requireData_respects.bind fun data => onGuest_respects _ fun _ _ => rfl).onFault
      (release_respects none)
  · rintro host _ ⟨lockings, rfl⟩
    exact ⟨rfl, lockings, rfl⟩

theorem contextEval_respects (id : ContextId) (entrypoint : String) (schema : Schema) :
    Operation.Respects SameBut (contextEval (σ := σ) id entrypoint schema) := by
  refine (context_respects id).bind fun context => ?_
  have works : Operation.Respects SameBut (do
      setPhase id .evaluating
      checkUsable
      let found ← resolve entrypoint
      onGuest fun host : Host σ =>
        host.discipline.contextEval host.terms context.handle found.1 found.2 schema) := by
    refine (setPhase_respects id .evaluating).bind fun _ => checkUsable_respects.bind fun _ => ?_
    exact (resolve_respects entrypoint).bind fun found => onGuest_respects _ fun _ _ => rfl
  split
  · exact Operation.respects_throw _
  · exact works

theorem teardown_respects (id : ContextId) (unwinding : Bool) :
    Operation.Respects SameBut (teardown (σ := σ) id unwinding) := by
  refine (context_respects id).bind fun context => ?_
  split
  · exact Operation.respects_pure _
  refine (setPhase_respects id .destroyed).bind fun _ => Operation.Respects.bind
    ((onGuest_respects _ fun _ _ => rfl).ensuring (release_respects (some id))).attempt
    fun outcome => ?_
  cases outcome with
  | ok _ => exact Operation.respects_pure _
  | error fault =>
    cases unwinding with
    | true => exact log_respects _ _ _
    | false => exact (modify_respects _ fun _ _ => rfl).bind fun _ =>
        Operation.respects_throw _

theorem destroy_respects (id : ContextId) :
    Operation.Respects SameBut (destroy (σ := σ) id) := by
  refine (context_respects id).bind fun context => ?_
  split
  · exact Operation.respects_throw _
  · exact teardown_respects id false

theorem drop_respects (id : ContextId) : Operation.Respects SameBut (drop (σ := σ) id) := by
  refine (context_respects id).bind fun context => ?_
  split
  · exact Operation.respects_pure _
  refine (teardown_respects id false).attempt.bind fun outcome => ?_
  cases outcome with
  | ok _ => exact Operation.respects_pure _
  | error fault =>
    dsimp only
    split
    · exact log_respects _ _ _
    · exact Operation.respects_throw _

theorem perform_respects (use : Use) : Operation.Respects SameBut (perform (σ := σ) use) := by
  cases use with
  | setData value => exact (setData_respects value).bind fun _ => Operation.respects_pure _
  | eval entrypoint input schema =>
    exact (eval_respects entrypoint input schema).bind fun _ => Operation.respects_pure _
  | decide binding input =>
    refine Operation.Respects.bind ?_ fun _ => Operation.respects_pure _
    exact (Operation.respects_liftReport _).bind fun input =>
      eval_respects binding.path input binding.output
  | openContext input =>
    exact (openContext_respects input).bind fun _ => Operation.respects_pure _
  | contextEval id entrypoint schema =>
    exact (contextEval_respects id entrypoint schema).bind fun _ => Operation.respects_pure _
  | destroy id => exact (destroy_respects id).bind fun _ => Operation.respects_pure _
  | leave id unwinding =>
    exact (teardown_respects id unwinding).bind fun _ => Operation.respects_pure _
  | drop id => exact (drop_respects id).bind fun _ => Operation.respects_pure _
  | entrypointId entrypoint =>
    exact (resolve_respects entrypoint).bind fun _ => Operation.respects_pure _

/-- Hosts that differ at most in the record of their locks come to the same. -/
theorem SameBut.run {host host' : Host σ} (same : SameBut host host') (uses : List Use) :
    (run uses host').1 = (run uses host).1 := by
  induction uses generalizing host host' with
  | nil => exact rfl
  | cons use rest inductionHypothesis =>
    rcases perform_respects use host host' same with ⟨outcome, next⟩
    exact List.cons_eq_cons.mpr ⟨outcome.symm, inductionHypothesis next⟩

end Host
end PolicyHost
