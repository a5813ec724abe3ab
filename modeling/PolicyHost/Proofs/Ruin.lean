import PolicyHost.Proofs.Finality

namespace PolicyHost

/-!
# Hosts without a guest

Once its guest is lost a host has nothing left to ask, and what a use comes to
is decided by the little that the host knows of itself.  A `Ruin` is that
little.  It computes, so two hosts whose ruins are the same cannot be told
apart any more.
-/

/-- What is left of a host whose guest was lost. -/
structure Ruin where
  discipline : Discipline
  entrypoints : List (String × Int)
  leak : Option Report
  busy : Bool
  /-- Which contexts were ended, the first one first. -/
  ended : List Bool

variable {σ : Type}

def Context.ended (context : Context) : Bool := context.phase = .destroyed

/-- What is left of a host if its guest is lost. -/
def Host.ruin (host : Host σ) : Ruin where
  discipline := host.discipline
  entrypoints := host.entrypoints
  leak := host.leak
  busy := host.busy
  ended := host.contexts.map Context.ended

namespace Ruin

/-- What whoever needs the guest is told. -/
def barred (ruin : Ruin) : Fault :=
  .report (match ruin.leak with
    | some leak => Host.leakReport leak
    | none => Host.trapReport)

/-- What a use of a context comes to, by whether it was ended. -/
def within (ruin : Ruin) (id : ContextId) (again : Except Fault Host.Answer)
    (going : Except Fault Host.Answer × Ruin) : Except Fault Host.Answer × Ruin :=
  match ruin.ended[id]? with
  | none => (.error .noSlot, ruin)
  | some true => (again, ruin)
  | some false => going

/-- A context is ended, and the lock is given back. -/
def finish (ruin : Ruin) (id : ContextId) : Ruin :=
  { ruin with busy := false, ended := ruin.ended.set id true }

/-- What an end of a context that cannot be released is reported as. -/
def leaked (ruin : Ruin) : Report :=
  Report.leaked (Host.stuck ruin.discipline ruin.busy).text

/-- A context is ended, and nobody looks away. -/
def leakAt (ruin : Ruin) (id : ContextId) : Ruin :=
  { ruin.finish id with leak := some ruin.leaked }

def perform (ruin : Ruin) : Host.Use → Except Fault Host.Answer × Ruin
  | .setData _ | .eval _ _ _ | .openContext _ => (.error ruin.barred, ruin)
  | .decide binding input =>
    match binding.prepareInput input with
    | .error r => (.error (.report r), ruin)
    | .ok _ => (.error ruin.barred, ruin)
  | .contextEval id _ _ =>
    ruin.within id (.error (.report Report.contextDestroyed)) (.error ruin.barred, ruin)
  | .destroy id =>
    ruin.within id (.error (.report Report.contextDestroyed))
      (.error (.report ruin.leaked), ruin.leakAt id)
  | .leave id unwinding =>
    ruin.within id (.ok .done)
      (if unwinding then (.ok .done, ruin.finish id)
        else (.error (.report ruin.leaked), ruin.leakAt id))
  | .drop id => ruin.within id (.ok .done) (.ok .done, ruin.leakAt id)
  | .entrypointId entrypoint =>
    (((Service.unused Unit ruin.entrypoints).resolve entrypoint).map fun e => .entrypoint e.2, ruin)

end Ruin

namespace Host

variable {host : Host σ}

theorem ended_modify_eq (contexts : List Context) (id : ContextId) (phase : Phase) :
    (contexts.modify id fun c => { c with phase }).map Context.ended =
      (contexts.map Context.ended).set id (phase = .destroyed) := by
  refine List.ext_getElem? fun other => ?_
  rw [List.getElem?_map, List.getElem?_modify, List.getElem?_set, List.getElem?_map]
  by_cases here : id = other
  · subst here
    by_cases inside : id < contexts.length
    · simp [inside, Context.ended]
    · simp [inside]
  · simp [here]

/-- Setting the phase of a context to one in which it is not ended changes
nothing if it was not ended. -/
theorem ended_modify_going {contexts : List Context} {id : ContextId} {context : Context}
    {phase : Phase} (found : contexts[id]? = some context) (going : context.phase ≠ .destroyed)
    (still : phase ≠ .destroyed) :
    (contexts.modify id fun c => { c with phase }).map Context.ended =
      contexts.map Context.ended := by
  rw [ended_modify_eq]
  refine List.ext_getElem? fun other => ?_
  rw [List.getElem?_set]
  split
  · rename_i here
    subst here
    rw [List.getElem?_map, found, if_pos (by simpa using (List.getElem?_eq_some_iff.mp found).1)]
    simp [still, Context.ended, going]
  · rfl

/-- An operation comes to this result, as far as the ruin of the host goes. -/
def Tells (operation : Operation (Host σ) Answer) (host : Host σ)
    (result : Except Fault Answer × Ruin) : Prop :=
  Operation.Ends operation host (fun answer after => result = (.ok answer, after.ruin))
    (fun fault after => result = (.error fault, after.ruin))

section Within

variable {id : ContextId} {again : Except Fault Answer} {going : Except Fault Answer × Ruin}

/-- What is done with a context goes by whether there is one, and whether it was
ended. -/
theorem tells_within {operation : Operation (Host σ) Answer}
    (unknown : host.contexts[id]? = none → Tells operation host (.error .noSlot, host.ruin))
    (ended : ∀ context : Context, host.contexts[id]? = some context → context.phase = .destroyed →
      Tells operation host (again, host.ruin))
    (goes : ∀ context : Context, host.contexts[id]? = some context → context.phase ≠ .destroyed →
      Tells operation host going) :
    Tells operation host (host.ruin.within id again going) := by
  unfold Ruin.within
  rw [show host.ruin.ended[id]? = host.contexts[id]?.map Context.ended from List.getElem?_map]
  cases found : host.contexts[id]? with
  | none => exact unknown found
  | some context =>
    by_cases phase : context.phase = .destroyed
    · rw [Option.map_some, show context.ended = true from decide_eq_true phase]
      exact ended context found phase
    · rw [Option.map_some, show context.ended = false from decide_eq_false phase]
      exact goes context found phase

/-- So it is when the context is looked up first. -/
theorem context_tells {α : Type} {next : Context → Operation (Host σ) α}
    {last : α → Operation (Host σ) Answer}
    (ended : ∀ context : Context, context.phase = .destroyed →
      Tells (next context >>= last) host (again, host.ruin))
    (goes : ∀ context : Context, host.contexts[id]? = some context → context.phase ≠ .destroyed →
      Tells (next context >>= last) host going) :
    Tells (context id >>= next >>= last) host (host.ruin.within id again going) := by
  have looks : ∀ context, host.contexts[id]? = some context → ∀ result,
      Tells (next context >>= last) host result →
        Tells (Host.context id >>= next >>= last) host result := by
    intro context found result tells
    unfold Tells at tells ⊢
    rw [Operation.ends_bind] at tells
    rw [Operation.ends_bind, Operation.ends_bind, context_ends, found]
    exact tells
  refine tells_within (fun missing => ?_) (fun context found phase => ?_)
    fun context found phase => ?_
  · unfold Tells
    rw [Operation.ends_bind, Operation.ends_bind, context_ends, missing]
  · exact looks context found _ (ended context phase)
  · exact looks context found _ (goes context found phase)

end Within

variable (lost : host.guest.trapped = true)
include lost

theorem eval_tells (entrypoint : String) (input : Value) (schema : Schema) :
    Tells (eval entrypoint input schema >>= fun value => pure (.value value)) host
      (.error host.ruin.barred, host.ruin) := by
  unfold Tells eval
  rw [Operation.ends_bind, Operation.ends_bind, checkUsable_lost lost]
  rfl

theorem contextEval_tells (id : ContextId) (entrypoint : String) (schema : Schema) :
    Tells (contextEval id entrypoint schema >>= fun value => pure (.value value)) host
      (host.ruin.perform (.contextEval id entrypoint schema)) := by
  unfold contextEval
  refine context_tells (fun context ended => ?_) fun context found going => ?_
  · rw [if_pos ended]
    rfl
  · rw [if_neg going]
    unfold Tells
    rw [Operation.ends_bind, Operation.ends_bind, setPhase, Operation.ends_modify,
      Operation.ends_bind, checkUsable_lost (by exact lost)]
    unfold ruin
    dsimp only
    rw [ended_modify_going found going (by decide)]
    rfl

variable (equipped : host.discipline.Equips host.guest.module)
include equipped

/-- A context that is going on is ended, and that fails unless nobody looks. -/
theorem teardown_ruin (id : ContextId) (unwinding : Bool) (context : Context)
    (found : host.contexts[id]? = some context) (going : context.phase ≠ .destroyed) :
    Operation.Ends (teardown id unwinding) host
      (fun _ after => unwinding = true ∧ after.ruin = host.ruin.finish id)
      (fun fault after => unwinding = false ∧ fault = .report host.ruin.leaked ∧
        after.ruin = host.ruin.leakAt id) := by
  have marked : (host.marked id).contexts.map Context.ended =
      (host.contexts.map Context.ended).set id true := ended_modify_eq host.contexts id .destroyed
  rw [teardown_ends id unwinding context found going]
  refine (releaseContext_lost id context.handle (by exact lost) (by exact equipped)).mono
    (fun _ _ => False.elim) ?_
  rintro fault after ⟨rfl, rfl⟩
  cases unwinding with
  | true =>
    rw [if_pos rfl]
    refine log_ends _ _ _ _ _ _ fun journal => ⟨rfl, ?_⟩
    unfold ruin Ruin.finish
    dsimp only
    rw [marked]
    rfl
  | false =>
    refine ⟨rfl, rfl, ?_⟩
    unfold ruin Ruin.leakAt Ruin.finish
    dsimp only
    rw [marked]
    rfl

theorem destroy_tells (id : ContextId) :
    Tells (destroy id >>= fun _ => pure .done) host (host.ruin.perform (.destroy id)) := by
  unfold destroy
  refine context_tells (fun context ended => ?_) fun context found going => ?_
  · rw [if_pos ended]
    rfl
  · rw [if_neg going]
    unfold Tells
    rw [Operation.ends_bind]
    refine (teardown_ruin lost equipped id false context found going).mono ?_ ?_
    · rintro _ _ ⟨impossible, _⟩
      cases impossible
    · rintro _ after ⟨_, rfl, same⟩
      rw [same]

theorem leave_tells (id : ContextId) (unwinding : Bool) :
    Tells (teardown id unwinding >>= fun _ => pure .done) host
      (host.ruin.perform (.leave id unwinding)) := by
  refine tells_within (fun found => ?_) (fun context found ended => ?_)
    fun context found going => ?_
  · unfold Tells teardown
    rw [Operation.ends_bind, Operation.ends_bind, context_ends, found]
  · unfold Tells teardown
    rw [Operation.ends_bind, Operation.ends_bind, context_ends, found]
    dsimp only
    rw [if_pos ended]
    rfl
  · unfold Tells
    rw [Operation.ends_bind]
    refine (teardown_ruin lost equipped id unwinding context found going).mono ?_ ?_
    · rintro _ after ⟨rfl, same⟩
      rw [if_pos rfl, Operation.ends_pure, same]
    · rintro _ after ⟨rfl, rfl, same⟩
      rw [if_neg Bool.false_ne_true, same]

theorem drop_tells (id : ContextId) :
    Tells (drop id >>= fun _ => pure .done) host (host.ruin.perform (.drop id)) := by
  unfold drop
  refine context_tells (fun context ended => ?_) fun context found going => ?_
  · rw [if_pos ended]
    rfl
  · rw [if_neg going]
    unfold Tells
    rw [Operation.ends_bind, Operation.ends_bind, Operation.ends_attempt]
    refine (teardown_ruin lost equipped id false context found going).mono ?_ ?_
    · rintro _ _ ⟨impossible, _⟩
      cases impossible
    · rintro _ after ⟨_, rfl, same⟩
      dsimp only
      rw [if_pos (by rfl)]
      refine log_ends _ _ _ _ _ _ fun journal => ?_
      exact congrArg (Prod.mk _) same.symm

/-- A lost host does what its ruin says, and its ruin is then what its ruin
says it is. -/
theorem perform_tells (use : Use) : Tells (perform use) host (host.ruin.perform use) := by
  unfold perform
  cases use with
  | setData value =>
    unfold Tells setData
    rw [Operation.ends_bind, Operation.ends_bind, checkUsable_lost lost]
    rfl
  | eval entrypoint input schema => exact eval_tells lost entrypoint input schema
  | decide binding input =>
    unfold Tells decide
    rw [Operation.ends_bind, Operation.ends_bind, Operation.ends_liftReport, Ruin.perform]
    cases binding.prepareInput input with
    | error r => rfl
    | ok input =>
      have evaluated := eval_tells lost binding.path input binding.output
      unfold Tells at evaluated
      rwa [Operation.ends_bind] at evaluated
  | openContext input =>
    unfold Tells openContext
    rw [Operation.ends_bind, Operation.ends_bind, checkUsable_lost lost]
    rfl
  | contextEval id entrypoint schema => exact contextEval_tells lost id entrypoint schema
  | destroy id => exact destroy_tells lost equipped id
  | leave id unwinding => exact leave_tells lost equipped id unwinding
  | drop id => exact drop_tells lost equipped id
  | entrypointId entrypoint =>
    unfold Tells
    rw [Operation.ends_bind, resolve_ends host (.unused Unit host.entrypoints) entrypoint rfl,
      Ruin.perform, show host.ruin.entrypoints = host.entrypoints from rfl]
    cases (Service.unused Unit host.entrypoints).resolve entrypoint <;> rfl

end Host
end PolicyHost
