import PolicyHost.Proofs.Construction
import PolicyHost.Proofs.Lockstep
import PolicyHost.Proofs.ShelfLaws

namespace PolicyHost

/-!
# One thing at a time

Whatever the guest does, and however a use ends, the lock of a host is held
exactly as long as one of its contexts is open.  What a use can do to the lock
and to the contexts is said once, by `Turn`; the rest is read off that.
-/

variable {σ α : Type}

namespace Host

variable {host before middle after : Host σ} {operation : Operation (Host σ) α}

/-- Whether a context was ended. -/
def Ended (host : Host σ) (id : ContextId) : Prop :=
  (host.contexts[id]?).map (·.phase) = some .destroyed

instance (host : Host σ) (id : ContextId) : Decidable (host.Ended id) :=
  inferInstanceAs (Decidable (_ = _))

/-- How often a context gave back the lock. -/
def releases (host : Host σ) (id : ContextId) : Nat :=
  host.lockings.count (.released (some id))

/-- The log of a lock that was never given back while it was free, and whether
it is held after that. -/
inductive Alternates : Bool → List Locking → Prop
  | fresh : Alternates false []
  | taken {earlier : List Locking} : Alternates false earlier → Alternates true (.taken :: earlier)
  | released {earlier : List Locking} (holder : Option ContextId) :
    Alternates true earlier → Alternates false (.released holder :: earlier)

theorem Alternates.held {held : Bool} {lockings : List Locking}
    (alternates : Alternates held lockings) (later earlier : List Locking)
    (holder : Option ContextId) (split : lockings = later ++ .released holder :: earlier) :
    earlier.head? = some .taken := by
  induction alternates generalizing later with
  | fresh => simp at split
  | taken _ inductionHypothesis =>
    cases later with
    | nil => cases split
    | cons _ later => exact inductionHypothesis later (List.cons.inj split).2
  | released _ before inductionHypothesis =>
    cases later with
    | nil =>
      cases split
      cases before
      rfl
    | cons _ later => exact inductionHypothesis later (List.cons.inj split).2

structure SameLock (before after : Host σ) : Prop where
  busy_eq : after.busy = before.busy
  lockings_eq : after.lockings = before.lockings
  contexts_eq : after.contexts = before.contexts

instance : IsPreorder (Host σ) SameLock where
  refl _ := ⟨rfl, rfl, rfl⟩
  trans _ _ _ first second :=
    ⟨second.busy_eq.trans first.busy_eq, second.lockings_eq.trans first.lockings_eq,
      second.contexts_eq.trans first.contexts_eq⟩

/-- What a use can do to the lock and to the contexts. -/
inductive Turn (before after : Host σ) : Prop
  | unlocked (same : SameLock before after)
  | worked (free : before.busy = false) (busy_eq : after.busy = false)
    (lockings_eq : after.lockings = .released none :: .taken :: before.lockings)
    (contexts_eq : after.contexts = before.contexts)
  | opened (handle : Handle) (free : before.busy = false) (busy_eq : after.busy = true)
    (lockings_eq : after.lockings = .taken :: before.lockings)
    (contexts_eq : after.contexts = before.contexts ++ [⟨handle, .created⟩])
  | used (id : ContextId) (context : Context) (found : before.contexts[id]? = some context)
    (going : context.phase ≠ .destroyed) (busy_eq : after.busy = before.busy)
    (lockings_eq : after.lockings = before.lockings)
    (contexts_eq : after.contexts =
      before.contexts.modify id fun c => { c with phase := .evaluating })
  | ended (id : ContextId) (context : Context) (found : before.contexts[id]? = some context)
    (going : context.phase ≠ .destroyed) (busy_eq : after.busy = false)
    (lockings_eq : after.lockings = .released (some id) :: before.lockings)
    (contexts_eq : after.contexts =
      before.contexts.modify id fun c => { c with phase := .destroyed })

theorem Turn.rfl : Turn host host := .unlocked (refl host)

/-- What happens after a turn and leaves lock and contexts alone belongs to it. -/
theorem Turn.then_same (turn : Turn before middle) (same : SameLock middle after) :
    Turn before after := by
  rcases same with ⟨busy_eq, lockings_eq, contexts_eq⟩
  cases turn with
  | unlocked first =>
    exact .unlocked ⟨busy_eq.trans first.busy_eq, lockings_eq.trans first.lockings_eq,
      contexts_eq.trans first.contexts_eq⟩
  | worked free busy lockings contexts =>
    exact .worked free (busy_eq.trans busy) (lockings_eq.trans lockings)
      (contexts_eq.trans contexts)
  | opened handle free busy lockings contexts =>
    exact .opened handle free (busy_eq.trans busy) (lockings_eq.trans lockings)
      (contexts_eq.trans contexts)
  | used id context found going busy lockings contexts =>
    exact .used id context found going (busy_eq.trans busy) (lockings_eq.trans lockings)
      (contexts_eq.trans contexts)
  | ended id context found going busy lockings contexts =>
    exact .ended id context found going (busy_eq.trans busy) (lockings_eq.trans lockings)
      (contexts_eq.trans contexts)

/-!
### What each use does to the lock
-/

theorem onGuest_sameLock (operation : Host σ → Operation (Instance σ) α) :
    Operation.Keeps SameLock (onGuest operation) := by
  intro host
  rw [onGuest_ends]
  exact (Operation.ends_nothing _ _).mono (fun _ _ _ => ⟨rfl, rfl, rfl⟩)
    (fun _ _ _ => ⟨rfl, rfl, rfl⟩)

theorem log_turn (turn : Turn host before) (logger : String) (level : Logging.Level)
    (text : String) :
    Operation.Ends (log logger level text) before (fun _ after => Turn host after)
      (fun _ after => Turn host after) :=
  (onGuest_sameLock _ before).mono (fun _ _ same => turn.then_same same)
    (fun _ _ same => turn.then_same same)

/-- Work that leaves the lock alone is done between taking it and giving it
back, or not at all. -/
theorem exclusively_turn (keeps : Operation.Keeps SameLock operation) :
    Operation.Keeps Turn (exclusively operation) := by
  intro host
  cases free : host.busy with
  | true =>
    rw [exclusively_busy free]
    exact .rfl
  | false =>
    refine exclusively_free free ?_
    refine (keeps _).mono ?_ ?_ <;>
    · intro _ after same
      refine ⟨same.busy_eq, .worked free rfl ?_ same.contexts_eq⟩
      dsimp only
      rw [same.lockings_eq]

theorem setData_turn (value : Value) : Operation.Keeps Turn (setData (σ := σ) value) := by
  intro host
  refine checkUsable_reads.bind (fun _ => ?_) fun _ => .rfl
  refine exclusively_turn ?_ host
  refine (Operation.keeps_liftReport _).bind fun raw => ?_
  refine Operation.keeps_get.bind fun found => ?_
  refine Operation.Keeps.bind (fun _ => ⟨rfl, rfl, rfl⟩) fun _ => ?_
  refine (onGuest_sameLock _).bind fun installed => ?_
  refine Operation.Keeps.bind (fun _ => ⟨rfl, rfl, rfl⟩) fun _ => ?_
  exact onGuest_sameLock _

theorem eval_turn (entrypoint : String) (input : Value) (schema : Schema) :
    Operation.Keeps Turn (eval (σ := σ) entrypoint input schema) := by
  intro host
  refine checkUsable_reads.bind (fun _ => ?_) fun _ => .rfl
  refine exclusively_turn ?_ host
  refine (resolve_reads entrypoint).keeps.bind fun found => ?_
  exact requireData_reads.keeps.bind fun data => onGuest_sameLock _

theorem openContext_turn (input : Value) :
    Operation.Keeps Turn (openContext (σ := σ) input) := by
  intro host
  refine checkUsable_reads.bind (fun _ => ?_) fun _ => .rfl
  rw [Operation.ends_bind]
  cases free : host.busy with
  | true =>
    rw [acquire_busy free]
    exact .rfl
  | false =>
    rw [acquire_free free, Operation.ends_bind, Operation.ends_onFault]
    have opens : Operation.Keeps SameLock (do
        let data ← requireData
        onGuest fun host : Host σ =>
          host.discipline.openContext host.terms host.checkpoints data input) :=
      requireData_reads.keeps.bind fun data => onGuest_sameLock _
    refine (opens _).mono ?_ ?_
    · intro handle after same
      refine .opened handle free same.busy_eq same.lockings_eq ?_
      dsimp only
      rw [same.contexts_eq]
    · intro fault after same
      rw [release_ends after none same.busy_eq]
      refine .worked free rfl ?_ same.contexts_eq
      dsimp only
      rw [same.lockings_eq]

theorem contextEval_turn (id : ContextId) (entrypoint : String) (schema : Schema) :
    Operation.Keeps Turn (contextEval (σ := σ) id entrypoint schema) := by
  intro host
  unfold contextEval
  rw [Operation.ends_bind, context_ends]
  cases found : host.contexts[id]? with
  | none => exact .rfl
  | some context =>
    dsimp only
    by_cases destroyed : context.phase = .destroyed
    · rw [if_pos destroyed]
      exact .rfl
    · rw [if_neg destroyed, Operation.ends_bind, setPhase, Operation.ends_modify]
      have turn : ∀ after, SameLock { host with
          contexts := host.contexts.modify id fun c => { c with phase := .evaluating } } after →
          Turn host after :=
        fun _ same => .used id context found destroyed same.busy_eq same.lockings_eq
          same.contexts_eq
      have works : Operation.Keeps (SameLock (σ := σ)) (do
          checkUsable
          let found ← resolve entrypoint
          onGuest fun host =>
            host.discipline.contextEval host.terms context.handle found.1 found.2 schema) := by
        refine checkUsable_reads.keeps.bind fun _ => ?_
        exact (resolve_reads entrypoint).keeps.bind fun _ => onGuest_sameLock _
      exact (works _).mono (fun _ => turn) (fun _ => turn)

/-- Releasing a context gives back the lock, whatever comes of it. -/
theorem releaseContext_turn (id : ContextId) (context : Context)
    (found : host.contexts[id]? = some context) (going : context.phase ≠ .destroyed) :
    Operation.Ends (releaseContext id context.handle) (host.marked id)
      (fun _ after => Turn host after) (fun _ after => Turn host after) := by
  have gives : ∀ middle after : Host σ, SameLock (host.marked id) middle →
      after.busy = false → after.lockings = .released (some id) :: middle.lockings →
      after.contexts = middle.contexts → Turn host after := by
    intro middle after same free lockings contexts
    refine .ended id context found going free ?_ (contexts.trans same.contexts_eq)
    rw [lockings, same.lockings_eq]
    rfl
  have released : ∀ middle : Host σ, SameLock (host.marked id) middle →
      Operation.Ends (release (some id)) middle (fun _ after => Turn host after)
        (fun _ after => Turn host after) := by
    intro middle same
    unfold Operation.Ends release
    cases busy : middle.busy with
    | true => exact gives middle _ same rfl rfl rfl
    | false => exact gives middle _ same rfl rfl rfl
  unfold releaseContext
  rw [Operation.ends_ensuring]
  exact (onGuest_sameLock _ _).mono (fun _ => released) (fun _ => released)

theorem teardown_turn (id : ContextId) (unwinding : Bool) :
    Operation.Keeps Turn (teardown (σ := σ) id unwinding) := by
  intro host
  cases found : host.contexts[id]? with
  | none =>
    unfold teardown
    rw [Operation.ends_bind, context_ends, found]
    exact .rfl
  | some context =>
    by_cases destroyed : context.phase = .destroyed
    · unfold teardown
      rw [Operation.ends_bind, context_ends, found]
      dsimp only
      rw [if_pos destroyed]
      exact .rfl
    · rw [teardown_ends id unwinding context found destroyed]
      refine (releaseContext_turn id context found destroyed).mono (fun _ _ turn => turn) ?_
      intro fault after turn
      cases unwinding with
      | true => exact log_turn turn _ _ _
      | false => exact turn.then_same ⟨rfl, rfl, rfl⟩

theorem destroy_turn (id : ContextId) : Operation.Keeps Turn (destroy (σ := σ) id) := by
  intro host
  unfold destroy
  rw [Operation.ends_bind, context_ends]
  cases host.contexts[id]? with
  | none => exact .rfl
  | some context =>
    dsimp only
    split
    · exact .rfl
    · exact teardown_turn id false host

theorem drop_turn (id : ContextId) : Operation.Keeps Turn (drop (σ := σ) id) := by
  intro host
  unfold drop
  rw [Operation.ends_bind, context_ends]
  cases host.contexts[id]? with
  | none => exact .rfl
  | some context =>
    dsimp only
    split
    · exact .rfl
    · rw [Operation.ends_bind, Operation.ends_attempt]
      refine (teardown_turn id false host).mono (fun _ _ turn => turn) ?_
      intro fault after turn
      dsimp only
      split
      · exact log_turn turn _ _ _
      · exact turn

theorem perform_turn (use : Use) : Operation.Keeps Turn (perform (σ := σ) use) := by
  intro host
  unfold perform
  cases use with
  | setData value =>
    rw [Operation.ends_bind]
    exact setData_turn value host
  | eval entrypoint input schema =>
    rw [Operation.ends_bind]
    exact eval_turn entrypoint input schema host
  | decide binding input =>
    unfold decide
    rw [Operation.ends_bind, Operation.ends_bind, Operation.ends_liftReport]
    cases binding.prepareInput input with
    | error r => exact .rfl
    | ok input => exact eval_turn binding.path input binding.output host
  | openContext input =>
    rw [Operation.ends_bind]
    exact openContext_turn input host
  | contextEval id entrypoint schema =>
    rw [Operation.ends_bind]
    exact contextEval_turn id entrypoint schema host
  | destroy id =>
    rw [Operation.ends_bind]
    exact destroy_turn id host
  | leave id unwinding =>
    rw [Operation.ends_bind]
    exact teardown_turn id unwinding host
  | drop id =>
    rw [Operation.ends_bind]
    exact drop_turn id host
  | entrypointId entrypoint => exact (resolve_reads entrypoint).bind (fun _ => .rfl) fun _ => .rfl

/-!
### What a run does to the lock
-/

/-- The lock is held for the one context that is open, and each context that
was ended has given it back once. -/
structure Exclusive (host : Host σ) : Prop where
  alternates : Alternates host.busy host.lockings
  open_count : host.openContexts.length = host.busy.toNat
  released_once : ∀ id, host.releases id = if host.Ended id then 1 else 0

/-- An open context that came to another phase is the only one that counts
differently. -/
theorem openContexts_modify (contexts : List Context) (id : ContextId) (context : Context)
    (phase : Phase) (found : contexts[id]? = some context) (going : context.phase ≠ .destroyed) :
    ((contexts.modify id fun c => { c with phase }).filter (·.phase ≠ .destroyed)).length + 1 =
      (contexts.filter (·.phase ≠ .destroyed)).length + if phase = .destroyed then 0 else 1 := by
  induction contexts generalizing id with
  | nil => simp at found
  | cons first rest inductionHypothesis =>
    cases id with
    | zero =>
      cases found
      by_cases destroyed : phase = .destroyed <;> simp [going, destroyed]
    | succ id =>
      have later := inductionHypothesis id (by simpa using found)
      by_cases destroyed : first.phase = .destroyed
      · simpa [destroyed] using later
      · simp only [List.modify_succ_cons, List.filter_cons, destroyed, ne_eq, not_false_eq_true,
          decide_true, if_true, List.length_cons] at later ⊢
        omega

/-- Which contexts count as ended after one of them came to another phase. -/
theorem ended_modify (contexts : List Context) (id other : ContextId) (context : Context)
    (phase : Phase) (found : contexts[id]? = some context) :
    ((contexts.modify id fun c => { c with phase })[other]?).map (·.phase) =
      if other = id then some phase else (contexts[other]?).map (·.phase) := by
  by_cases same : other = id
  · rw [if_pos same, same, List.getElem?_modify_eq, found]
    rfl
  · rw [if_neg same, List.getElem?_modify_ne _ _ (Ne.symm same)]

theorem Turn.ends (turn : Turn before after) (id : ContextId) :
    ((after.Ended id ↔ before.Ended id) ∧ after.releases id = before.releases id) ∨
      (¬ before.Ended id ∧ after.Ended id ∧ after.releases id = before.releases id + 1) := by
  unfold Ended releases
  cases turn with
  | unlocked same => exact Or.inl ⟨by rw [same.contexts_eq], by rw [same.lockings_eq]⟩
  | worked _ _ lockings contexts => exact Or.inl ⟨by rw [contexts], by rw [lockings]; simp⟩
  | opened handle _ _ lockings contexts =>
    refine Or.inl ⟨?_, by rw [lockings]; simp⟩
    rw [contexts]
    rcases Nat.lt_trichotomy id before.contexts.length with below | rfl | above
    · rw [List.getElem?_append_left below]
    · simp
    · rw [List.getElem?_eq_none (by simp; omega), List.getElem?_eq_none (by omega)]
  | used other context found going _ lockings contexts =>
    refine Or.inl ⟨?_, by rw [lockings]⟩
    rw [contexts, ended_modify _ _ _ context _ found]
    by_cases same : id = other
    · rw [if_pos same, same, found]
      simp [going]
    · rw [if_neg same]
  | ended other context found going _ lockings contexts =>
    rw [lockings, contexts, ended_modify _ _ _ context _ found]
    by_cases same : id = other
    · refine Or.inr ⟨?_, if_pos same, by rw [same, List.count_cons_self]⟩
      rw [same, found]
      simpa using going
    · refine Or.inl ⟨by rw [if_neg same], List.count_cons_of_ne ?_⟩
      simpa using Ne.symm same

theorem Turn.ended_of_ended (turn : Turn before after) (id : ContextId)
    (ended : before.Ended id) : after.Ended id := by
  rcases turn.ends id with ⟨same, _⟩ | ⟨going, _⟩
  · exact same.mpr ended
  · exact absurd ended going

/-- The lock stays with the open context through every turn. -/
theorem Exclusive.turn (exclusive : Exclusive before) (turn : Turn before after) :
    Exclusive after := by
  have alternates := exclusive.alternates
  have count := exclusive.open_count
  refine ⟨?_, ?_, ?_⟩
  · cases turn with
    | unlocked same => rwa [same.busy_eq, same.lockings_eq]
    | worked free busy lockings _ =>
      rw [free] at alternates
      rw [busy, lockings]
      exact alternates.taken.released none
    | opened _ free busy lockings _ =>
      rw [free] at alternates
      rw [busy, lockings]
      exact alternates.taken
    | used _ _ _ _ busy lockings _ => rwa [busy, lockings]
    | ended id context found going busy lockings _ =>
      have held : before.busy = true := by
        have inside : context ∈ before.openContexts :=
          List.mem_filter.mpr ⟨List.mem_of_getElem? found, by simpa using going⟩
        have positive := List.length_pos_of_mem inside
        cases busy : before.busy with
        | true => rfl
        | false =>
          rw [busy] at count
          simp only [Bool.toNat_false] at count
          omega
      rw [held] at alternates
      rw [busy, lockings]
      exact alternates.released (some id)
  · unfold openContexts at count ⊢
    cases turn with
    | unlocked same => rwa [same.busy_eq, same.contexts_eq]
    | worked free busy _ contexts => rwa [busy, contexts, ← free]
    | opened _ free busy _ contexts =>
      rw [free] at count
      rw [busy, contexts, List.filter_append, List.length_append, count]
      rfl
    | used id context found going busy _ contexts =>
      have changed := openContexts_modify _ _ _ .evaluating found going
      rw [busy, contexts, ← count]
      simpa using changed
    | ended id context found going busy _ contexts =>
      have changed := openContexts_modify _ _ _ .destroyed found going
      have few := Bool.toNat_le before.busy
      rw [busy, contexts]
      simp only [if_true, Bool.toNat_false] at changed ⊢
      omega
  · intro id
    have once := exclusive.released_once id
    rcases turn.ends id with ⟨same, kept⟩ | ⟨going, ended, more⟩
    · rw [kept, once, if_congr same rfl rfl]
    · rw [more, once, if_neg going, if_pos ended]

theorem Exclusive.run (exclusive : Exclusive host) (uses : List Use) :
    Exclusive (run uses host).2 := by
  induction uses generalizing host with
  | nil => exact exclusive
  | cons use rest inductionHypothesis =>
    exact inductionHypothesis (exclusive.turn ((perform_turn use).outcome host))

theorem run_ended (uses : List Use) (id : ContextId) (ended : host.Ended id) :
    (run uses host).2.Ended id := by
  induction uses generalizing host with
  | nil => exact ended
  | cons use rest inductionHypothesis =>
    exact inductionHypothesis (((perform_turn use).outcome host).ended_of_ended id ended)

end Host

/-- A host begins with a lock that was never taken. -/
theorem Builder.Unused.exclusive {host : Host σ} (unused : Builder.Unused host) :
    host.Exclusive := by
  refine ⟨?_, ?_, ?_⟩
  · rw [unused.busy_eq, unused.lockings_eq]
    exact .fresh
  · unfold Host.openContexts
    rw [unused.busy_eq, unused.contexts_eq]
    rfl
  · intro id
    unfold Host.releases
    have going : ¬ host.Ended id := by
      unfold Host.Ended
      rw [unused.contexts_eq]
      simp
    rw [unused.lockings_eq, if_neg going]
    rfl

namespace Host

/-- A host is never used by two at a time.  Its lock is held exactly while one
context is open, and there is never a second one; a context that was ended
stays so, and gave back the lock once; and the lock was held whenever it was
given back. -/
theorem lock_exclusive {module : Module σ} {builder : Builder} {journal journal' : Journal}
    {host : Host σ} (built : builder.instantiate module journal = .ok host journal')
    (uses : List Use) :
    ((run uses host).2.busy = true ↔ (run uses host).2.openContexts.length = 1) ∧
      (run uses host).2.openContexts.length ≤ 1 ∧
      (∀ id, (run uses host).2.releases id = if (run uses host).2.Ended id then 1 else 0) ∧
      (∀ id later, (run uses host).2.Ended id → (run (uses ++ later) host).2.Ended id) ∧
      ∀ later holder earlier,
        (run uses host).2.lockings = later ++ .released holder :: earlier →
          earlier.head? = some .taken := by
  have exclusive := (Builder.instantiate_unused built).exclusive.run uses
  have count := exclusive.open_count
  refine ⟨?_, ?_, exclusive.released_once, ?_, fun later holder earlier =>
    exclusive.alternates.held later earlier holder⟩
  · rw [count]
    cases (run uses host).2.busy <;> decide
  · rw [count]
    exact Bool.toNat_le _
  · intro id later ended
    rw [run_append]
    exact run_ended later id ended

/-- The lock of an echo, which has ended a context. -/
theorem lock_exclusive_echo :
    Builder.Builds {} (Shelf.echo 0) fun host =>
      (run Shelf.echoUses host).2.Ended 0 ∧
        ((run Shelf.echoUses host).2.busy = true ↔
          (run Shelf.echoUses host).2.openContexts.length = 1) ∧
        (run Shelf.echoUses host).2.openContexts.length ≤ 1 ∧
        (∀ id, (run Shelf.echoUses host).2.releases id =
          if (run Shelf.echoUses host).2.Ended id then 1 else 0) ∧
        (∀ id later, (run Shelf.echoUses host).2.Ended id →
          (run (Shelf.echoUses ++ later) host).2.Ended id) ∧
        ∀ later holder earlier,
          (run Shelf.echoUses host).2.lockings = later ++ .released holder :: earlier →
            earlier.head? = some .taken := by
  have begun : Builder.Builds {} (Shelf.echo 0) fun host =>
      (run Shelf.echoUses host).2.Ended 0 := by
    decide +kernel
  rcases begun with ⟨host, journal, built, ended⟩
  exact ⟨host, journal, built, ended, lock_exclusive built Shelf.echoUses⟩

/-!
### Blocks
-/

/-- A host that another one comes to by being used. -/
def Reaches (before after : Host σ) : Prop := ∃ uses, after = (run uses before).2

instance : IsPreorder (Host σ) Reaches where
  refl _ := ⟨[], rfl⟩
  trans := by
    rintro first _ _ ⟨earlier, rfl⟩ ⟨later, rfl⟩
    exact ⟨earlier ++ later, by rw [run_append]⟩

/-- What a use does is done by using the host. -/
theorem keeps_reaches (use : Use) (answer : α → Answer)
    (same : perform use = operation >>= fun a => pure (answer a)) :
    Operation.Keeps Reaches operation := by
  intro host
  have used : Operation.Ends (perform use) host (fun _ after => Reaches host after)
      (fun _ after => Reaches host after) := by
    unfold Operation.Ends
    cases ended : perform use host <;>
    · refine ⟨[use], ?_⟩
      simp only [run, Operation.outcome, ended]
  rw [same, Operation.ends_bind] at used
  exact used

theorem runBlockSteps_reaches (id : ContextId) (steps : List (BlockStep × Bool))
    (results : List (Except Fault Value)) :
    Operation.Keeps (Reaches (σ := σ)) (runBlockSteps id steps results) := by
  induction steps generalizing results with
  | nil => exact Operation.keeps_pure _
  | cons first rest inductionHypothesis =>
    rcases first with ⟨step, caught⟩
    have stepped : Operation.Keeps (Reaches (σ := σ)) (runBlockStep id step) := by
      cases step with
      | eval entrypoint schema =>
        exact keeps_reaches (.contextEval id entrypoint schema) .value rfl
      | destroy =>
        refine Operation.Keeps.bind ?_ fun _ => Operation.keeps_pure _
        exact keeps_reaches (.destroy id) (fun _ => .done) rfl
      | interrupt => exact Operation.keeps_throw _
    refine stepped.attempt.bind fun outcome => ?_
    cases outcome with
    | ok value => exact inductionHypothesis _
    | error fault =>
      cases caught with
      | true => exact inductionHypothesis _
      | false => exact Operation.keeps_pure _

/-- A block that holds a context is a run of uses: it opens the context, does
its steps, and ends the context when it is left. -/
theorem withContext_reaches (input : Value) (steps : List (BlockStep × Bool)) :
    Operation.Keeps (Reaches (σ := σ)) (withContext input steps) := by
  have opens : Operation.Keeps (Reaches (σ := σ)) (openContext input) :=
    keeps_reaches (.openContext input) .context rfl
  refine opens.attempt.bind fun opened => ?_
  cases opened with
  | error fault => exact Operation.keeps_pure _
  | ok id =>
    refine (runBlockSteps_reaches id steps []).bind fun block => ?_
    have ends : Operation.Keeps (Reaches (σ := σ)) (teardown id block.leftWith.isSome) :=
      keeps_reaches (.leave id block.leftWith.isSome) (fun _ => .done) rfl
    refine ends.attempt.bind fun ended => ?_
    cases ended <;> exact Operation.keeps_pure _

end Host
end PolicyHost
