import PolicyHost.Proofs.Exclusion
import PolicyHost.Proofs.Footprint
import PolicyHost.Proofs.ShelfLaws

namespace PolicyHost

/-!
# The end of a host

Two things end the use of a host for good, a guest that was lost and a context
that could not be released.  They are remembered in different places, and one
way of failing to release a context is remembered in neither of them by
itself.  What closes the gap is that nothing can go wrong in releasing a
context but the loss of the guest.
-/

variable {σ α : Type}

namespace Access

/-- The code that was entered came back. -/
def Returned (module : Module σ) (handlers : Handlers) : Access σ → Prop
  | .call name arguments found =>
    ∃ answer, (module.invoke name arguments found.memory found.state).ending handlers =
      .returned answer
  | .write _ _ => True

/-- Guest code was entered. -/
def IsCall : Access σ → Prop
  | .call _ _ _ => True
  | .write _ _ => False

end Access

namespace Instance

/-- No guest code was entered since guest code was entered that did not come
back. -/
structure Sealed (guest : Instance σ) : Prop where
  open_returned : guest.trapped = false →
    ∀ access ∈ guest.history, access.Returned guest.module guest.handlers
  last : ∀ newer access older, guest.history = newer ++ access :: older →
    ¬ access.Returned guest.module guest.handlers → ∀ later ∈ newer, ¬ later.IsCall

/-- A guest at a later time.  It keeps its code, its handlers and what was done
with it, stays lost if it is lost, and stays sealed if it is sealed. -/
structure Later (before after : Instance σ) : Prop where
  module_eq : after.module = before.module
  handlers_eq : after.handlers = before.handlers
  history : before.history <:+ after.history
  closed : before.trapped = true → after.trapped = true
  stays_sealed : before.Sealed → after.Sealed

instance : IsPreorder (Instance σ) Later where
  refl _ := ⟨rfl, rfl, List.suffix_refl _, id, id⟩
  trans _ _ _ first second :=
    ⟨second.module_eq.trans first.module_eq, second.handlers_eq.trans first.handlers_eq,
      first.history.trans second.history, second.closed ∘ first.closed,
      second.stays_sealed ∘ first.stays_sealed⟩

theorem Sealed.entered {guest after : Instance σ} {name : String} {arguments : List UInt32}
    (sealed_ : guest.Sealed) (entered : Entered name arguments guest after)
    (ended : after.trapped = false → ∃ answer, guest.callEnding name arguments = .returned answer) :
    after.Sealed := by
  have earlier := sealed_.open_returned entered.was_open
  constructor
  · intro open_eq access member
    rw [entered.module_eq, entered.handlers_eq]
    rw [entered.history_eq, List.mem_cons] at member
    rcases member with rfl | member
    · exact ended open_eq
    · exact earlier access member
  · rw [entered.module_eq, entered.handlers_eq, entered.history_eq]
    intro newer access older split lost later member
    cases newer with
    | nil => cases member
    | cons first newer =>
      have inside : access ∈ guest.history := by
        rw [(List.cons.inj split).2]
        simp
      exact absurd (earlier access inside) lost

/-- Whatever the host does, time goes on. -/
theorem tracks_later : Tracks (fun _ _ => True) (Later (σ := σ)) where
  call name arguments _ _ guest := by
    have went : ∀ after, Entered name (arguments.map UInt32.ofInt) guest after →
        (after.trapped = false →
          ∃ answer, guest.callEnding name (arguments.map UInt32.ofInt) = .returned answer) →
        Later guest after := by
      intro after entered ended
      refine ⟨entered.module_eq, entered.handlers_eq, ?_, ?_, fun sealed_ =>
        sealed_.entered entered ended⟩
      · rw [entered.history_eq]
        exact List.suffix_cons _ _
      · rw [entered.was_open]
        exact fun impossible => nomatch impossible
    refine (call_cases guest name arguments).mono ?_ ?_
    · rintro answer after ⟨entered, _, ended, _⟩
      exact went after entered fun _ => ⟨answer, ended⟩
    · rintro fault after (⟨rfl, _⟩ | ⟨was_open, _, journal, rfl, _⟩ | ⟨entered, closed, _⟩)
      · exact refl after
      · exact ⟨rfl, rfl, List.suffix_refl _, fun _ => rfl, fun sealed_ =>
          ⟨(fun impossible => nomatch impossible), sealed_.last⟩⟩
      · exact went after entered fun open_eq => nomatch closed.symm.trans open_eq
  grown guest memory _ := ⟨rfl, rfl, List.suffix_refl _, id, fun sealed_ =>
    ⟨sealed_.open_returned, sealed_.last⟩⟩
  written guest memory address bytes _ := by
    refine ⟨rfl, rfl, List.suffix_cons _ _, id, fun sealed_ => ⟨?_, ?_⟩⟩
    · intro open_eq access member
      rcases List.mem_cons.mp member with rfl | member
      · trivial
      · exact sealed_.open_returned open_eq access member
    · intro newer access older split lost later member
      cases newer with
      | nil => cases member
      | cons first newer =>
        rcases List.cons.inj split with ⟨rfl, rest⟩
        rcases List.mem_cons.mp member with rfl | member
        · exact id
        · exact sealed_.last newer access older rest lost later member
  logged guest journal := ⟨rfl, rfl, List.suffix_refl _, id, fun sealed_ =>
    ⟨sealed_.open_returned, sealed_.last⟩⟩

/-- Nothing but the journal changed. -/
def OnlyLogged (before after : Instance σ) : Prop := ∃ journal, after = { before with journal }

instance : IsPreorder (Instance σ) OnlyLogged where
  refl guest := ⟨guest.journal, rfl⟩
  trans := by
    rintro _ _ _ ⟨_, rfl⟩ ⟨journal, rfl⟩
    exact ⟨journal, rfl⟩

theorem call_lost (guest : Instance σ) (name : String) (arguments : List Int)
    (exported : guest.module.hasFunction name = true) (lost : guest.trapped = true) :
    Operation.Ends (call name arguments) guest (fun _ _ => False)
      (fun fault after => fault = .report (closedReport name) ∧ after = guest) := by
  refine (call_cases guest name arguments).mono ?_ ?_
  · rintro answer after ⟨entered, _⟩
    exact nomatch lost.symm.trans entered.was_open
  · rintro fault after (⟨same, reason⟩ | ⟨was_open, _⟩ | ⟨entered, _⟩)
    · exact ⟨(reason exported).2, same⟩
    · exact nomatch lost.symm.trans was_open
    · exact nomatch lost.symm.trans entered.was_open

end Instance

namespace Discipline

open Instance

/-- The export that a release begins with. -/
def closer : Discipline → String
  | explicitFree => "opa_free"
  | heapRewind => "opa_heap_ptr_set"

theorem closer_required (discipline : Discipline) :
    discipline.closer ∈ discipline.requiredExports := by
  cases discipline <;> decide

/-- All that releasing a context takes was done, and came back: both blocks
that it owns were freed, or the heap pointer was moved back to where the
dataset ends. -/
def Released (discipline : Discipline) (checkpoints : Checkpoints) (handle : Handle)
    (before after : Instance σ) : Prop :=
  match discipline with
  | explicitFree => ∃ first second : Snapshot σ,
    after.history = .call "opa_free" [handle.context.toWord] second ::
      .call "opa_free" [handle.input.toWord] first :: before.history
  | heapRewind => ∃ found : Snapshot σ,
    after.history = .call "opa_heap_ptr_set" [checkpoints.data.toWord] found :: before.history

variable (discipline : Discipline) (maxPages : Option Nat) (checkpoints : Checkpoints)
variable (handle : Handle) (guest : Instance σ)

/-- Releasing a context of a guest that was lost does nothing, and fails. -/
theorem closeContext_lost (equipped : discipline.Equips guest.module)
    (lost : guest.trapped = true) :
    Operation.Ends (discipline.closeContext (discipline.terms maxPages) checkpoints handle) guest
      (fun _ _ => False)
      (fun fault after => fault = .report (closedReport discipline.closer) ∧ after = guest) := by
  have exported := equipped _ discipline.closer_required
  cases discipline with
  | explicitFree =>
    unfold closeContext
    rw [Operation.ends_bind, Region.free_eq _ _ rfl, callVoid, Operation.ends_bind]
    exact (call_lost guest _ _ exported lost).mono (fun _ _ impossible => impossible.elim)
      (fun _ _ failed => failed)
  | heapRewind =>
    unfold closeContext Region.setHeapPointer callVoid
    rw [Operation.ends_bind]
    exact (call_lost guest _ _ exported lost).mono (fun _ _ impossible => impossible.elim)
      (fun _ _ failed => failed)

/-- Releasing a context does all that it takes, or the guest is lost. -/
theorem closeContext_open (equipped : discipline.Equips guest.module)
    (usable : guest.trapped = false) :
    Operation.Ends (discipline.closeContext (discipline.terms maxPages) checkpoints handle) guest
      (fun _ after => after.trapped = false ∧ discipline.Released checkpoints handle guest after)
      (fun _ after => after.trapped = true) := by
  have exported := equipped _ discipline.closer_required
  cases discipline with
  | explicitFree =>
    unfold closeContext
    rw [Operation.ends_bind, Region.free_eq _ _ rfl, callVoid, Operation.ends_bind]
    refine (call_open guest _ _ exported usable).mono ?_ (fun _ _ lost => lost)
    rintro _ middle ⟨first, stayed, _⟩
    rw [Operation.ends_pure, Region.free_eq _ _ rfl, callVoid, Operation.ends_bind]
    rw [← first.module_eq] at exported
    refine (call_open middle _ _ exported stayed).mono ?_ (fun _ _ lost => lost)
    rintro _ after ⟨second, still, _⟩
    refine ⟨still, guest.snapshot, middle.snapshot, ?_⟩
    rw [second.history_eq, first.history_eq]
    simp [closer]
  | heapRewind =>
    unfold closeContext Region.setHeapPointer callVoid
    rw [Operation.ends_bind]
    refine (call_open guest _ _ exported usable).mono ?_ (fun _ _ lost => lost)
    rintro _ after ⟨moved, stayed, _⟩
    refine ⟨stayed, guest.snapshot, ?_⟩
    rw [moved.history_eq]
    simp [closer]

end Discipline

namespace Host

open Instance

/-- A use that needs the guest. -/
def Use.NeedsGuest (host : Host σ) : Use → Prop
  | .setData _ | .eval _ _ _ | .openContext _ => True
  | .contextEval id _ _ => ∃ context, host.contexts[id]? = some context ∧
    context.phase ≠ .destroyed
  | .decide _ _ | .destroy _ | .leave _ _ | .drop _ | .entrypointId _ => False

inductive Use.Ending : Use → ContextId → Prop
  | destroy (id : ContextId) : Use.Ending (.destroy id) id
  | leave (id : ContextId) (unwinding : Bool) : Use.Ending (.leave id unwinding) id
  | drop (id : ContextId) : Use.Ending (.drop id) id

/-- What whoever needs the guest is told once it is lost. -/
def barred (host : Host σ) : Report :=
  match host.leak with
  | some leak => leakReport leak
  | none => trapReport

theorem barred_kind (host : Host σ) :
    host.barred.kind = .guestTrap ∨ host.barred.kind = .resourceLeak := by
  unfold barred
  cases host.leak with
  | some leak => exact Or.inr rfl
  | none => exact Or.inl rfl

variable {host : Host σ}

theorem checkUsable_lost (lost : host.guest.trapped = true) {good : Unit → Host σ → Prop}
    {bad : Fault → Host σ → Prop} :
    Operation.Ends checkUsable host good bad ↔ bad (.report host.barred) host := by
  unfold Operation.Ends checkUsable barred
  cases host.leak with
  | some leak => rfl
  | none => simp [lost]

/-- Whoever needs a guest that was lost is told so. -/
theorem perform_lost (lost : host.guest.trapped = true) (use : Use) (needs : use.NeedsGuest host) :
    Operation.Ends (perform use) host (fun _ _ => False)
      (fun fault after => fault = .report host.barred ∧ after.guest = host.guest) := by
  unfold perform
  cases use with
  | setData value =>
    unfold setData
    rw [Operation.ends_bind, Operation.ends_bind, checkUsable_lost lost]
    exact ⟨rfl, rfl⟩
  | eval entrypoint input schema =>
    unfold eval
    rw [Operation.ends_bind, Operation.ends_bind, checkUsable_lost lost]
    exact ⟨rfl, rfl⟩
  | openContext input =>
    unfold openContext
    rw [Operation.ends_bind, Operation.ends_bind, checkUsable_lost lost]
    exact ⟨rfl, rfl⟩
  | contextEval id entrypoint schema =>
    rcases needs with ⟨context, found, going⟩
    unfold contextEval
    rw [Operation.ends_bind, Operation.ends_bind, context_ends, found]
    dsimp only
    rw [if_neg going, Operation.ends_bind, setPhase, Operation.ends_modify, Operation.ends_bind,
      checkUsable_lost (by exact lost)]
    exact ⟨rfl, rfl⟩
  | decide _ _ | destroy _ | leave _ _ | drop _ | entrypointId _ => exact needs.elim

/-- Only a lost guest lets the release of a context fail. -/
theorem releaseContext_ends (host : Host σ) (id : ContextId) (handle : Handle)
    (held : host.busy = true) (equipped : host.discipline.Equips host.guest.module) :
    Operation.Ends (releaseContext id handle) host
      (fun _ after => after.guest.trapped = false ∧
        host.discipline.Released host.checkpoints handle host.guest after.guest)
      (fun _ after => after.guest.trapped = true) := by
  unfold releaseContext
  rw [Operation.ends_ensuring, onGuest_ends]
  cases usable : host.guest.trapped with
  | false =>
    refine (Discipline.closeContext_open _ _ _ _ _ equipped usable).mono ?_ ?_
    · intro _ after released
      rw [release_ends _ _ (by exact held)]
      exact released
    · intro _ after lost
      rw [release_ends _ _ (by exact held)]
      exact lost
  | true =>
    refine (Discipline.closeContext_lost _ _ _ _ _ equipped usable).mono
      (fun _ _ impossible => impossible.elim) ?_
    rintro _ after ⟨_, rfl⟩
    rw [release_ends _ _ (by exact held)]
    exact usable

/-- What goes wrong when a context of a lost guest is released. -/
def stuck (discipline : Discipline) (busy : Bool) : Fault :=
  if busy then .report (closedReport discipline.closer) else .unheldLock

theorem releaseContext_lost (id : ContextId) (handle : Handle) (lost : host.guest.trapped = true)
    (equipped : host.discipline.Equips host.guest.module) :
    Operation.Ends (releaseContext id handle) host (fun _ _ => False)
      (fun fault after => fault = stuck host.discipline host.busy ∧
        after = { host with
          busy := false, lockings := .released (some id) :: host.lockings }) := by
  unfold releaseContext
  rw [Operation.ends_ensuring, onGuest_ends]
  refine (Discipline.closeContext_lost _ _ _ _ _ equipped lost).mono
    (fun _ _ impossible => impossible.elim) ?_
  rintro _ after ⟨rfl, rfl⟩
  unfold Operation.Ends release stuck
  cases host.busy <;> simp

theorem teardown_lost (id : ContextId) (unwinding : Bool) (lost : host.guest.trapped = true)
    (equipped : host.discipline.Equips host.guest.module) :
    Operation.Ends (teardown id unwinding) host
      (fun _ after => OnlyLogged host.guest after.guest)
      (fun _ after => OnlyLogged host.guest after.guest) := by
  have unchanged : OnlyLogged host.guest host.guest := refl host.guest
  cases found : host.contexts[id]? with
  | none =>
    unfold teardown
    rw [Operation.ends_bind, context_ends, found]
    exact unchanged
  | some context =>
    by_cases destroyed : context.phase = .destroyed
    · unfold teardown
      rw [Operation.ends_bind, context_ends, found]
      dsimp only
      rw [if_pos destroyed]
      exact unchanged
    · rw [teardown_ends id unwinding context found destroyed]
      refine (releaseContext_lost id context.handle (by exact lost) (by exact equipped)).mono
        (fun _ _ => False.elim) ?_
      rintro fault after ⟨_, rfl⟩
      cases unwinding with
      | true =>
        rw [if_pos rfl]
        exact log_ends _ _ _ _ _ _ fun journal => ⟨journal, rfl⟩
      | false => exact unchanged

/-- A guest that was lost is left alone, but for records. -/
theorem perform_logged (lost : host.guest.trapped = true)
    (equipped : host.discipline.Equips host.guest.module) (use : Use) :
    Operation.Ends (perform use) host (fun _ after => OnlyLogged host.guest after.guest)
      (fun _ after => OnlyLogged host.guest after.guest) := by
  have unchanged : OnlyLogged host.guest host.guest := refl host.guest
  have same : ∀ after : Host σ, after.guest = host.guest → OnlyLogged host.guest after.guest := by
    intro after guest_eq
    rw [guest_eq]
    exact unchanged
  have needing : use.NeedsGuest host →
      Operation.Ends (perform use) host (fun _ after => OnlyLogged host.guest after.guest)
        (fun _ after => OnlyLogged host.guest after.guest) := fun needs =>
    (perform_lost lost use needs).mono (fun _ _ impossible => impossible.elim)
      (fun _ after barred => same after barred.2)
  cases use with
  | setData _ | eval _ _ _ | openContext _ => exact needing trivial
  | decide binding input =>
    unfold perform decide
    rw [Operation.ends_bind, Operation.ends_bind, Operation.ends_liftReport]
    cases binding.prepareInput input with
    | error r => exact unchanged
    | ok input =>
      dsimp only
      unfold eval
      rw [Operation.ends_bind, checkUsable_lost lost]
      exact unchanged
  | contextEval id entrypoint schema =>
    cases found : host.contexts[id]? with
    | none =>
      unfold perform contextEval
      rw [Operation.ends_bind, Operation.ends_bind, context_ends, found]
      exact unchanged
    | some context =>
      by_cases destroyed : context.phase = .destroyed
      · unfold perform contextEval
        rw [Operation.ends_bind, Operation.ends_bind, context_ends, found]
        dsimp only
        rw [if_pos destroyed]
        exact unchanged
      · exact needing ⟨context, found, destroyed⟩
  | destroy id =>
    unfold perform destroy
    rw [Operation.ends_bind, Operation.ends_bind, context_ends]
    cases host.contexts[id]? with
    | none => exact unchanged
    | some context =>
      dsimp only
      split
      · exact unchanged
      · exact teardown_lost id false lost equipped
  | leave id unwinding =>
    unfold perform
    rw [Operation.ends_bind]
    exact teardown_lost id unwinding lost equipped
  | drop id =>
    unfold perform drop
    rw [Operation.ends_bind, Operation.ends_bind, context_ends]
    cases host.contexts[id]? with
    | none => exact unchanged
    | some context =>
      dsimp only
      split
      · exact unchanged
      · rw [Operation.ends_bind, Operation.ends_attempt]
        refine (teardown_lost id false lost equipped).mono (fun _ _ logged => logged) ?_
        rintro fault after ⟨written, guest_eq⟩
        dsimp only
        split
        · exact log_ends _ _ _ _ _ _ fun journal => ⟨journal, by rw [guest_eq]⟩
        · exact ⟨written, guest_eq⟩
  | entrypointId entrypoint =>
    exact (resolve_reads entrypoint).bind (fun _ => unchanged) fun _ => unchanged

/-- What the end of an open context comes to.  Either it was released, and all
is well; or its release failed, and what was done about that changed no more
than the journal of the guest. -/
theorem ending_ends (use : Use) (id : ContextId) (context : Context) (ending : use.Ending id)
    (found : host.contexts[id]? = some context) (going : context.phase ≠ .destroyed) :
    let release := Operation.outcome (releaseContext id context.handle) (host.marked id)
    let failed (after : Host σ) := ∃ fault, release.1 = .error fault ∧
      OnlyLogged release.2.guest after.guest
    Operation.Ends (perform use) host
      (fun answer after => (answer = .done ∧ release = (.ok (), after)) ∨ failed after)
      (fun _ after => failed after) := by
  intro release failed
  have torn : ∀ unwinding, Operation.Ends (teardown id unwinding) host
      (fun _ after => release = (.ok (), after) ∨ failed after) (fun _ after => failed after) := by
    intro unwinding
    rw [teardown_ends id unwinding context found going]
    refine (Operation.ends_outcome _ _).mono (fun _ _ released => Or.inl released) ?_
    intro fault after same
    have logged : ∀ journal, OnlyLogged release.2.guest { after.guest with journal } := by
      intro journal
      rw [show release = _ from same]
      exact ⟨journal, rfl⟩
    have first : release.1 = .error fault := congrArg Prod.fst same
    cases unwinding with
    | true =>
      rw [if_pos rfl]
      exact log_ends _ _ _ _ _ _ fun journal => Or.inr ⟨fault, first, logged journal⟩
    | false => exact ⟨fault, first, logged after.guest.journal⟩
  unfold perform
  cases ending with
  | destroy =>
    unfold destroy
    rw [Operation.ends_bind, Operation.ends_bind, context_ends, found]
    dsimp only
    rw [if_neg going]
    exact (torn false).mono (fun _ _ => Or.imp_left fun released => ⟨rfl, released⟩)
      (fun _ _ failed => failed)
  | leave id unwinding =>
    rw [Operation.ends_bind]
    exact (torn unwinding).mono (fun _ _ => Or.imp_left fun released => ⟨rfl, released⟩)
      (fun _ _ failed => failed)
  | drop =>
    unfold drop
    rw [Operation.ends_bind, Operation.ends_bind, context_ends, found]
    dsimp only
    rw [if_neg going, Operation.ends_bind, Operation.ends_attempt]
    refine (torn false).mono (fun _ _ => Or.imp_left fun released => ⟨rfl, released⟩) ?_
    rintro fault after ⟨first, failed, written, guest_eq⟩
    dsimp only
    split
    · exact log_ends _ _ _ _ _ _ fun journal =>
        Or.inr ⟨first, failed, journal, by rw [guest_eq]⟩
    · exact ⟨first, failed, written, guest_eq⟩

/-!
### What holds at every time
-/

/-- The end of a host.  Whatever is done with it later, its guest is left alone
but for records, and whoever needs the guest is told that it is not to be had. -/
def Finished (host : Host σ) : Prop :=
  ∀ later, OnlyLogged host.guest (run later host).2.guest ∧
    ∀ use : Use, use.NeedsGuest (run later host).2 →
      ∃ r, (Operation.outcome (perform use) (run later host).2).1 = .error (.report r) ∧
        (r.kind = .guestTrap ∨ r.kind = .resourceLeak)

/-- What the loss of a guest, and the release of a context, mean for good. -/
structure Final (host : Host σ) : Prop where
  /-- Since guest code was entered that did not come back, none was entered. -/
  last_entry : ∀ newer access older, host.guest.history = newer ++ access :: older →
    ¬ access.Returned host.guest.module host.guest.handlers →
      host.guest.trapped = true ∧ ∀ later ∈ newer, ¬ later.IsCall
  /-- A host whose guest was lost is at its end. -/
  lost : host.guest.trapped = true → host.Finished
  /-- So is one that could not release a context, however its end came about. -/
  unreleased : ∀ use id context fault, Use.Ending use id → host.contexts[id]? = some context →
    context.phase ≠ .destroyed →
    (Operation.outcome (releaseContext id context.handle) (host.marked id)).1 = .error fault →
      (Operation.outcome (perform use) host).2.Finished
  /-- One that released a context has done all that it takes. -/
  released : ∀ use id context, Use.Ending use id → host.contexts[id]? = some context →
    context.phase ≠ .destroyed →
    (Operation.outcome (releaseContext id context.handle) (host.marked id)).1 = .ok () →
      (Operation.outcome (perform use) host).1 = .ok .done ∧
        (Operation.outcome (perform use) host).2.guest.trapped = false ∧
        host.discipline.Released host.checkpoints context.handle host.guest
          (Operation.outcome (perform use) host).2.guest

/-- The exports that a discipline calls stay there. -/
theorem Lives.equips {after : Host σ} (lives : Lives Later host after)
    (equipped : host.discipline.Equips host.guest.module) :
    after.discipline.Equips after.guest.module := by
  rwa [lives.discipline_eq, lives.guest.module_eq]

/-- The table of a host is never changed. -/
theorem run_entrypoints (uses : List Use) (host : Host σ) :
    (run uses host).2.entrypoints = host.entrypoints :=
  (run_lives tracks_later uses host).entrypoints_eq

theorem finished_of_lost (lost : host.guest.trapped = true)
    (equipped : host.discipline.Equips host.guest.module) : host.Finished := by
  intro later
  have lives := run_lives tracks_later later host
  refine ⟨?_, ?_⟩
  · clear lives
    induction later generalizing host with
    | nil => exact refl host.guest
    | cons use rest inductionHypothesis =>
      have lives := (perform_lives tracks_later use).outcome host
      have logged : OnlyLogged host.guest (Operation.outcome (perform use) host).2.guest := by
        rcases (perform_logged lost equipped use).outcome with ⟨_, _, logged⟩ | ⟨_, _, logged⟩ <;>
          exact logged
      exact IsTrans.trans _ _ _ logged
        (inductionHypothesis (lives.guest.closed lost) (lives.equips equipped))
  · intro use needs
    rcases (perform_lost (lives.guest.closed lost) use needs).outcome with
      ⟨_, _, impossible⟩ | ⟨fault, outcome, told, _⟩
    · exact impossible.elim
    · exact ⟨_, outcome.trans (congrArg Except.error told), barred_kind _⟩

theorem Exclusive.held (exclusive : host.Exclusive) (id : ContextId) (context : Context)
    (found : host.contexts[id]? = some context) (going : context.phase ≠ .destroyed) :
    host.busy = true := by
  have inside : context ∈ host.openContexts :=
    List.mem_filter.mpr ⟨List.mem_of_getElem? found, by simpa using going⟩
  have positive := List.length_pos_of_mem inside
  have count := exclusive.open_count
  cases busy : host.busy with
  | true => rfl
  | false =>
    rw [busy, Bool.toNat_false] at count
    omega

theorem final (sealed_ : host.guest.Sealed) (equipped : host.discipline.Equips host.guest.module)
    (exclusive : host.Exclusive) : host.Final := by
  refine ⟨?_, fun lost => finished_of_lost lost equipped, ?_, ?_⟩
  · intro newer access older split lost
    refine ⟨?_, sealed_.last newer access older split lost⟩
    cases usable : host.guest.trapped with
    | true => rfl
    | false => exact absurd (sealed_.open_returned usable access (by rw [split]; simp)) lost
  · intro use id context fault ending found going failed
    have lives := (perform_lives tracks_later use).outcome host
    refine finished_of_lost ?_ (lives.equips equipped)
    have lost : (Operation.outcome (releaseContext id context.handle)
        (host.marked id)).2.guest.trapped = true := by
      rcases (releaseContext_ends (host.marked id) id context.handle
        (exclusive.held id context found going) equipped).outcome with
        ⟨_, returned, _⟩ | ⟨_, _, lost⟩
      · exact nomatch failed.symm.trans returned
      · exact lost
    rcases (ending_ends use id context ending found going).outcome with
      ⟨_, _, ⟨_, released⟩ | ⟨_, _, journal, logged⟩⟩ | ⟨_, _, _, _, journal, logged⟩
    · rw [released] at failed
      cases failed
    · rw [logged]
      exact lost
    · rw [logged]
      exact lost
  · intro use id context ending found going returned
    rcases (ending_ends use id context ending found going).outcome with
      ⟨_, outcome, ⟨rfl, released⟩ | ⟨_, failed, _⟩⟩ | ⟨_, _, _, failed, _⟩
    · rcases (releaseContext_ends (host.marked id) id context.handle
        (exclusive.held id context found going) equipped).outcome with
        ⟨_, _, usable, done⟩ | ⟨_, failed, _⟩
      · rw [released] at usable done
        exact ⟨outcome, usable, done⟩
      · exact nomatch returned.symm.trans failed
    · exact nomatch returned.symm.trans failed
    · exact nomatch returned.symm.trans failed

end Host

namespace Builder

open Instance

/-- The guest goes on while it is prepared. -/
theorem prepare_keeps {relation : Instance σ → Instance σ → Prop}
    [IsPreorder (Instance σ) relation] {allowed : String → List UInt32 → Prop}
    (tracks : Tracks allowed relation) (discipline : Discipline) (terms : Region.Terms) :
    Operation.Keeps relation (prepare discipline terms) := by
  refine Operation.Keeps.bind (Operation.Keeps.attempt ?_) fun outcome => ?_
  · refine (callAddress_keeps (tracks.plain "entrypoints" _)).bind fun document => ?_
    refine Operation.Keeps.bind ?_ fun table => ?_
    · exact (tracks.readRaw terms document).bind fun raw => Operation.keeps_liftReport _
    · exact (tracks.takeCheckpoints discipline).bind fun _ => Operation.keeps_pure _
  · cases outcome with
    | ok found => exact Operation.keeps_pure _
    | error fault =>
      cases fault with
      | report r =>
        dsimp only
        split <;> exact Operation.keeps_throw _
      | _ => exact Operation.keeps_throw _

/-- A host begins with the module it was built from, which has what the host
calls, and with a guest that nothing was done with. -/
theorem instantiate_equips {module : Module σ} {builder : Builder} {journal journal' : Journal}
    {host : Host σ} (built : builder.instantiate module journal = .ok host journal') :
    Unused host ∧ host.discipline.Equips module ∧ host.guest.module = module ∧
      host.guest.history = [] := by
  have made := instantiate_made host.discipline (fun _ guest => guest.module = module) ?_ rfl built
  · rcases made with ⟨unused, equipped, guest, module_eq, guest_eq⟩
    rw [guest_eq]
    exact ⟨unused, equipped, module_eq, rfl⟩
  · intro guest started _ _
    exact (prepare_keeps tracks_later host.discipline _ guest).mono
      (fun _ _ later => later.module_eq.trans started.module_eq) (fun _ _ _ => trivial)

end Builder

namespace Host

/-- Whatever is done with a host, and whatever its guest is, what becomes
unusable stays so, and what was released was released completely. -/
theorem unusable_final {module : Module σ} {builder : Builder} {journal journal' : Journal}
    {host : Host σ} (built : builder.instantiate module journal = .ok host journal')
    (uses : List Use) : (run uses host).2.Final := by
  rcases Builder.instantiate_equips built with ⟨unused, equipped, module_eq, history⟩
  have lives := run_lives Instance.tracks_later uses host
  have begun : host.guest.Sealed := by
    constructor
    · intro _ access member
      rw [history] at member
      cases member
    · intro newer access older split
      rw [history] at split
      simp at split
  refine final (lives.guest.stays_sealed begun) (lives.equips ?_) (unused.exclusive.run uses)
  rwa [module_eq]

/-- A policy that gave up while a block was open, which was left after that.
The release failed, and nobody was told. -/
theorem unusable_final_aborted :
    Builder.Builds {} Policy.standard.toModule fun host =>
      let uses := [.setData .null, .openContext .null, .contextEval 0 "abort/now" .any]
      (run uses host).2.guest.trapped = true ∧
        (∃ context, (run uses host).2.contexts[0]? = some context ∧
          context.phase ≠ .destroyed) ∧
        (run uses host).2.Final ∧ (run (uses ++ [.leave 0 true]) host).2.Final := by
  have begun : Builder.Builds {} Policy.standard.toModule fun host =>
      let uses := [.setData .null, .openContext .null, .contextEval 0 "abort/now" .any]
      (run uses host).2.guest.trapped = true ∧
        ((run uses host).2.contexts[0]?).any (fun context => context.phase ≠ .destroyed) := by
    decide +kernel
  rcases begun with ⟨host, journal, built, lost, going⟩
  rcases (Option.any_eq_true _ _).mp going with ⟨context, found, phase⟩
  exact ⟨host, journal, built, lost, ⟨context, found, of_decide_eq_true phase⟩,
    unusable_final built _, unusable_final built _⟩

end Host
end PolicyHost
