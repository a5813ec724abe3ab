import PolicyHost.Proofs.Admission

namespace PolicyHost

/-!
# Uses that are not due

A host refuses a use with a report of its own kind: that it leaked, that its
guest was lost, that it is busy, that an entrypoint or the dataset is missing,
that a context was ended.  Such a report comes exactly when it is due, with the
first check that fails, and then nothing was done to the host.  Nothing that
goes wrong later looks like one, unless a handler of the embedding program
raises one itself.
-/

variable {σ : Type}

/-- A fault that refuses a use. -/
def Fault.IsUsage : Fault → Prop
  | .report r =>
    r.kind.isA .configuration = true ∨ r.kind.isA .resourceLeak = true ∨ r = Host.trapReport
  | _ => False

/-- A handler refused to go on with the code that was entered, with this fault. -/
def Access.RefusedWith (module : Module σ) (handlers : Handlers) (fault : Fault) : Access σ → Prop
  | .call name arguments found => module.ending handlers name arguments found = .refused fault
  | .write _ _ => False

open Instance Operation

namespace Fault

/-- That an export cannot be entered any more is told in other words than that
the host cannot be used. -/
theorem not_usage_closedReport (name : String) : ¬ (report (closedReport name)).IsUsage := by
  rintro (above | above | same)
  · cases above
  · cases above
  · have messages : ("Policy module is unusable after an earlier trap" : String) =
        "Policy runtime is unusable after a guest trap" := congrArg Report.message same
    revert messages
    decide

theorem not_usage_trapped (name : String) :
    ¬ (report (Report.trapped name engineText)).IsUsage := by
  rintro (above | above | same)
  · cases above
  · cases above
  · have texts : Value.text engineText = Value.text "" :=
      congrArg (fun r : Report => r.details.get "underlying_error") same
    have said : engineText = "" := Value.text.inj texts
    revert said
    decide

/-- A call that breaks is no refusal, unless a handler made it one. -/
theorem not_usage_fatal {α : Type} {ending : Ending α} {name : String} {fault : Fault}
    (fatal : ending.Fatal name fault) (usage : fault.IsUsage) : ending = .refused fault := by
  cases ending with
  | returned _ => exact fatal.elim
  | trapped =>
    cases fatal
    exact absurd usage (not_usage_trapped name)
  | refused reason =>
    cases fatal
    rfl

theorem not_usage_own {fault : Fault}
    (own : fault.isA .marshaling = true ∨ fault.isA .guestMemory = true) : ¬ fault.IsUsage := by
  cases fault with
  | report r =>
    have apart : ∀ kind : ReportKind, kind.isA .marshaling = true ∨ kind.isA .guestMemory = true →
        kind.isA .configuration = false ∧ kind.isA .resourceLeak = false ∧
          kind ≠ .guestTrap := by
      intro kind
      cases kind <;> decide
    rcases apart r.kind own with ⟨configured, leaked, untrapped⟩
    rintro (above | above | same)
    · exact nomatch configured.symm.trans above
    · exact nomatch leaked.symm.trans above
    · exact untrapped (congrArg Report.kind same)
  | _ => exact id

end Fault

/-- Whatever goes wrong with a guest is no refusal, unless a handler made it one. -/
theorem Covers.usage {discipline : Discipline} {start : Instance σ}
    (equipped : discipline.Equips start.module) :
    Covers .always discipline (Later start) fun fault after => fault.IsUsage →
      ∃ access ∈ after.history, access.RefusedWith after.module after.handlers fault := by
  apply Covers.told equipped
  · exact fun name _ _ usage => absurd usage (Fault.not_usage_closedReport name)
  · intro name arguments fault guest after _ later broke usage
    cases broke with
    | miscounted _ told =>
      rw [told] at usage
      exact absurd usage (Fault.not_usage_trapped name)
    | fatal entered told =>
      refine ⟨.call name (arguments.map UInt32.ofInt) guest.snapshot, ?_, ?_⟩
      · rw [entered.history_eq]
        exact List.mem_cons_self ..
      · rw [entered.module_eq, entered.handlers_eq]
        exact Fault.not_usage_fatal told usage
  · exact fun _ _ usage => usage.elim
  · exact fun fault guest own _ usage => absurd usage (Fault.not_usage_own own)
  · intro fault before after known later usage
    rcases known usage with ⟨access, member, refused⟩
    rw [later.module_eq, later.handlers_eq]
    exact ⟨access, later.history.subset member, refused⟩

namespace Instance

/-- A guest that is lost meanwhile is lost by its own code, if the exports take
as many arguments as the host passes. -/
structure Ruins (before after : Instance σ) : Prop extends Later before after where
  ruined : before.module.Fits → before.trapped = false → after.trapped = true →
    ∃ access ∈ after.history, ¬ access.Returned after.module after.handlers

instance : IsPreorder (Instance σ) Ruins where
  refl guest := ⟨refl guest, fun _ usable lost => nomatch usable.symm.trans lost⟩
  trans first middle last early late := by
    refine ⟨IsTrans.trans _ _ _ early.toLater late.toLater, fun fits usable lost => ?_⟩
    cases between : middle.trapped with
    | false =>
      exact late.ruined (by rwa [early.module_eq]) between lost
    | true =>
      rcases early.ruined fits usable between with ⟨access, member, stuck⟩
      rw [late.module_eq, late.handlers_eq]
      exact ⟨access, late.history.subset member, stuck⟩

theorem tracks_ruins : Tracks (fun _ _ => True) (Ruins (σ := σ)) where
  call name arguments listed allowed guest := by
    refine ((tracks_later.call name arguments listed allowed guest).and
      (call_cases guest name arguments)).mono ?_ ?_
    · rintro answer after ⟨later, _, usable, _⟩
      exact ⟨later, fun _ _ lost => nomatch usable.symm.trans lost⟩
    · rintro fault after ⟨later, ⟨rfl, _⟩ | ⟨_, ⟨arity, found, count⟩, journal, rfl, _⟩ |
        ⟨entered, _, ended⟩⟩
      · exact refl after
      · refine ⟨later, fun fits _ _ => ?_⟩
        have same := fits _ listed (by rw [Module.hasFunction, found])
        rw [found] at same
        cases same
        exact absurd rfl count
      · refine ⟨later, fun _ _ _ => ⟨.call name (arguments.map UInt32.ofInt) guest.snapshot,
          ?_, ?_⟩⟩
        · rw [entered.history_eq]
          exact List.mem_cons_self ..
        · rw [entered.module_eq, entered.handlers_eq]
          rintro ⟨answer, returned⟩
          rcases ended with ⟨ended, _⟩ | ended <;> cases ended.symm.trans returned
  grown guest memory leads := ⟨tracks_later.grown guest memory leads, fun _ usable lost =>
    nomatch usable.symm.trans lost⟩
  written guest memory address bytes leads :=
    ⟨tracks_later.written guest memory address bytes leads,
      fun _ usable lost => nomatch usable.symm.trans lost⟩
  logged guest journal := ⟨tracks_later.logged guest journal, fun _ usable lost =>
    nomatch usable.symm.trans lost⟩

end Instance

namespace Builder

/-- Preparing a guest does not lose it, if it succeeds. -/
theorem prepare_going (discipline : Discipline) (maxPages : Option Nat) (guest : Instance σ)
    (equipped : discipline.Equips guest.module)
    (present : guest.module.hasFunction "entrypoints" = true) (usable : guest.trapped = false) :
    Ends (prepare discipline (discipline.terms maxPages)) guest
      (fun _ after => after.trapped = false) (fun _ _ => True) := by
  have covers : Covers .onSuccess discipline (Going guest) fun _ _ => True :=
    Covers.going equipped (fun _ _ _ _ _ _ _ _ _ => trivial) fun _ _ _ _ => trivial
  refine prepare_ends discipline _ guest (fun _ after => after.trapped = false) ?_
  rw [callAddress, ends_bind, callWord, ends_bind]
  refine ((tracks_later.call "entrypoints" [] (by simp [abi]) (fun _ => trivial) guest).and
    (call_open guest _ _ present usable)).mono ?_ (fun _ _ _ => trivial)
  rintro answer found ⟨later, _, stayed, _⟩
  cases answer with
  | none => trivial
  | some word =>
    refine (covers.readRaw maxPages _ found ⟨later, stayed⟩).mono ?_ (fun _ _ _ => trivial)
    rintro raw read ⟨going, _⟩
    exact (covers.takeCheckpoints read going).mono (fun _ _ taken => taken.1.2)
      (fun _ _ _ => trivial)

theorem instantiate_usable {module : Module σ} {builder : Builder} {journal journal' : Journal}
    {host : Host σ} (built : builder.instantiate module journal = .ok host journal') :
    host.guest.trapped = false := by
  have made := instantiate_made host.discipline (fun _ guest => guest.trapped = false) ?_ rfl built
  · rcases made with ⟨_, _, guest, usable, guest_eq⟩
    rw [guest_eq]
    exact usable
  · intro guest started present equipped
    exact prepare_going host.discipline builder.maxPages guest (by rwa [started.module_eq])
      (by rwa [started.module_eq]) started.open_eq

end Builder

namespace Host

variable {host : Host σ}

/-- A use is refused exactly when it is not due. -/
structure Heeds (host : Host σ) (use : Use) : Prop where
  /-- The first check that fails is the one that is reported, and it is all that
  happened. -/
  refused : ∀ fault, host.objection use = some fault →
    (outcome (perform use) host).1 = .error fault ∧
      Untouched host (outcome (perform use) host).2
  /-- Nothing else is reported as a refusal, other than by a handler. -/
  due : use.Works → ∀ fault, (outcome (perform use) host).1 = .error fault → fault.IsUsage →
    host.objection use = some fault ∨
      ∃ access ∈ (outcome (perform use) host).2.guest.history,
        access.RefusedWith host.guest.module host.guest.handlers fault
  /-- The guest counts as lost once its code was entered and did not come back. -/
  lost : ∀ access ∈ host.guest.history,
    ¬ access.Returned host.guest.module host.guest.handlers → host.guest.trapped = true
  /-- It does not count as lost for anything else. -/
  lost_only : host.guest.module.Fits → host.guest.trapped = true →
    ∃ access ∈ host.guest.history, ¬ access.Returned host.guest.module host.guest.handlers

theorem perform_usage (exclusive : host.Exclusive)
    (equipped : host.discipline.Equips host.guest.module) (use : Use) (works : use.Works) :
    Ends (perform use) host (fun _ _ => True) fun fault after => fault.IsUsage →
      host.objection use = some fault ∨
        ∃ access ∈ after.guest.history,
          access.RefusedWith host.guest.module host.guest.handlers fault := by
  have settles : Settles host (host.objection use) (host.task .always use) (fun _ => True)
      fun fault after => fault.IsUsage → host.objection use = some fault ∨
        ∃ access ∈ after.guest.history,
          access.RefusedWith host.guest.module host.guest.handlers fault := by
    refine ⟨fun fault after objects _ _ => Or.inl objects, fun _ => ?_⟩
    have far : ∀ input raw fault guest, use.evaluated = some input →
        host.discipline = .heapRewind → Payload.encode input = .ok raw →
        host.checkpoints.data.advance raw.length = .error fault → Later host.guest guest →
        fault.IsUsage → ∃ access ∈ guest.history,
          access.RefusedWith guest.module guest.handlers fault := by
      intro input raw fault guest _ _ _ far _ usage
      rcases Address.advance_cases host.checkpoints.data raw.length with
        ⟨_, near, _⟩ | ⟨offset, failed⟩
      · exact nomatch far.symm.trans near
      · cases far.symm.trans failed
        exact usage.elim
    refine (task_onlyFails (Covers.usage equipped) use far host.guest (refl host.guest)).mono
      (fun _ _ _ => trivial) ?_
    rintro fault guest ⟨known, later⟩ after rfl usage
    rcases known usage with ⟨access, member, refused⟩
    rw [later.module_eq, later.handlers_eq] at refused
    exact Or.inr ⟨access, member, refused⟩
  exact perform_settles exclusive use works settles

/-- Whatever was done with a host, and whatever its guest is: a use is refused
exactly when it is not due, for the first reason there is, and then nothing was
done. -/
theorem refusals_due {module : Module σ} {builder : Builder} {journal journal' : Journal}
    {host : Host σ} (built : builder.instantiate module journal = .ok host journal')
    (uses : List Use) (use : Use) : (run uses host).2.Heeds use := by
  rcases Builder.instantiate_equips built with ⟨unused, equipped, module_eq, history⟩
  have lives := run_lives tracks_ruins uses host
  have exclusive := unused.exclusive.run uses
  have equipped' := (run_lives tracks_later uses host).equips (by rwa [module_eq])
  have begun : host.guest.Sealed := by
    constructor
    · intro _ access member
      rw [history] at member
      cases member
    · intro newer access older split
      rw [history] at split
      simp at split
  have sealed_ := lives.guest.stays_sealed begun
  refine ⟨?_, ?_, ?_, ?_⟩
  · intro fault objects
    rcases (perform_refused exclusive use fault objects).outcome with
      ⟨_, _, impossible⟩ | ⟨told, failed, rfl, untouched⟩
    · exact impossible.elim
    · exact ⟨failed, untouched⟩
  · intro works fault failed usage
    exact (perform_usage exclusive equipped' use works).of_failed failed usage
  · intro access member stuck
    cases usable : (run uses host).2.guest.trapped with
    | true => rfl
    | false => exact absurd (sealed_.open_returned usable access member) stuck
  · intro fits lost
    rw [lives.guest.module_eq] at fits
    exact lives.guest.ruined fits (Builder.instantiate_usable built) lost

/-- An echo with an open context, asked for an entrypoint that it does not have.
That it is busy comes first. -/
theorem refusals_due_echo :
    Builder.Builds {} (Shelf.echo 0) fun host =>
      let uses := [.setData .null, .openContext .null]
      let use := .eval "missing" .null .any
      (((run uses host).2.objection use).bind Fault.report?).map (·.kind) = some .runtimeBusy ∧
        (run uses host).2.Heeds use := by
  have begun : Builder.Builds {} (Shelf.echo 0) fun host =>
      let uses := [.setData .null, .openContext .null]
      (((run uses host).2.objection (.eval "missing" .null .any)).bind Fault.report?).map
        (·.kind) = some .runtimeBusy := by
    decide +kernel
  rcases begun with ⟨host, journal, built, busy⟩
  exact ⟨host, journal, built, busy, refusals_due built _ _⟩

end Host
end PolicyHost
