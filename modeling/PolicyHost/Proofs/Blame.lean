import PolicyHost.Guest.Behaviour
import PolicyHost.Proofs.Admission

namespace PolicyHost

/-!
# Who is to blame

A call into the guest that breaks is the end of a use, but the host still
cleans up, and a release that is in vain by then may fail in turn.  The caller
is told of the call that broke, with one exception: when a result cannot be
read under the discipline that releases, the host releases the result all the
same, and it is that release that the caller is told of.

Where a use would break is found by letting it stop there, with nothing
cleaned up.
-/

variable {σ α β : Type}

open Instance Operation

namespace Operation

variable {S : Type} {operation : Operation S α} {s after : S}

theorem ensuring_of_ok {a : α} {cleanup : Operation S Unit} (returned : operation s = .ok a after) :
    Operation.ensuring operation cleanup s = Cleaning.onSuccess.ensuring operation cleanup s := by
  change _ = (do let a ← operation; cleanup; return a : Operation S α) s
  rw [bind_of_ok returned]
  unfold Operation.ensuring
  rw [returned]
  dsimp only
  cases cleaned : cleanup after with
  | ok _ last => rw [bind_of_ok cleaned]; rfl
  | error fault last => rw [bind_of_error cleaned]

theorem ensuring_of_error {fault : Fault} {cleanup : Operation S Unit}
    (failed : operation s = .error fault after) :
    Cleaning.onSuccess.ensuring operation cleanup s = .error fault after :=
  bind_of_error failed

end Operation

/-- What a caller is told of a call that broke with this fault: the fault itself,
or, where that is masked, that a block could not be released any more. -/
inductive Blames (masked : Prop) (fault : Fault) : Fault → Prop
  | own (clear : ¬ masked) : Blames masked fault fault
  | release (hidden : masked) : Blames masked fault (.report (closedReport "opa_free"))

/-- The operation that goes on after failures comes to what the one comes to that
stops there; but if that lost the guest, some other fault may be told. -/
def Follows (masked : Fault → Instance σ → Prop) (bare full : Operation (Instance σ) α)
    (guest : Instance σ) : Prop :=
  Ends bare guest (fun a after => full guest = .ok a after) fun fault lost =>
    lost.trapped = true → ∃ told after, full guest = .error told after ∧
      Later lost after ∧ Blames (masked fault lost) fault told

namespace Follows

variable {masked : Fault → Instance σ → Prop} {bare full : Operation (Instance σ) α}
variable {guest : Instance σ}

theorem ok {a : α} {after : Instance σ} (follows : Follows masked bare full guest)
    (returned : bare guest = .ok a after) : full guest = .ok a after := by
  have same := Ends.of_ok follows returned
  exact same

/-- What it comes to where a call broke. -/
theorem error {fault : Fault} {lost : Instance σ} (follows : Follows masked bare full guest)
    (failed : bare guest = .error fault lost) (closed : lost.trapped = true) :
    ∃ told after, full guest = .error told after ∧ Later lost after ∧
      Blames (masked fault lost) fault told :=
  Ends.of_error follows failed closed

/-- An operation that does not clean up follows itself. -/
theorem of_eq (same : full guest = bare guest)
    (clear : ∀ fault lost, bare guest = .error fault lost → ¬ masked fault lost) :
    Follows masked bare full guest := by
  unfold Follows Ends
  cases result : bare guest with
  | ok a after => exact same.trans result
  | error fault lost =>
    intro closed
    exact ⟨fault, lost, same.trans result, refl lost, .own (clear fault lost result)⟩

/-- Where there is nothing to do, nothing goes wrong. -/
theorem pure (a : α) : Follows masked (Pure.pure a) (Pure.pure a) guest :=
  of_eq rfl fun _ _ failed => nomatch failed

theorem congr {masked' : Fault → Instance σ → Prop} (follows : Follows masked bare full guest)
    (same : ∀ fault lost, masked fault lost ↔ masked' fault lost) :
    Follows masked' bare full guest := by
  have equal : masked' = masked := by
    funext fault lost
    exact propext (same fault lost).symm
  rwa [equal]

theorem bind {next next' : α → Operation (Instance σ) β} (first : Follows masked bare full guest)
    (rest : ∀ a middle, bare guest = .ok a middle → Follows masked (next a) (next' a) middle) :
    Follows masked (bare >>= next) (full >>= next') guest := by
  unfold Follows Ends
  cases result : bare guest with
  | ok a middle =>
    have same := first.ok result
    rw [bind_of_ok result, bind_of_ok same]
    exact rest a middle result
  | error fault lost =>
    rw [bind_of_error result]
    intro closed
    obtain ⟨told, after, failed, later, blames⟩ := first.error result closed
    exact ⟨told, after, bind_of_error failed, later, blames⟩

/-- Moving the heap pointer back is left undone with a guest that is lost. -/
theorem rewound (operation : Operation (Instance σ) α) (address : Address)
    (clear : ∀ fault lost, ¬ masked fault lost) :
    Follows masked (Cleaning.onSuccess.ensuring operation (Region.rewind address))
      (Operation.ensuring operation (Region.rewind address)) guest := by
  cases result : operation guest with
  | ok a middle => exact of_eq (ensuring_of_ok result) fun fault lost _ => clear fault lost
  | error fault lost =>
    unfold Follows Ends
    rw [ensuring_of_error result]
    intro closed
    have still : Region.rewind address lost = .ok () lost := by
      unfold Region.rewind
      rw [if_pos closed]
    refine ⟨fault, lost, ?_, refl lost, .own (clear fault lost)⟩
    unfold Operation.ensuring
    rw [result]
    dsimp only
    rw [still]

/-- Closing quietly after a failure tells nobody anything else. -/
theorem quietly (discipline : Discipline) (terms : Region.Terms) (checkpoints : Checkpoints)
    (handle : Handle) (follows : Follows masked bare full guest) :
    Follows masked bare (Operation.onFault full
      (discipline.closeQuietly terms checkpoints handle)) guest := by
  unfold Follows Ends
  cases result : bare guest with
  | ok a after =>
    have same := follows.ok result
    unfold Operation.onFault
    rw [same]
  | error fault lost =>
    intro closed
    obtain ⟨told, middle, failed, before, blames⟩ := follows.error result closed
    obtain ⟨_, after, done, later⟩ := Ends.returns
      (tracks_later.closeQuietly_returns discipline terms checkpoints handle middle)
    refine ⟨told, after, ?_, IsTrans.trans _ _ _ before later, blames⟩
    unfold Operation.onFault
    rw [failed]
    dsimp only
    rw [done]

end Follows

namespace Discipline

/-- In an open context the result could not be read, and it was to be released. -/
def MasksContext (discipline : Discipline) (terms : Region.Terms) (handle : Handle)
    (entrypoint : Int) (guest : Instance σ) (fault : Fault) (lost : Instance σ) : Prop :=
  discipline = .explicitFree ∧ ∃ result middle, runContext handle entrypoint guest = .ok result middle ∧
    Exchange.readRaw terms result middle = .error fault lost

/-- In a single evaluation the result could not be read, and it was to be released. -/
def Masks (discipline : Discipline) (terms : Region.Terms) (checkpoints : Checkpoints)
    (entrypoint : Int) (data : Address) (input : Value) (guest : Instance σ) (fault : Fault)
    (lost : Instance σ) : Prop :=
  ∃ handle opened, discipline.openContext terms checkpoints data input guest = .ok handle opened ∧
    discipline.MasksContext terms handle entrypoint opened fault lost

variable (discipline : Discipline) (maxPages : Option Nat)

/-- A block of a guest that was lost is released in vain. -/
theorem free_lost (address : Address) (guest : Instance σ)
    (equipped : explicitFree.Equips guest.module) (lost : guest.trapped = true) :
    Region.free (explicitFree.terms maxPages) address guest =
      .error (.report (closedReport "opa_free")) guest := by
  have ends : Ends (Region.free (explicitFree.terms maxPages) address) guest (fun _ _ => False)
      (fun fault after => fault = .report (closedReport "opa_free") ∧ after = guest) := by
    rw [Region.free_eq _ _ rfl, callVoid, ends_bind]
    exact (call_lost guest _ _ (equipped _ (by decide)) lost).mono
      (fun _ _ impossible => impossible.elim) fun _ _ failed => failed
  obtain ⟨fault, after, failed, rfl, rfl⟩ := ends.fails
  exact failed

theorem contextEval_follows (handle : Handle) (name : String) (entrypoint : Int) (schema : Schema)
    (guest : Instance σ) (equipped : discipline.Equips guest.module) :
    Follows (discipline.MasksContext (discipline.terms maxPages) handle entrypoint guest)
      (discipline.contextEvalWith .onSuccess (discipline.terms maxPages) handle name entrypoint
        schema)
      (discipline.contextEval (discipline.terms maxPages) handle name entrypoint schema) guest := by
  cases discipline with
  | explicitFree =>
    apply Follows.bind
    · apply Follows.of_eq rfl
      intro fault lost failed masked
      obtain ⟨_, result, middle, ran, _⟩ := masked
      exact nomatch failed.symm.trans ran
    intro result middle ran
    have masks : ∀ fault lost, explicitFree.MasksContext (explicitFree.terms maxPages) handle
        entrypoint guest fault lost ↔
          Exchange.readRaw (explicitFree.terms maxPages) result middle = .error fault lost := by
      intro fault lost
      constructor
      · intro masked
        obtain ⟨_, result', middle', ran', failed⟩ := masked
        cases ran.symm.trans ran'
        exact failed
      · intro failed
        exact ⟨rfl, result, middle, ran, failed⟩
    cases read : Exchange.readRaw (explicitFree.terms maxPages) result middle with
    | ok raw after =>
      apply Follows.of_eq (bind_eq_of_eq (ensuring_of_ok read))
      intro fault lost _ masked
      exact nomatch read.symm.trans ((masks fault lost).mp masked)
    | error fault lost =>
      -- Reading is what broke, and the release that follows fails on the guest that was lost.
      unfold Follows Ends
      rw [bind_of_error (ensuring_of_error read)]
      intro closed
      have begun := (tracks_later.runContext handle entrypoint trivial guest).of_ok ran
      have later := (tracks_later.readRaw (explicitFree.terms maxPages) result middle).of_error read
      have vain := free_lost maxPages result lost (later.equips (begun.equips equipped)) closed
      refine ⟨_, lost, ?_, refl lost, .release ((masks fault lost).mpr read)⟩
      apply bind_of_error
      unfold Operation.ensuring
      rw [read]
      dsimp only
      rw [vain]
  | heapRewind =>
    have clear : ∀ fault lost, ¬ heapRewind.MasksContext (heapRewind.terms maxPages) handle
        entrypoint guest fault lost := fun _ _ masked => nomatch masked.1
    apply Follows.bind (Follows.of_eq rfl fun fault lost _ => clear fault lost)
    intro saved middle _
    apply Follows.bind (Follows.rewound _ saved clear)
    intro raw after _
    exact Follows.of_eq rfl fun fault lost _ => clear fault lost

/-- Where a result is masked that could not be read, the evaluation failed with it. -/
theorem contextEvalWith_of_masks (terms : Region.Terms) (handle : Handle) (name : String)
    (entrypoint : Int) (schema : Schema) (guest : Instance σ) (fault : Fault) (lost : Instance σ)
    (masked : discipline.MasksContext terms handle entrypoint guest fault lost) :
    discipline.contextEvalWith .onSuccess terms handle name entrypoint schema guest =
      .error fault lost := by
  obtain ⟨rfl, result, middle, ran, failed⟩ := masked
  exact (bind_of_ok ran).trans (bind_of_error (ensuring_of_error failed))

theorem evaluate_follows (checkpoints : Checkpoints) (name : String) (entrypoint : Int)
    (data : Address) (input : Value) (schema : Schema) (guest : Instance σ)
    (equipped : discipline.Equips guest.module) :
    Follows (discipline.Masks (discipline.terms maxPages) checkpoints entrypoint data input guest)
      (discipline.evaluateWith .onSuccess (discipline.terms maxPages) checkpoints name entrypoint
        data input schema)
      (discipline.evaluate (discipline.terms maxPages) checkpoints name entrypoint data input
        schema) guest := by
  cases discipline with
  | explicitFree =>
    apply Follows.bind
    · apply Follows.of_eq rfl
      intro fault lost failed masked
      obtain ⟨handle, opened, returned, _⟩ := masked
      exact nomatch failed.symm.trans returned
    intro handle opened returned
    have masks : ∀ fault lost, explicitFree.MasksContext (explicitFree.terms maxPages) handle
        entrypoint opened fault lost ↔ explicitFree.Masks (explicitFree.terms maxPages) checkpoints
          entrypoint data input guest fault lost := by
      intro fault lost
      constructor
      · intro masked
        exact ⟨handle, opened, returned, masked⟩
      · intro masked
        obtain ⟨handle', opened', returned', masked⟩ := masked
        cases returned.symm.trans returned'
        exact masked
    have begun :=
      (tracks_later.openContext .explicitFree (explicitFree.terms maxPages) checkpoints data input
        (fun _ => trivial) guest).of_ok returned
    have evaluates := contextEval_follows .explicitFree maxPages handle name entrypoint schema
      opened (begun.equips equipped)
    apply Follows.bind ((evaluates.quietly .explicitFree _ checkpoints handle).congr masks)
    intro value after evaluated
    apply Follows.of_eq rfl
    intro fault lost _ masked
    have failed := contextEvalWith_of_masks .explicitFree _ handle name entrypoint schema opened
      fault lost ((masks fault lost).mpr masked)
    exact nomatch failed.symm.trans evaluated
  | heapRewind =>
    -- Rewinding releases nothing, so there is no release that could fail in its place.
    have clear : ∀ fault lost, ¬ heapRewind.Masks (heapRewind.terms maxPages) checkpoints
        entrypoint data input guest fault lost := by
      intro fault lost masked
      obtain ⟨_, _, _, releases, _⟩ := masked
      cases releases
    apply Follows.bind (Follows.of_eq rfl fun fault lost _ => clear fault lost)
    intro raw middle _
    apply Follows.bind (Follows.of_eq rfl fun fault lost _ => clear fault lost)
    intro heap middle _
    apply Follows.bind (Follows.rewound _ checkpoints.data clear)
    intro found middle _
    exact Follows.of_eq rfl fun fault lost _ => clear fault lost

end Discipline

namespace Host

variable {host : Host σ}

/-- In a single evaluation the result could not be read, and it was to be released. -/
def MasksEval (host : Host σ) (entrypoint : String) (input : Value) (fault : Fault)
    (lost : Instance σ) : Prop :=
  ∃ id data, host.published entrypoint = some id ∧ host.dataset = some data ∧
    host.discipline.Masks host.terms host.checkpoints id data input host.guest fault lost

/-- In a use the result of an evaluation could not be read, and it was to be
released. -/
def Masks (host : Host σ) (use : Use) (fault : Fault) (lost : Instance σ) : Prop :=
  match use with
  | .eval entrypoint input _ => host.MasksEval entrypoint input fault lost
  | .decide binding value => ∃ input, binding.prepareInput value = .ok input ∧
    host.MasksEval binding.path input fault lost
  | .contextEval id entrypoint _ => ∃ context entrypointId, host.contexts[id]? = some context ∧
    host.published entrypoint = some entrypointId ∧
    host.discipline.MasksContext host.terms context.handle entrypointId host.guest fault lost
  | .setData _ | .openContext _ | .destroy _ | .leave _ _ | .drop _ | .entrypointId _ => False

/-- The first thing that goes wrong in a use is a call into the guest, which is lost
with it.  Nothing is cleaned up to tell. -/
structure Falls (host : Host σ) (use : Use) (fault : Fault) (lost : Instance σ) : Prop where
  due : host.objection use = none
  failed : host.task .onSuccess use host.guest = .error fault lost
  closed : lost.trapped = true

theorem evalTask_follows (equipped : host.discipline.Equips host.guest.module)
    (entrypoint : String) (input : Value) (schema : Schema) :
    Follows (host.MasksEval entrypoint input) (host.evalTask .onSuccess entrypoint input schema)
      (host.evalTask .always entrypoint input schema) host.guest := by
  unfold evalTask
  cases known : host.published entrypoint with
  | none => exact Follows.pure ()
  | some id =>
    cases installed : host.dataset with
    | none => exact Follows.pure ()
    | some data =>
      have masks : ∀ fault lost, host.discipline.Masks host.terms host.checkpoints id data input
          host.guest fault lost ↔ host.MasksEval entrypoint input fault lost := by
        intro fault lost
        simp [MasksEval, known, installed]
      have evaluates := host.discipline.evaluate_follows host.maxPages host.checkpoints
        (normalizePath entrypoint) id data input schema host.guest equipped
      rw [← Discipline.evaluateWith_always] at evaluates
      exact (evaluates.congr masks).bind fun _ _ _ => Follows.pure ()

theorem task_follows (equipped : host.discipline.Equips host.guest.module) (use : Use) :
    Follows (host.Masks use) (host.task .onSuccess use) (host.task .always use) host.guest := by
  unfold task Masks
  cases use with
  | eval entrypoint input schema => exact evalTask_follows equipped entrypoint input schema
  | decide binding value =>
    dsimp only
    cases prepared : binding.prepareInput value with
    | error r => exact Follows.pure ()
    | ok input =>
      apply (evalTask_follows equipped binding.path input binding.output).congr
      intro fault lost
      simp
  | contextEval id entrypoint schema =>
    dsimp only
    cases found : host.contexts[id]? with
    | none => exact Follows.pure ()
    | some context =>
      cases known : host.published entrypoint with
      | none => exact Follows.pure ()
      | some entrypointId =>
        have evaluates := host.discipline.contextEval_follows host.maxPages context.handle
          (normalizePath entrypoint) entrypointId schema host.guest equipped
        rw [← Discipline.contextEvalWith_always] at evaluates
        have masks : ∀ fault lost, host.discipline.MasksContext host.terms context.handle
            entrypointId host.guest fault lost ↔ ∃ context' id', some context = some context' ∧
              some entrypointId = some id' ∧ host.discipline.MasksContext host.terms
                context'.handle id' host.guest fault lost := by
          intro fault lost
          simp
        exact (evaluates.congr masks).bind fun _ _ _ => Follows.pure ()
  | setData | openContext | destroy | leave | drop | entrypointId =>
    exact Follows.of_eq rfl fun _ _ _ impossible => impossible

/-- What loses the guest first in a task is a call that breaks. -/
theorem Falls.breaks {use : Use} {fault : Fault} {lost : Instance σ}
    (falls : host.Falls use fault lost) (equipped : host.discipline.Equips host.guest.module)
    (usable : host.guest.trapped = false) :
    ∃ name arguments before, (name, arguments.length) ∈ abi ∧ Later host.guest before ∧
      before.trapped = false ∧ Breaks name arguments fault before lost := by
  have covers : Covers .onSuccess host.discipline (Going host.guest) fun fault after =>
      after.trapped = true → ∃ name arguments before, (name, arguments.length) ∈ abi ∧
        Later host.guest before ∧ before.trapped = false ∧ Breaks name arguments fault before after := by
    apply Covers.going equipped
    · intro name arguments fault guest after going _ listed broke _
      exact ⟨name, arguments, guest, listed, going.1, going.2, broke⟩
    · intro fault guest _ going closed
      exact nomatch going.2.symm.trans closed
  have ends := task_onlyFails covers use
    (fun _ _ fault guest _ _ _ _ going closed => nomatch going.2.symm.trans closed)
    host.guest ⟨refl host.guest, usable⟩
  exact (ends.of_error falls.failed).1 falls.closed

/-- A use in which a call can break gives the guest something to do. -/
theorem Falls.works {use : Use} {fault : Fault} {lost : Instance σ}
    (falls : host.Falls use fault lost) : use.Works := by
  have failed := falls.failed
  cases use with
  | setData | eval | decide | openContext | contextEval => constructor
  | destroy | leave | drop | entrypointId => cases failed

/-- A guest that was lost speaks against every such use. -/
theorem usable_of_due {use : Use} (works : use.Works) (due : host.objection use = none) :
    host.guest.trapped = false := by
  have first : ∀ others : Option Report, (host.unusable.or others).map Fault.report = none →
      host.unusable = none := by
    intro others silent
    exact (Option.or_eq_none_iff.mp (Option.map_eq_none_iff.mp silent)).1
  have usable : host.unusable = none := by
    unfold objection at due
    cases works with
    | setData => exact first _ due
    | eval => exact first _ due
    | openContext => exact first _ due
    | decide binding input =>
      dsimp only at due
      split at due
      · cases due
      · exact first _ due
    | contextEval id entrypoint schema =>
      dsimp only at due
      split at due
      · cases due
      · split at due
        · cases due
        · exact first _ due
  unfold unusable at usable
  cases leak : host.leak with
  | some leaked => simp [leak] at usable
  | none => simpa [leak] using usable

/-- Whatever was done with a host, and whatever its guest is: if the first thing that
goes wrong in a use is a call into the guest, then the caller is told what that call
failed with, unless it was a result under the discipline that releases which could
not be read. -/
theorem failures_blamed {module : Module σ} {builder : Builder} {journal journal' : Journal}
    {host : Host σ} (built : builder.instantiate module journal = .ok host journal')
    (uses : List Use) (use : Use) (fault : Fault) (lost : Instance σ)
    (falls : (run uses host).2.Falls use fault lost) :
    (∃ name arguments before, (name, arguments.length) ∈ abi ∧
      Later (run uses host).2.guest before ∧ before.trapped = false ∧
      Breaks name arguments fault before lost) ∧
    ∃ told, (outcome (perform use) (run uses host).2).1 = .error told ∧
      Later lost (outcome (perform use) (run uses host).2).2.guest ∧
      Blames ((run uses host).2.Masks use fault lost) fault told := by
  obtain ⟨unused, equipped, module_eq, _⟩ := Builder.instantiate_equips built
  have lives := run_lives tracks_later uses host
  have exclusive := unused.exclusive.run uses
  have equipped' := lives.equips (by rwa [module_eq])
  refine ⟨falls.breaks equipped' (usable_of_due falls.works falls.due), ?_⟩
  obtain ⟨told, after, failed, later, blames⟩ :=
    (task_follows equipped' use).error falls.failed falls.closed
  have settles : Settles (run uses host).2 ((run uses host).2.objection use)
      ((run uses host).2.task .always use) (fun _ => False)
      fun fault after => fault = told ∧ Later lost after.guest := by
    constructor
    · intro fault after objects _
      exact nomatch falls.due.symm.trans objects
    · intro _
      unfold Ends
      rw [failed]
      intro after' same
      exact ⟨rfl, by rwa [same]⟩
  obtain ⟨_, _, impossible⟩ | ⟨fault', answered, same, ended⟩ :=
    (perform_settles exclusive use falls.works settles).outcome
  · exact impossible.elim
  · exact ⟨told, by rw [answered, same], ended, blames⟩

end Host

/-- The standard policy, whose guest traps when it is to dump its first result. -/
def Policy.speechless : Policy :=
  { standard with overrides := [⟨"opa_json_dump", 2, [.trap]⟩] }

namespace Host

/-- On such a guest a single evaluation falls, and its caller is told something else. -/
theorem speechless_falls :
    Builder.Builds {} Policy.speechless.toModule fun host =>
      let before := (run [.setData .null] host).2
      let use := .eval "echo/input" .null .any
      ∃ fault lost told, before.Falls use fault lost ∧
        (outcome (perform use) before).1 = .error told ∧ fault.text ≠ told.text := by
  have begun : Builder.Builds {} Policy.speechless.toModule fun host =>
      let before := (run [.setData .null] host).2
      let use := .eval "echo/input" .null .any
      (before.objection use).isNone = true ∧
        (match before.task .onSuccess use before.guest, (outcome (perform use) before).1 with
          | .error fault lost, .error told => lost.trapped && fault.text != told.text
          | _, _ => false) = true := by
    decide +kernel
  obtain ⟨host, journal, built, due, differ⟩ := begun
  refine ⟨host, journal, built, ?_⟩
  split at differ
  · rename_i fault lost told failed answered
    obtain ⟨closed, differ⟩ := Bool.and_eq_true_iff.mp differ
    have falls : (run [.setData .null] host).2.Falls (.eval "echo/input" .null .any) fault lost :=
      ⟨Option.isNone_iff_eq_none.mp due, failed, closed⟩
    exact ⟨fault, lost, told, falls, answered, by simpa using differ⟩
  · cases differ

theorem failures_blamed_speechless :
    Builder.Builds {} Policy.speechless.toModule fun host =>
      let uses := [.setData .null]
      let use := .eval "echo/input" .null .any
      ∃ fault lost, (run uses host).2.Falls use fault lost ∧
        (∃ name arguments before, (name, arguments.length) ∈ abi ∧
          Later (run uses host).2.guest before ∧ before.trapped = false ∧
          Breaks name arguments fault before lost) ∧
        ∃ told, (outcome (perform use) (run uses host).2).1 = .error told ∧
          Later lost (outcome (perform use) (run uses host).2).2.guest ∧
          Blames ((run uses host).2.Masks use fault lost) fault told := by
  obtain ⟨host, journal, built, fault, lost, _, falls, _⟩ := speechless_falls
  exact ⟨host, journal, built, fault, lost, falls, failures_blamed built _ _ fault lost falls⟩

/-- Not every caller is told what the call failed with that broke. -/
theorem failure_masked :
    Builder.Builds {} Policy.speechless.toModule fun host =>
      let before := (run [.setData .null] host).2
      let use := .eval "echo/input" .null .any
      ¬ ∀ fault lost, before.Falls use fault lost →
        (outcome (perform use) before).1 = .error fault := by
  obtain ⟨host, journal, built, fault, lost, told, falls, answered, differ⟩ := speechless_falls
  refine ⟨host, journal, built, fun own => ?_⟩
  cases answered.symm.trans (own fault lost falls)
  exact differ rfl

end Host
end PolicyHost
