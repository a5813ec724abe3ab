import PolicyHost.Proofs.Refusal
import PolicyHost.Proofs.Signature

namespace PolicyHost

/-!
# What a caller can be told

A guest answers with any words it likes, and they go into addresses, sums and
page counts of the host.  As long as the guest's exports have the signatures
that the host relies on, and the handlers in use are the standard ones, all
that can go wrong is told by a report, with one exception.  Under the rewinding
discipline the input of a single evaluation is laid out from where the guest
says that its heap ends; if the input would end past the last address, the sum
itself is what the caller is told.
-/

variable {σ : Type}

open Instance Operation

namespace Address

/-- There is no address further on exactly if it would be past the last one. -/
theorem advance_error (address : Address) (length : Nat) (fault : Fault) :
    address.advance length = .error fault ↔
      2 ^ 32 ≤ address.offset + length ∧ fault = .badAddress (address.offset + length) := by
  unfold advance ofInt
  split
  · rename_i inside
    constructor
    · intro impossible
      cases impossible
    · rintro ⟨outside, _⟩
      omega
  · rename_i outside
    constructor
    · intro same
      cases same
      exact ⟨by omega, rfl⟩
    · rintro ⟨_, rfl⟩
      rfl

end Address

/-- The handlers can stop a guest with this fault. -/
def Handlers.Raises (handlers : Handlers) (fault : Fault) : Prop :=
  ∃ text, (handlers.abort text).fault = some fault ∨ (handlers.print text).fault = some fault

/-- What stops a run is something that the handlers can stop it with. -/
theorem Run.ending_raised {α : Type} (run : Run σ α) (handlers : Handlers) (fault : Fault)
    (refused : run.ending handlers = .refused fault) : handlers.Raises fault := by
  induction run with
  | done result memory state => cases refused
  | trap memory state => cases refused
  | call request memory state rest inductionHypothesis =>
    unfold Run.ending at refused
    cases stops : (handlers.react memory request).fault with
    | none =>
      rw [stops] at refused
      exact inductionHypothesis refused
    | some reason =>
      rw [stops] at refused
      cases refused
      revert stops
      fun_cases Handlers.react handlers memory request with
      | case1 address => exact fun stops => ⟨_, Or.inl stops⟩
      | case2 address text => exact fun stops => ⟨_, Or.inl stops⟩
      | case3 address printed text => exact fun stops => ⟨_, Or.inr stops⟩
      | case4 arity id =>
        intro stops
        cases stops

/-- A call that breaks is told as a trap, or as the handlers have it. -/
theorem Instance.Breaks.trapped_or_raised {name : String} {arguments : List Int} {fault : Fault}
    {guest after : Instance σ} (breaks : Breaks name arguments fault guest after) :
    fault = .report (Report.trapped name engineText) ∨ guest.handlers.Raises fault := by
  cases breaks with
  | miscounted _ told => exact Or.inl told
  | fatal _ told =>
    cases ended : guest.callEnding name (arguments.map UInt32.ofInt) with
    | returned _ =>
      rw [ended] at told
      exact told.elim
    | trapped =>
      rw [ended] at told
      exact Or.inl told
    | refused reason =>
      rw [ended] at told
      cases told
      exact Or.inr (Run.ending_raised _ _ _ ended)

/-- The handlers stop a policy that gives up, and nothing else. -/
structure Handlers.Plain (handlers : Handlers) : Prop where
  abort : ∀ text, (handlers.abort text).fault = some (.report (Report.aborted text))
  print : ∀ text, (handlers.print text).fault = none

theorem Handlers.standard_plain : Handlers.standard.Plain :=
  ⟨fun _ => rfl, fun _ => rfl⟩

theorem Handlers.Plain.raises {handlers : Handlers} (plain : handlers.Plain) {fault : Fault}
    (raises : handlers.Raises fault) : ∃ message, fault = .report (Report.aborted message) := by
  obtain ⟨text, stops | stops⟩ := raises
  · exact ⟨text, (Option.some.inj ((plain.abort text).symm.trans stops)).symm⟩
  · exact nomatch (plain.print text).symm.trans stops

/-- The guest trapped, or a document did not pass the boundary. -/
def Fault.Contained (fault : Fault) : Prop :=
  ∃ r, fault = .report r ∧ (r.kind.isA .guestTrap = true ∨ r.kind.isA .marshaling = true)

theorem Instance.Breaks.contained {name : String} {arguments : List Int} {fault : Fault}
    {guest after : Instance σ} (breaks : Breaks name arguments fault guest after)
    (plain : guest.handlers.Plain) : fault.Contained := by
  obtain rfl | raised := breaks.trapped_or_raised
  · exact ⟨_, rfl, Or.inl rfl⟩
  · obtain ⟨message, rfl⟩ := plain.raises raised
    exact ⟨_, rfl, Or.inl rfl⟩

/-- A kind of fault that covers a guest that was closed, calls that break, and what the host
itself runs into covers a guest whose exports have the signatures: none fails to answer. -/
theorem Covers.signed {discipline : Discipline} {start : Instance σ} {kind : Fault → Prop}
    (equipped : discipline.Equips start.module) (signed : start.module.Signed)
    (closed : ∀ name, kind (.report (closedReport name)))
    (breaks : ∀ name arguments fault guest after, Later start guest →
      Breaks name arguments fault guest after → kind fault)
    (own : ∀ fault : Fault, fault.isA .marshaling = true ∨ fault.isA .guestMemory = true →
      kind fault) :
    Covers .always discipline (Later start) fun fault _ => kind fault := by
  have told : ∀ (name : String) (arguments : List Int) (guest : Instance σ),
      name ∈ discipline.requiredExports → Later start guest →
      Ends (Instance.call name arguments) guest
        (fun answer after => Called name (arguments.map UInt32.ofInt) answer guest after)
        (fun fault _ => kind fault) := by
    intro name arguments guest required since
    refine ((call_called guest name arguments).and (call_told guest name arguments
      (since.equips equipped name required))).mono (fun _ _ both => both.1) ?_
    rintro fault after ⟨_, ⟨_, rfl⟩ | broke⟩
    · exact closed name
    · exact breaks name arguments fault guest after since broke
  refine Covers.always ?_ ?_ (fun fault _ known _ => own fault known)
    (fun _ _ since later => IsTrans.trans _ _ _ since later) (fun _ _ _ known _ => known)
  · intro name arguments listed required guest since
    exact ((tracks_later.call name arguments listed (fun _ => trivial) guest).and
      (told name arguments guest required since)).mono
        (fun _ _ both => ⟨IsTrans.trans _ _ _ since both.1, both.1⟩)
        (fun _ _ both => ⟨both.2, both.1⟩)
  · intro name arguments listed required replies guest since
    rw [Instance.callWord, ends_bind]
    refine ((tracks_later.call name arguments listed (fun _ => trivial) guest).and
      (told name arguments guest required since)).mono ?_ (fun _ _ both => ⟨both.2, both.1⟩)
    rintro answer after ⟨later, called⟩
    have answered := called.answered
    rw [since.module_eq] at answered
    cases answer with
    | some word => exact ⟨IsTrans.trans _ _ _ since later, later⟩
    | none =>
      have word := signed.answers name replies _ _ _ _ (by rwa [List.length_map]) answered
      cases word

/-- Whatever goes wrong with such a guest is reported. -/
theorem Covers.reported {discipline : Discipline} {start : Instance σ}
    (equipped : discipline.Equips start.module) (signed : start.module.Signed)
    (standard : start.handlers = Handlers.standard) :
    Covers .always discipline (Later start) fun fault _ => ∃ r, fault = .report r := by
  apply Covers.signed equipped signed
  · exact fun name => ⟨_, rfl⟩
  · intro name arguments fault guest after since broke
    have plain : guest.handlers.Plain := by
      rw [since.handlers_eq, standard]
      exact Handlers.standard_plain
    obtain ⟨r, told, _⟩ := broke.contained plain
    exact ⟨r, told⟩
  · intro fault own
    cases fault with
    | report r => exact ⟨r, rfl⟩
    | _ => rcases own with own | own <;> cases own

namespace Builder

theorem instantiate_handlers {module : Module σ} {builder : Builder} {journal journal' : Journal}
    {host : Host σ} (built : builder.instantiate module journal = .ok host journal') :
    host.guest.handlers = builder.handlers := by
  have made := instantiate_made host.discipline
    (fun _ guest => guest.handlers = builder.handlers) ?_ rfl built
  · rcases made with ⟨_, _, guest, handlers_eq, guest_eq⟩
    rw [guest_eq]
    exact handlers_eq
  · intro guest started _ _
    exact (prepare_keeps tracks_later host.discipline _ guest).mono
      (fun _ _ later => later.handlers_eq.trans started.handlers_eq) (fun _ _ _ => trivial)

theorem handlers_standard {builder : Builder} (abort : builder.onAbort = none)
    (print : builder.onPrint = none) : builder.handlers = Handlers.standard := by
  unfold handlers
  rw [abort, print]
  rfl

end Builder

/-- An input that does not fit its binding is a matter of marshaling. -/
theorem Binding.prepareInput_error_kind (binding : Binding) (value : Value) (r : Report)
    (failed : binding.prepareInput value = .error r) : r.kind.isA .marshaling = true := by
  unfold prepareInput at failed
  split at failed
  · cases failed
  · split at failed <;> cases failed
    rfl

namespace Host

variable {host : Host σ}

/-- The context that a use names. -/
def Use.context? : Use → Option ContextId
  | .contextEval id _ _ | .destroy id | .leave id _ | .drop id => some id
  | .setData _ | .eval _ _ _ | .decide _ _ | .openContext _ | .entrypointId _ => none

/-- The input of a single evaluation would end past the last address, counted from
where the guest said that the dataset ends. -/
structure Overflows (host : Host σ) (use : Use) (stop : Nat) : Prop where
  due : host.objection use = none
  rewinds : host.discipline = .heapRewind
  laid_out : ∃ input raw, use.evaluated = some input ∧ Payload.encode input = .ok raw ∧
    stop = host.checkpoints.data.offset + raw.length
  far : 2 ^ 32 ≤ stop

/-- What the caller of a use may be told.  Whatever goes wrong is reported, except
that a use may name a context that never was, and that an input may end past the
last address. -/
inductive Told (host : Host σ) (use : Use) : Fault → Prop
  | reported (r : Report) : Told host use (.report r)
  | missing (id : ContextId) (named : use.context? = some id)
    (missing : host.contexts[id]? = none) : Told host use .noSlot
  | overflow (stop : Nat) (overflows : host.Overflows use stop) : Told host use (.badAddress stop)

/-- If there is a report, then it refuses a use. -/
def Refusing (r? : Option Report) : Prop := ∀ r, r? = some r → (Fault.report r).IsUsage

theorem Refusing.or {first second : Option Report} (refusing : Refusing first)
    (other : Refusing second) : Refusing (first.or second) := by
  intro r found
  obtain found | ⟨_, found⟩ := Option.or_eq_some_iff.mp found
  · exact refusing r found
  · exact other r found

theorem unusable_refusing : Refusing host.unusable := by
  intro r found
  unfold unusable at found
  cases leaked : host.leak with
  | some leak =>
    rw [leaked] at found
    cases found
    exact Or.inr (Or.inl rfl)
  | none =>
    simp only [leaked] at found
    split at found
    · cases found
      exact Or.inr (Or.inr rfl)
    · cases found

theorem occupied_refusing : Refusing host.occupied := by
  intro r found
  unfold occupied at found
  split at found
  · cases found
  · cases found
    exact Or.inl rfl

theorem unknown_refusing (entrypoint : String) : Refusing (host.unknown entrypoint) := by
  intro r found
  unfold unknown at found
  split at found
  · cases found
  · cases found
    exact Or.inl rfl

theorem dataless_refusing : Refusing host.dataless := by
  intro r found
  unfold dataless at found
  split at found
  · cases found
  · cases found
    exact Or.inl rfl

theorem evalObjection_refusing (entrypoint : String) : Refusing (host.evalObjection entrypoint) :=
  unusable_refusing.or (occupied_refusing.or ((unknown_refusing entrypoint).or dataless_refusing))

/-- What speaks against a use is a matter of usage, an input that does not fit, or
a context that never was. -/
theorem objection_cases (use : Use) (fault : Fault) (objects : host.objection use = some fault) :
    fault.IsUsage ∨ fault.isA .marshaling = true ∨
      ∃ id, fault = .noSlot ∧ use.context? = some id ∧ host.contexts[id]? = none := by
  have usage : ∀ r? : Option Report, Refusing r? → r?.map Fault.report = some fault →
      fault.IsUsage := by
    intro r? refusing same
    obtain ⟨r, found, rfl⟩ := Option.map_eq_some_iff.mp same
    exact refusing r found
  have destroyed : (Fault.report Report.contextDestroyed).IsUsage := Or.inl rfl
  unfold objection at objects
  cases use with
  | setData => exact Or.inl (usage _ (unusable_refusing.or occupied_refusing) objects)
  | eval => exact Or.inl (usage _ (evalObjection_refusing _) objects)
  | openContext =>
    exact Or.inl (usage _ (unusable_refusing.or (occupied_refusing.or dataless_refusing)) objects)
  | entrypointId => exact Or.inl (usage _ (unknown_refusing _) objects)
  | decide binding input =>
    dsimp only at objects
    cases prepared : binding.prepareInput input with
    | error r =>
      rw [prepared] at objects
      cases objects
      exact Or.inr (Or.inl (binding.prepareInput_error_kind input r prepared))
    | ok prepared' =>
      rw [prepared] at objects
      exact Or.inl (usage _ (evalObjection_refusing _) objects)
  | contextEval id entrypoint schema =>
    dsimp only at objects
    cases found : host.contexts[id]? with
    | none =>
      rw [found] at objects
      cases objects
      exact Or.inr (Or.inr ⟨id, rfl, rfl, found⟩)
    | some context =>
      rw [found] at objects
      dsimp only at objects
      split at objects
      · cases objects
        exact Or.inl destroyed
      · exact Or.inl (usage _ (unusable_refusing.or (unknown_refusing entrypoint)) objects)
  | destroy id =>
    dsimp only at objects
    cases found : host.contexts[id]? with
    | none =>
      rw [found] at objects
      cases objects
      exact Or.inr (Or.inr ⟨id, rfl, rfl, found⟩)
    | some context =>
      rw [found] at objects
      dsimp only at objects
      split at objects <;> cases objects
      exact Or.inl destroyed
  | leave id unwinding | drop id =>
    dsimp only at objects
    split at objects
    · cases objects
    · rename_i missing
      cases objects
      exact Or.inr (Or.inr ⟨id, rfl, rfl, by simpa using missing⟩)

theorem told_objection (use : Use) (fault : Fault) (objects : host.objection use = some fault) :
    host.Told use fault := by
  obtain usage | misfit | ⟨id, rfl, named, missing⟩ := objection_cases use fault objects
  · cases fault with
    | report r => exact .reported r
    | _ => exact usage.elim
  · cases fault with
    | report r => exact .reported r
    | _ => cases misfit
  · exact .missing id named missing

/-- A single evaluation to which nothing speaks has an entrypoint and a dataset. -/
theorem evalObjection_none (entrypoint : String) (free : host.evalObjection entrypoint = none) :
    ∃ id data, host.published entrypoint = some id ∧ host.dataset = some data := by
  unfold evalObjection unknown dataless at free
  simp only [Option.or_eq_none_iff] at free
  rcases free with ⟨_, _, known, installed⟩
  cases found : host.published entrypoint with
  | none => simp [found] at known
  | some id =>
    cases dataset : host.dataset with
    | none => simp [dataset] at installed
    | some data => exact ⟨id, data, rfl, rfl⟩

/-- An input that ends past the last address is found before the guest is asked
for anything. -/
theorem Overflows.task_ends {use : Use} {stop : Nat} (overflows : host.Overflows use stop) :
    Ends (host.task .always use) host.guest (fun _ _ => False)
      (fun fault guest => fault = .badAddress stop ∧ guest = host.guest) := by
  rcases overflows with ⟨due, rewinds, ⟨input, raw, evaluated, encoded, rfl⟩, far⟩
  have advanced := (Address.advance_error host.checkpoints.data raw.length _).mpr ⟨far, rfl⟩
  have ends : ∀ entrypoint schema, host.evalObjection entrypoint = none →
      Ends (host.evalTask .always entrypoint input schema) host.guest (fun _ _ => False)
        (fun fault guest => fault = .badAddress (host.checkpoints.data.offset + raw.length) ∧
          guest = host.guest) := by
    intro entrypoint schema free
    rcases evalObjection_none entrypoint free with ⟨id, data, known, installed⟩
    unfold evalTask
    rw [known, installed]
    dsimp only
    rw [ends_bind, rewinds]
    unfold Discipline.evaluateWith
    rw [ends_bind, ends_liftReport, encoded]
    dsimp only
    rw [ends_bind, ends_lift, advanced]
    exact ⟨rfl, rfl⟩
  unfold objection at due
  unfold task
  cases use with
  | eval entrypoint input' schema =>
    cases Option.some.inj evaluated
    exact ends entrypoint schema (Option.map_eq_none_iff.mp due)
  | decide binding value =>
    unfold Use.evaluated at evaluated
    dsimp only at due evaluated ⊢
    cases prepared : binding.prepareInput value with
    | error r =>
      rw [prepared] at evaluated
      cases evaluated
    | ok input' =>
      rw [prepared] at due evaluated
      cases Option.some.inj evaluated
      exact ends binding.path binding.output (Option.map_eq_none_iff.mp due)
  | _ => cases evaluated

theorem works_told (exclusive : host.Exclusive)
    (equipped : host.discipline.Equips host.guest.module) (signed : host.guest.module.Signed)
    (standard : host.guest.handlers = Handlers.standard) (use : Use) (works : use.Works) :
    Ends (perform use) host (fun _ _ => True) (fun fault _ => host.Told use fault) := by
  have settles : Settles host (host.objection use) (host.task .always use) (fun _ => True)
      fun fault _ => host.Told use fault := by
    refine ⟨fun fault after objects _ => told_objection use fault objects, fun due => ?_⟩
    by_cases overflows : ∃ stop, host.Overflows use stop
    · rcases overflows with ⟨stop, overflows⟩
      refine overflows.task_ends.mono (fun _ _ impossible => impossible.elim) ?_
      rintro fault guest ⟨rfl, _⟩ after _
      exact .overflow stop overflows
    · refine (task_onlyFails (Covers.reported equipped signed standard) use ?_ host.guest
        (refl host.guest)).mono (fun _ _ _ => trivial) ?_
      · intro input raw fault guest evaluated rewinds encoded failed _
        rcases (Address.advance_error _ _ _).mp failed with ⟨far, _⟩
        exact absurd ⟨_, due, rewinds, ⟨input, raw, evaluated, encoded, rfl⟩, far⟩ overflows
      · rintro fault guest ⟨⟨r, rfl⟩, _⟩ after _
        exact .reported r
  exact perform_settles exclusive use works settles

/-- What goes wrong at the end of a context is written down, or reported as a leak. -/
theorem teardown_reports (id : ContextId) (unwinding : Bool) :
    Ends (teardown id unwinding) host (fun _ _ => True) fun fault _ =>
      (∃ r, fault = .report r ∧ r.kind = .resourceLeak) ∨
        (fault = .noSlot ∧ host.contexts[id]? = none) := by
  cases found : host.contexts[id]? with
  | none =>
    unfold teardown
    rw [ends_bind, context_ends, found]
    exact Or.inr ⟨rfl, rfl⟩
  | some context =>
    by_cases destroyed : context.phase = .destroyed
    · unfold teardown
      rw [ends_bind, context_ends, found]
      dsimp only
      rw [if_pos destroyed]
      trivial
    · rw [teardown_ends id unwinding context found destroyed]
      refine (ends_nothing _ _).mono (fun _ _ _ => trivial) fun fault after _ => ?_
      cases unwinding with
      | true =>
        rw [if_pos rfl]
        exact log_ends _ _ _ _ _ _ fun _ => trivial
      | false => exact Or.inl ⟨_, rfl, rfl⟩

theorem ending_reports {use : Use} {id : ContextId} (ending : use.Ending id) :
    Ends (perform use) host (fun _ _ => True) fun fault _ =>
      (∃ r, fault = .report r ∧ (r.kind = .resourceLeak ∨ r.kind = .contextDestroyed)) ∨
        (fault = .noSlot ∧ use.context? = some id ∧ host.contexts[id]? = none) := by
  have torn : use.context? = some id → ∀ unwinding, Ends (teardown id unwinding) host
      (fun _ _ => True) fun fault _ =>
        (∃ r, fault = .report r ∧ (r.kind = .resourceLeak ∨ r.kind = .contextDestroyed)) ∨
          (fault = .noSlot ∧ use.context? = some id ∧ host.contexts[id]? = none) := by
    intro named unwinding
    refine (teardown_reports id unwinding).mono (fun _ _ _ => trivial) ?_
    rintro fault after (⟨r, rfl, leaked⟩ | ⟨rfl, missing⟩)
    · exact Or.inl ⟨r, rfl, Or.inl leaked⟩
    · exact Or.inr ⟨rfl, named, missing⟩
  unfold perform
  cases ending with
  | leave id unwinding =>
    rw [ends_bind]
    exact torn rfl unwinding
  | destroy =>
    unfold destroy
    rw [ends_bind, ends_bind, context_ends]
    cases found : host.contexts[id]? with
    | none => exact Or.inr ⟨rfl, rfl, rfl⟩
    | some context =>
      rw [found] at torn
      dsimp only
      split
      · exact Or.inl ⟨_, rfl, Or.inr rfl⟩
      · exact torn rfl false
  | drop =>
    unfold drop
    rw [ends_bind, ends_bind, context_ends]
    cases found : host.contexts[id]? with
    | none => exact Or.inr ⟨rfl, rfl, rfl⟩
    | some context =>
      dsimp only
      split
      · trivial
      rw [ends_bind, ends_attempt]
      refine (teardown_reports id false).mono (fun _ _ _ => trivial) ?_
      rintro fault after (⟨r, rfl, leaked⟩ | ⟨_, missing⟩)
      · -- A leak is only written down.
        have known : (Fault.report r).isA .resourceLeak = true := by
          change r.kind.isA .resourceLeak = true
          rw [leaked]
          decide
        dsimp only
        rw [if_pos known]
        exact log_ends _ _ _ _ _ _ fun _ => trivial
      · exact nomatch found.symm.trans missing

theorem ending_told {use : Use} {id : ContextId} (ending : use.Ending id) :
    Ends (perform use) host (fun _ _ => True) (fun fault _ => host.Told use fault) := by
  refine (ending_reports ending).mono (fun _ _ _ => trivial) ?_
  rintro fault after (⟨r, rfl, _⟩ | ⟨rfl, named, missing⟩)
  · exact .reported r
  · exact .missing id named missing

theorem perform_told (exclusive : host.Exclusive)
    (equipped : host.discipline.Equips host.guest.module) (signed : host.guest.module.Signed)
    (standard : host.guest.handlers = Handlers.standard) (use : Use) :
    Ends (perform use) host (fun _ _ => True) (fun fault _ => host.Told use fault) := by
  cases use with
  | setData | eval | decide | openContext | contextEval =>
    exact works_told exclusive equipped signed standard _ (by constructor)
  | destroy id => exact ending_told (.destroy id)
  | leave id unwinding => exact ending_told (.leave id unwinding)
  | drop id => exact ending_told (.drop id)
  | entrypointId entrypoint =>
    unfold perform
    rw [ends_bind, resolve_unknown]
    cases host.published entrypoint with
    | some id => trivial
    | none => exact .reported _

/-- An input that ends past the last address is always told as such, and nothing
was done to the guest. -/
theorem Overflows.perform_ends {use : Use} {stop : Nat} (overflows : host.Overflows use stop)
    (exclusive : host.Exclusive) :
    Ends (perform use) host (fun _ _ => False)
      (fun fault after => fault = .badAddress stop ∧ after.guest = host.guest) := by
  have works : use.Works := by
    rcases overflows.laid_out with ⟨input, _, evaluated, _⟩
    cases use with
    | eval | decide => constructor
    | _ => cases evaluated
  have settles : Settles host (host.objection use) (host.task .always use) (fun _ => False)
      fun fault after => fault = .badAddress stop ∧ after.guest = host.guest := by
    refine ⟨fun _ _ objects _ => (nomatch overflows.due.symm.trans objects), fun _ => ?_⟩
    refine overflows.task_ends.mono (fun _ _ impossible => impossible) ?_
    rintro fault guest ⟨told, rfl⟩ after same
    exact ⟨told, same⟩
  exact perform_settles exclusive use works settles

/-- Whatever was done with a host, and whatever words its guest answers with: each
use returns or is reported, unless the input of a single evaluation would end
past the last address. -/
theorem faults_contained {module : Module σ} {builder : Builder} {journal journal' : Journal}
    {host : Host σ} (built : builder.instantiate module journal = .ok host journal')
    (signed : module.Signed) (abort : builder.onAbort = none) (print : builder.onPrint = none)
    (uses : List Use) (use : Use) :
    (∀ fault, (outcome (perform use) (run uses host).2).1 = .error fault →
        (run uses host).2.Told use fault) ∧
      ∀ stop, (run uses host).2.Overflows use stop →
        (outcome (perform use) (run uses host).2).1 = .error (.badAddress stop) ∧
          (outcome (perform use) (run uses host).2).2.guest = (run uses host).2.guest := by
  rcases Builder.instantiate_equips built with ⟨unused, equipped, module_eq, _⟩
  have lives := run_lives tracks_later uses host
  have exclusive := unused.exclusive.run uses
  have signed' : (run uses host).2.guest.module.Signed := by
    rwa [lives.guest.module_eq, module_eq]
  have standard : (run uses host).2.guest.handlers = Handlers.standard := by
    rw [lives.guest.handlers_eq, Builder.instantiate_handlers built,
      Builder.handlers_standard abort print]
  constructor
  · intro fault failed
    exact (perform_told exclusive (lives.equips (by rwa [module_eq])) signed' standard
      use).of_failed failed
  · intro stop overflows
    rcases (overflows.perform_ends exclusive).outcome with
      ⟨_, _, impossible⟩ | ⟨told, same, rfl, untouched⟩
    · exact impossible.elim
    · exact ⟨same, untouched⟩

end Host

/-- The standard policy, whose guest says that its heap ends at the last address
as soon as there is a dataset. -/
def Policy.brimming : Policy :=
  { standard with
    minor := some (.constant 2)
    overrides := [⟨"opa_heap_ptr_get", 2, [.result 0xFFFFFFFF]⟩] }

namespace Host

/-- On such a guest the input of a single evaluation ends past the last address. -/
theorem brimming_overflows :
    Builder.Builds {} Policy.brimming.toModule fun host =>
      (run [.setData .null] host).2.Overflows (.eval "echo/input" .null .any) 4294967299 := by
  have begun : Builder.Builds {} Policy.brimming.toModule fun host =>
      let uses := [.setData .null]
      let use := .eval "echo/input" .null .any
      ((run uses host).2.objection use).isNone = true ∧
        (run uses host).2.discipline = .heapRewind ∧
        (run uses host).2.checkpoints.data.offset + 4 = 4294967299 ∧
        (Payload.encode .null).toOption.map List.length = some 4 := by
    decide +kernel
  obtain ⟨host, journal, built, due, rewinds, stop, size⟩ := begun
  obtain ⟨raw, encoded, length⟩ := Option.map_eq_some_iff.mp size
  refine ⟨host, journal, built, Option.isNone_iff_eq_none.mp due, rewinds,
    ⟨.null, raw, rfl, ?_, ?_⟩, by decide⟩
  · cases written : Payload.encode .null with
    | error r => simp [written, Except.toOption] at encoded
    | ok raw' => simpa [written, Except.toOption] using encoded
  · rw [length]
    exact stop.symm

theorem faults_contained_brimming :
    Builder.Builds {} Policy.brimming.toModule fun host =>
      let uses := [.setData .null]
      let use := .eval "echo/input" .null .any
      (∀ fault, (outcome (perform use) (run uses host).2).1 = .error fault →
          (run uses host).2.Told use fault) ∧
        (run uses host).2.Overflows use 4294967299 ∧
        (outcome (perform use) (run uses host).2).1 = .error (.badAddress 4294967299) := by
  obtain ⟨host, journal, built, overflows⟩ := brimming_overflows
  have contained := faults_contained built Policy.brimming.signed rfl rfl [.setData .null]
    (.eval "echo/input" .null .any)
  exact ⟨host, journal, built, contained.1, overflows, (contained.2 _ overflows).1⟩

/-- Not everything that a caller is told is a report. -/
theorem overflow_escapes :
    Builder.Builds {} Policy.brimming.toModule fun host =>
      ¬ ∀ fault, (outcome (perform (.eval "echo/input" .null .any))
          (run [.setData .null] host).2).1 = .error fault → ∃ r, fault = .report r := by
  obtain ⟨host, journal, built, overflows⟩ := brimming_overflows
  refine ⟨host, journal, built, fun reported => ?_⟩
  have exclusive := (Builder.instantiate_equips built).1.exclusive.run [.setData .null]
  obtain ⟨_, _, impossible⟩ | ⟨fault, failed, told, _⟩ := (overflows.perform_ends exclusive).outcome
  · exact impossible
  · obtain ⟨r, same⟩ := reported fault failed
    cases told.symm.trans same

end Host
end PolicyHost
