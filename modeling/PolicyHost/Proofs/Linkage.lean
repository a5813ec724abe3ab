import PolicyHost.Proofs.Containment

namespace PolicyHost

/-!
# Exports that are missing

What a discipline calls is known before anything is called.  A module is asked
for all of it once, after it was linked and its start function came back, and
whatever it lacks is named together and in order.  From then on no call can
find an export missing, on whichever path it is made, so that nobody is told
so again; only a handler of the embedding program could make such a report up.
-/

variable {σ : Type}

open Instance Operation

namespace Module

variable (module : Module σ)

/-- The minor version that a module tells, if it tells one as a global. -/
def minor : Int :=
  match module.find? Builder.minorVersionGlobal with
  | some (.constant value) => value
  | _ => 0

def required : List String := "entrypoints" :: (Discipline.ofMinor module.minor).requiredExports

/-- The exports that a host would call, and that are no functions of the module. -/
def lacking : List String := module.required.filter fun name => !module.hasFunction name

variable {module}

theorem lacking_eq_nil :
    module.lacking = [] ↔ module.hasFunction "entrypoints" = true ∧
      (Discipline.ofMinor module.minor).Equips module := by
  unfold lacking required Discipline.Equips
  simp

end Module

/-- The handlers do not report of their own accord that exports are missing. -/
def Handlers.Discreet (handlers : Handlers) : Prop :=
  ∀ fault, handlers.Raises fault → fault.isA .missingExport = false

theorem Handlers.standard_discreet : Handlers.standard.Discreet := by
  rintro fault ⟨text, stops | stops⟩
  · cases stops
    rfl
  · cases stops

/-- A report of any other kind is no report of missing exports. -/
theorem Fault.not_missing {fault : Fault}
    (own : fault.isA .marshaling = true ∨ fault.isA .guestMemory = true ∨
      fault.isA .configuration = true ∨ fault.isA .resourceLeak = true) :
    fault.isA .missingExport = false := by
  cases fault with
  | report r =>
    have apart : ∀ kind : ReportKind, kind.isA .marshaling = true ∨ kind.isA .guestMemory = true ∨
        kind.isA .configuration = true ∨ kind.isA .resourceLeak = true →
        kind.isA .missingExport = false := by
      intro kind
      cases kind <;> decide
    exact apart r.kind own
  | _ => rfl

theorem Fault.IsUsage.not_missing {fault : Fault} (usage : fault.IsUsage) :
    fault.isA .missingExport = false := by
  cases fault with
  | report r =>
    obtain configured | leaked | rfl := usage
    · exact Fault.not_missing (Or.inr (Or.inr (Or.inl configured)))
    · exact Fault.not_missing (Or.inr (Or.inr (Or.inr leaked)))
    · rfl
  | _ => rfl

namespace Instance

/-- A call of an export that is there does not find it missing. -/
theorem Breaks.present {name : String} {arguments : List Int} {fault : Fault}
    {guest after : Instance σ} (breaks : Breaks name arguments fault guest after)
    (discreet : guest.handlers.Discreet) : fault.isA .missingExport = false := by
  obtain rfl | raised := breaks.trapped_or_raised
  · rfl
  · exact discreet fault raised

/-- What is asked for is there, or all that is not there is reported. -/
theorem require_told (names : List String) (guest : Instance σ) :
    Ends (require names) guest
      (fun _ after => after = guest ∧
        names.filter (fun name => !guest.module.hasFunction name) = [])
      (fun fault _ => names.filter (fun name => !guest.module.hasFunction name) ≠ [] ∧
        fault = .report (Report.missingExports
          (names.filter fun name => !guest.module.hasFunction name))) := by
  unfold Ends require
  cases names.filter fun name => !guest.module.hasFunction name with
  | nil => exact ⟨rfl, rfl⟩
  | cons name rest => exact ⟨List.cons_ne_nil _ _, rfl⟩

end Instance

/-- Whatever goes wrong with a guest that has what its discipline calls, nothing
is found missing. -/
theorem Covers.present {discipline : Discipline} {start : Instance σ}
    (equipped : discipline.Equips start.module) (discreet : start.handlers.Discreet) :
    Covers .always discipline (Later start) fun fault _ => fault.isA .missingExport = false := by
  apply Covers.told equipped
  · exact fun name guest _ => rfl
  · intro name arguments fault guest after since _ broke
    exact broke.present (by rwa [since.handlers_eq])
  · exact fun _ _ => rfl
  · intro fault guest own _
    exact Fault.not_missing (own.imp_right Or.inl)
  · exact fun _ _ _ known _ => known

namespace Builder

/-- The module is linked with the memory that it is given, and its start function
comes back. -/
structure Starts (builder : Builder) (module : Module σ) : Prop where
  bounded : builder.maxPages.getD 0 ≤ mostPages
  accepted : module.accepts (Memory.fresh initialPages builder.maxPages) = true
  returned : (module.start (Memory.fresh initialPages builder.maxPages) module.initial).ending
    builder.handlers = .returned ()

/-- What goes wrong while the entrypoint table is read and the checkpoints are taken
is told as a failed build, if the guest or a conversion is to blame, and passed on
otherwise. -/
theorem prepare_told {discipline : Discipline} {like : Instance σ → Prop}
    {kind : Fault → Instance σ → Prop} (covers : Covers .always discipline like kind)
    (table : OnlyFails like kind (Instance.callAddress "entrypoints" []))
    (maxPages : Option Nat) {guest : Instance σ} (held : like guest) {bad : Fault → Prop}
    (wrapped : ∀ message, bad (.report (Report.buildFailed "initialize" message)))
    (passed : ∀ fault after, kind fault after → fault.isA .guestTrap = false →
      fault.isA .marshaling = false → bad fault) :
    Ends (prepare discipline (discipline.terms maxPages)) guest (fun _ _ => True)
      (fun fault _ => bad fault) := by
  unfold prepare
  rw [ends_bind, ends_attempt]
  refine Ends.mono (OnlyFails.bind table (fun document => ?_) guest held) (fun _ _ _ => trivial) ?_
  · refine OnlyFails.bind ?_ fun value => covers.takeCheckpoints.bind fun _ => onlyFails_pure _
    refine (covers.readRaw maxPages document).bind fun raw => onlyFails_liftReport _ ?_
    intro r after failed like
    refine covers.marshaling r after ?_ like
    rw [Payload.decode_error_kind _ _ _ failed]
    rfl
  · rintro fault after ⟨known, _⟩
    cases fault with
    | report r =>
      dsimp only
      split
      · exact wrapped r.message
      · rename_i blameless
        have neither := Bool.or_eq_false_iff.mp (Bool.eq_false_iff.mpr blameless)
        exact passed _ after known neither.1 neither.2
    | _ => exact passed _ after known rfl rfl

/-- What goes wrong while an instance is made ready: it lacks something, or the
preparation fails. -/
theorem initializeHost_told (maxPages : Option Nat) (guest : Instance σ) {bad : Fault → Prop}
    (lacks : guest.module.lacking ≠ [] →
      bad (.report (Report.missingExports guest.module.lacking)))
    (prepares : guest.module.lacking = [] → ∀ journal : Journal,
      Ends (prepare (.ofMinor guest.module.minor)
          ((Discipline.ofMinor guest.module.minor).terms maxPages)) { guest with journal }
        (fun _ _ => True) (fun fault _ => bad fault)) :
    Ends (initializeHost maxPages) guest (fun _ _ => guest.module.lacking = [])
      (fun fault _ => bad fault) := by
  unfold initializeHost
  rw [ends_bind, ends_get, ends_bind]
  change Ends (Instance.require guest.module.required) guest _ _
  refine (require_told guest.module.required guest).mono ?_ ?_
  · rintro _ after ⟨rfl, nothing⟩
    rw [ends_bind]
    refine log_ends _ _ _ _ _ _ fun journal => ?_
    rw [ends_bind]
    refine (prepares nothing journal).mono ?_ fun _ _ failed => failed
    intro found middle _
    dsimp only
    rw [ends_bind]
    refine log_ends _ _ _ _ _ _ fun journal => ?_
    rw [ends_bind, ends_get, ends_pure]
    exact nothing
  · rintro fault _ ⟨missing, rfl⟩
    exact lacks missing

/-- Nothing is found missing during the preparation. -/
theorem prepare_present (discipline : Discipline) (maxPages : Option Nat) (guest : Instance σ)
    (equipped : discipline.Equips guest.module)
    (table : guest.module.hasFunction "entrypoints" = true) (discreet : guest.handlers.Discreet) :
    Ends (prepare discipline (discipline.terms maxPages)) guest (fun _ _ => True)
      (fun fault _ => fault.isA .missingExport = false) := by
  have entered : OnlyFails (Later guest) (fun fault _ => fault.isA .missingExport = false)
      (Instance.callAddress "entrypoints" []) := by
    refine OnlyFails.bind ?_ fun word => onlyFails_pure _
    refine OnlyFails.word ?_ fun _ _ => rfl
    refine call_onlyFails "entrypoints" [] (by simp [abi]) table (fun _ _ => rfl) ?_
    intro fault before after since _ broke
    exact broke.present (by rwa [since.handlers_eq])
  exact prepare_told (Covers.present equipped discreet) entered maxPages (refl guest)
    (fun _ => rfl) fun _ _ known _ _ => known

/-- An instance is made ready, and lacks nothing then; or it is told what it lacks,
if it lacks anything. -/
theorem initializeHost_lacking (maxPages : Option Nat) (guest : Instance σ)
    (discreet : guest.handlers.Discreet) :
    Ends (initializeHost maxPages) guest (fun _ _ => guest.module.lacking = [])
      (fun fault _ => (guest.module.lacking = [] ∧ fault.isA .missingExport = false) ∨
        (guest.module.lacking ≠ [] ∧
          fault = .report (Report.missingExports guest.module.lacking))) := by
  refine initializeHost_told maxPages guest (fun missing => Or.inr ⟨missing, rfl⟩) ?_
  intro nothing journal
  have complete := Module.lacking_eq_nil.mp nothing
  exact (prepare_present _ maxPages { guest with journal } complete.2 complete.1 discreet).mono
    (fun _ _ _ => trivial) fun _ _ known => Or.inl ⟨nothing, known⟩

/-- A module that starts is told what it lacks, if it lacks anything.  No other is
told so. -/
theorem instantiate_lacking (builder : Builder) (module : Module σ)
    (discreet : builder.handlers.Discreet) (journal : Journal) :
    Ends (builder.instantiate module) journal (fun _ _ => module.lacking = [])
      (fun fault _ =>
        (¬ (builder.Starts module ∧ module.lacking ≠ []) ∧ fault.isA .missingExport = false) ∨
          ((builder.Starts module ∧ module.lacking ≠ []) ∧
            fault = .report (Report.missingExports module.lacking))) := by
  refine instantiate_ends builder module journal ?_ ?_
  · intro fault _ unstarted
    cases unstarted with
    | unbounded exceeds =>
      exact Or.inl ⟨fun starts => absurd starts.1.bounded (Nat.not_le_of_lt exceeds), rfl⟩
    | unlinked rejected =>
      refine Or.inl ⟨fun starts => ?_, rfl⟩
      cases rejected.symm.trans starts.1.accepted
    | trapped ending =>
      refine Or.inl ⟨fun starts => ?_, rfl⟩
      cases ending.symm.trans starts.1.returned
    | refused _ _ _ ending =>
      refine Or.inl ⟨fun starts => ?_, discreet fault (Run.ending_raised _ _ _ ending)⟩
      cases ending.symm.trans starts.1.returned
  · intro guest started
    have starts : builder.Starts module := ⟨started.bounded, started.accepted, started.returned⟩
    have made := initializeHost_lacking builder.maxPages guest (by rwa [started.handlers_eq])
    rw [started.module_eq] at made
    exact made.mono (fun _ _ nothing => nothing) fun _ _ known =>
      known.imp (fun known => ⟨fun lacks => lacks.2 known.1, known.2⟩)
        (fun told => ⟨⟨starts, told.1⟩, told.2⟩)

end Builder

namespace Host

variable {host : Host σ}

/-- Whatever is done with a host that has what it calls, nothing is found
missing. -/
theorem perform_present (exclusive : host.Exclusive)
    (equipped : host.discipline.Equips host.guest.module) (discreet : host.guest.handlers.Discreet)
    (use : Use) :
    Ends (perform use) host (fun _ _ => True)
      (fun fault _ => fault.isA .missingExport = false) := by
  have ends : ∀ id, use.Ending id → Ends (perform use) host (fun _ _ => True)
      (fun fault _ => fault.isA .missingExport = false) := by
    intro id ending
    refine (ending_reports ending).mono (fun _ _ _ => trivial) ?_
    rintro fault after (⟨r, rfl, leaked | destroyed⟩ | ⟨rfl, _⟩)
    · apply Fault.not_missing
      exact Or.inr (Or.inr (Or.inr (by rw [Fault.isA, leaked]; decide)))
    · apply Fault.not_missing
      exact Or.inr (Or.inr (Or.inl (by rw [Fault.isA, destroyed]; decide)))
    · rfl
  have works : use.Works → Ends (perform use) host (fun _ _ => True)
      (fun fault _ => fault.isA .missingExport = false) := by
    intro works
    have settles : Settles host (host.objection use) (host.task .always use) (fun _ => True)
        (fun fault _ => fault.isA .missingExport = false) := by
      constructor
      · intro fault after objects _
        obtain usage | misfit | ⟨id, rfl, _⟩ := objection_cases use fault objects
        · exact usage.not_missing
        · exact Fault.not_missing (Or.inl misfit)
        · rfl
      · intro _
        refine (task_onlyFails (Covers.present equipped discreet) use ?_ host.guest
          (refl host.guest)).mono (fun _ _ _ => trivial) fun _ _ known _ _ => known.1
        intro input raw fault guest _ _ _ far _
        obtain ⟨_, rfl⟩ := (Address.advance_error _ _ _).mp far
        rfl
    exact perform_settles exclusive use works settles
  cases use with
  | setData | eval | decide | openContext | contextEval => exact works (by constructor)
  | destroy id => exact ends id (.destroy id)
  | leave id unwinding => exact ends id (.leave id unwinding)
  | drop id => exact ends id (.drop id)
  | entrypointId entrypoint =>
    unfold perform
    rw [ends_bind, resolve_unknown]
    cases host.published entrypoint with
    | some id => trivial
    | none => rfl

/-- No call finds an export missing: none of those that a use makes, and none of
those that a release makes, whose failure is told as another one or not at all. -/
structure Linked (host : Host σ) : Prop where
  uses : ∀ use fault, (outcome (perform use) host).1 = .error fault →
    fault.isA .missingExport = false
  releases : ∀ guest, Later host.guest guest → ∀ handle fault,
    (outcome (host.discipline.closeContext host.terms host.checkpoints handle) guest).1 =
      .error fault → fault.isA .missingExport = false

theorem linked (exclusive : host.Exclusive)
    (equipped : host.discipline.Equips host.guest.module)
    (discreet : host.guest.handlers.Discreet) : host.Linked := by
  constructor
  · intro use fault failed
    exact (perform_present exclusive equipped discreet use).of_failed failed
  · intro guest later handle fault failed
    have closes := (Covers.present equipped discreet).closeContext host.maxPages host.checkpoints
      handle guest later
    exact (closes.of_failed failed).1

/-- Exactly a module that starts and lacks something is reported for its missing
exports when a host is built from it, with all of them and in order.  A host
that was built lacks nothing, and whatever is done with it, nothing is found
missing any more. -/
theorem exports_checked (builder : Builder) (discreet : builder.handlers.Discreet) :
    (∀ (engine : Engine σ) source journal fault,
      ((outcome (builder.build engine source) journal).1 = .error fault ∧
          fault.isA .missingExport = true) ↔
        ∃ module, engine.compile source = some module ∧ builder.Starts module ∧
          module.lacking ≠ [] ∧ fault = .report (Report.missingExports module.lacking)) ∧
    ∀ (module : Module σ) journal host journal',
      builder.instantiate module journal = .ok host journal' →
        module.lacking = [] ∧ ∀ uses, (run uses host).2.Linked := by
  constructor
  · intro engine source journal fault
    unfold Builder.build
    cases compiled : engine.compile source with
    | none =>
      constructor
      · rintro ⟨failed, missing⟩
        cases failed
        cases missing
      · rintro ⟨module, impossible, _⟩
        cases impossible
    | some module =>
      have ends := Builder.instantiate_lacking builder module discreet journal
      constructor
      · rintro ⟨failed, missing⟩
        obtain ⟨_, other⟩ | ⟨lacks, rfl⟩ := ends.of_failed failed
        · cases other.symm.trans missing
        · exact ⟨module, rfl, lacks.1, lacks.2, rfl⟩
      · rintro ⟨_, same, starts, lacks, rfl⟩
        cases same
        obtain ⟨_, _, complete⟩ | ⟨told, same, ⟨excused, _⟩ | ⟨_, rfl⟩⟩ := ends.outcome
        · exact absurd complete lacks
        · exact absurd ⟨starts, lacks⟩ excused
        · exact ⟨same, rfl⟩
  · intro module journal host journal' built
    obtain ⟨unused, equipped, module_eq, _⟩ := Builder.instantiate_equips built
    refine ⟨(Builder.instantiate_lacking builder module discreet journal).of_ok built,
      fun uses => ?_⟩
    have lives := run_lives tracks_later uses host
    refine linked (unused.exclusive.run uses) (lives.equips (by rwa [module_eq])) ?_
    rw [lives.guest.handlers_eq, Builder.instantiate_handlers built]
    exact discreet

end Host

/-- An engine that makes the same module of everything. -/
def Engine.always (module : Module σ) : Engine σ where
  compile _ := some module
  deserialize _ := some module
  complaint _ := ""

/-- The standard policy in a module that does not export everything. -/
def Policy.bare : Policy :=
  { standard with minor := some (.constant 2), omits := ["eval", "opa_malloc"] }

namespace Host

theorem exports_checked_bare :
    (outcome (Builder.build {} (.always Policy.bare.toModule) (.binary [])) {}).1 =
        .error (.report (Report.missingExports ["opa_malloc", "eval"])) ∧
      Builder.Builds {} Policy.standard.toModule fun host =>
        (run [.setData .null, .openContext .null, .contextEval 0 "abort/now" .any] host).2.Linked
    := by
  constructor
  · have lacking : Policy.bare.toModule.lacking = ["opa_malloc", "eval"] := by decide +kernel
    rw [← lacking]
    refine (((exports_checked {} Handlers.standard_discreet).1 _ _ _ _).mpr
      ⟨_, rfl, ⟨by decide, by decide +kernel, rfl⟩, ?_, rfl⟩).1
    rw [lacking]
    decide
  · have begun : Builder.Builds {} Policy.standard.toModule fun _ => True := by decide +kernel
    obtain ⟨host, journal, built, _⟩ := begun
    exact ⟨host, journal, built,
      ((exports_checked {} Handlers.standard_discreet).2 _ _ _ _ built).2 _⟩

end Host

/-- The standard policy in a module that lacks an export and does not start. -/
def Policy.stillborn : Policy := { standard with omits := ["opa_malloc"], start := [.trap] }

/-- Handlers that take the end of a policy for a missing export. -/
def Builder.confused : Builder where
  onAbort := some fun message => { fault := some (.report (Report.missingExports [message])) }

namespace Host

/-- Not every module that lacks something is reported for it, and handlers may
report it of a host that was built. -/
theorem lacking_untold :
    (Policy.stillborn.toModule.lacking ≠ [] ∧
      ¬ ∃ fault,
        (outcome (Builder.build {} (.always Policy.stillborn.toModule) (.binary [])) {}).1 =
          .error fault ∧ fault.isA .missingExport = true) ∧
    Builder.Builds .confused Policy.standard.toModule fun host =>
      ∃ fault, (outcome (perform (.eval "abort/now" .null .any))
          (run [.setData .null] host).2).1 = .error fault ∧ fault.isA .missingExport = true := by
  constructor
  · refine ⟨by decide +kernel, ?_⟩
    rintro ⟨fault, failed, missing⟩
    have other : Ends (Builder.build {} (.always Policy.stillborn.toModule) (.binary [])) {}
        (fun _ _ => False) (fun fault _ => fault.isA .missingExport = false) := by
      decide +kernel
    cases (other.of_failed failed).symm.trans missing
  · have begun : Builder.Builds .confused Policy.standard.toModule fun host =>
        Ends (perform (.eval "abort/now" .null .any)) (run [.setData .null] host).2
          (fun _ _ => False) (fun fault _ => fault.isA .missingExport = true) := by
      decide +kernel
    obtain ⟨host, journal, built, ends⟩ := begun
    obtain ⟨_, _, impossible⟩ | ⟨fault, failed, missing⟩ := ends.outcome
    · exact impossible.elim
    · exact ⟨host, journal, built, fault, failed, missing⟩

end Host
end PolicyHost
