import PolicyHost.Proofs.Linkage

namespace PolicyHost

/-!
# What building a host comes to

A build that fails is reported as a failed build, with one exception.  Whatever
goes wrong while the entrypoint table is read and the checkpoints are taken is
told again as a failure of that stage, a policy that gives up included.  A
policy that gives up in its start function is not: its report comes out as it
is.

From a bundle the module that was compiled ahead is taken if it is preferred,
there and usable, and then nothing else is tried.
-/

variable {σ : Type}

open Instance Operation

/-- The exports have their signatures, that of the entrypoint table included. -/
structure Module.Typed (module : Module σ) : Prop extends module.Signed where
  tables : ∀ before answer after, module.Answers "entrypoints" [] before answer after →
    answer.isSome = true

/-- Whatever the engine makes a module of, the exports have their signatures. -/
structure Engine.Typed (engine : Engine σ) : Prop where
  compiled : ∀ source module, engine.compile source = some module → module.Typed
  deserialized : ∀ bytes module, engine.deserialize bytes = some module → module.Typed

namespace Instance

/-- The entrypoint table is asked for and answered, or what went wrong is contained. -/
theorem callAddress_table {start : Instance σ} (typed : start.module.Typed)
    (plain : start.handlers.Plain) (table : start.module.hasFunction "entrypoints" = true) :
    OnlyFails (Later start) (fun fault _ => fault.Contained) (callAddress "entrypoints" []) := by
  refine OnlyFails.bind ?_ fun word => onlyFails_pure _
  intro guest since
  have exported : guest.module.hasFunction "entrypoints" = true := by rwa [since.module_eq]
  have later := tracks_later.call "entrypoints" [] (by simp [abi]) (fun _ => trivial) guest
  rw [callWord, ends_bind]
  refine (later.and ((call_called guest "entrypoints" []).and
    (call_told guest "entrypoints" [] exported))).mono ?_ ?_
  · rintro answer after ⟨later, called, _⟩
    cases answer with
    | some word => exact ⟨IsTrans.trans _ _ _ since later, later⟩
    | none =>
      have answered := called.answered
      rw [since.module_eq] at answered
      cases typed.tables _ _ _ answered
  · rintro fault after ⟨later, _, ⟨_, rfl⟩ | broke⟩
    · exact ⟨⟨_, rfl, Or.inl rfl⟩, later⟩
    · exact ⟨broke.contained (by rwa [since.handlers_eq]), later⟩

end Instance

/-- Whatever goes wrong with such a guest is contained. -/
theorem Covers.contained {discipline : Discipline} {start : Instance σ}
    (equipped : discipline.Equips start.module) (signed : start.module.Signed)
    (plain : start.handlers.Plain) :
    Covers .always discipline (Later start) fun fault _ => fault.Contained := by
  apply Covers.signed equipped signed
  · exact fun name => ⟨_, rfl, Or.inl rfl⟩
  · exact fun name arguments fault guest after since broke =>
      broke.contained (by rwa [since.handlers_eq])
  · intro fault own
    have trap : ∀ kind : ReportKind, kind.isA .guestMemory = true → kind.isA .guestTrap = true := by
      intro kind
      cases kind <;> decide
    cases fault with
    | report r => exact ⟨r, rfl, (own.imp_right (trap r.kind)).symm⟩
    | _ => rcases own with own | own <;> cases own

namespace Builder

/-- A failed build, of any kind. -/
def BuildFault (fault : Fault) : Prop :=
  ∃ r, fault = .report r ∧ r.kind.isA .build = true

theorem prepare_fails {discipline : Discipline} (maxPages : Option Nat) (guest : Instance σ)
    (equipped : discipline.Equips guest.module) (typed : guest.module.Typed)
    (plain : guest.handlers.Plain) (table : guest.module.hasFunction "entrypoints" = true) :
    Ends (prepare discipline (discipline.terms maxPages)) guest (fun _ _ => True)
      (fun fault _ => BuildFault fault) := by
  refine prepare_told (Covers.contained equipped typed.toSigned plain)
    (callAddress_table typed plain table) maxPages (refl guest) (fun _ => ⟨_, rfl, rfl⟩) ?_
  rintro _ _ ⟨r, rfl, known⟩ untrapped converted
  rcases known with known | known
  · cases untrapped.symm.trans known
  · cases converted.symm.trans known

theorem initializeHost_fails (maxPages : Option Nat) (started : Instance σ)
    (typed : started.module.Typed) (plain : started.handlers.Plain) :
    Ends (initializeHost maxPages) started (fun _ _ => True) (fun fault _ => BuildFault fault) := by
  have made := initializeHost_told maxPages started (fun _ => ⟨_, rfl, rfl⟩) fun nothing journal =>
    have complete := Module.lacking_eq_nil.mp nothing
    prepare_fails maxPages { started with journal } complete.2 typed plain complete.1
  exact made.mono (fun _ _ _ => trivial) fun _ _ failed => failed

/-- The module is linked, and its start function gives the policy up with this message. -/
structure GivesUp (builder : Builder) (module : Module σ) (message : String) : Prop where
  bounded : builder.maxPages.getD 0 ≤ mostPages
  accepted : module.accepts (Memory.fresh initialPages builder.maxPages) = true
  aborted : (module.start (Memory.fresh initialPages builder.maxPages) module.initial).ending
    builder.handlers = .refused (.report (Report.aborted message))

/-- A module is made ready, or a failed build is reported, unless its start function gives the
policy up. -/
theorem instantiate_fails (builder : Builder) (plain : builder.handlers.Plain)
    (module : Module σ) (typed : module.Typed) (journal : Journal) :
    Ends (builder.instantiate module) journal (fun _ _ => ∀ message, ¬ builder.GivesUp module message)
      (fun fault _ => (BuildFault fault ∧ ∀ message, ¬ builder.GivesUp module message) ∨
        ∃ message, builder.GivesUp module message ∧
          fault = .report (Report.aborted message)) := by
  have failed : ∀ stage, BuildFault (.report (Report.buildFailed stage Instance.engineText)) :=
    fun stage => ⟨_, rfl, rfl⟩
  refine instantiate_ends builder module journal ?_ ?_
  · intro fault _ unstarted
    cases unstarted with
    | unbounded exceeds =>
      exact Or.inl ⟨failed _, fun _ gives => absurd gives.bounded (Nat.not_le_of_lt exceeds)⟩
    | unlinked rejected =>
      refine Or.inl ⟨failed _, fun _ gives => ?_⟩
      cases rejected.symm.trans gives.accepted
    | trapped ending =>
      refine Or.inl ⟨failed _, fun _ gives => ?_⟩
      cases ending.symm.trans gives.aborted
    | refused _ bounded accepted ending =>
      obtain ⟨message, rfl⟩ := plain.raises (Run.ending_raised _ _ _ ending)
      exact Or.inr ⟨message, ⟨bounded, accepted, ending⟩, rfl⟩
  · intro guest started
    have other : ∀ message, ¬ builder.GivesUp module message := by
      intro message gives
      cases started.returned.symm.trans gives.aborted
    exact (initializeHost_fails builder.maxPages guest (by rwa [started.module_eq])
      (by rwa [started.handlers_eq])).mono (fun _ _ _ => other) fun _ _ made => Or.inl ⟨made, other⟩

/-- What is told of a module that the engine made, or did not make. -/
def Tells (builder : Builder) (made : Option (Module σ)) (fault : Fault) : Prop :=
  BuildFault fault ∨ ∃ module message, made = some module ∧ builder.GivesUp module message ∧
    fault = .report (Report.aborted message)

theorem instantiate_tells (builder : Builder) (plain : builder.handlers.Plain)
    (module : Module σ) (typed : module.Typed) (journal : Journal) :
    Ends (builder.instantiate module) journal (fun _ _ => True)
      (fun fault _ => builder.Tells (some module) fault) := by
  refine (instantiate_fails builder plain module typed journal).mono (fun _ _ _ => trivial) ?_
  rintro fault after (⟨failed, _⟩ | ⟨message, gives, rfl⟩)
  · exact Or.inl failed
  · exact Or.inr ⟨module, message, rfl, gives, rfl⟩

theorem build_tells (builder : Builder) (plain : builder.handlers.Plain) (engine : Engine σ)
    (typed : engine.Typed) (source : ModuleSource) (journal : Journal) :
    Ends (builder.build engine source) journal (fun _ _ => True)
      (fun fault _ => builder.Tells (engine.compile source) fault) := by
  unfold build
  cases made : engine.compile source with
  | none => exact Or.inl ⟨_, rfl, rfl⟩
  | some module =>
    exact instantiate_tells builder plain module (typed.compiled source module made) journal

theorem buildCompiled_tells (builder : Builder) (plain : builder.handlers.Plain)
    (engine : Engine σ) (typed : engine.Typed) (bytes : Bytes) (journal : Journal) :
    Ends (builder.buildCompiled engine bytes) journal (fun _ _ => True)
      (fun fault _ => builder.Tells (engine.deserialize bytes) fault) := by
  unfold buildCompiled
  cases made : engine.deserialize bytes with
  | none => exact Or.inl ⟨_, rfl, rfl⟩
  | some module =>
    exact instantiate_tells builder plain module (typed.deserialized bytes module made) journal

theorem Tells.not_empty {builder : Builder} {made : Option (Module σ)} {fault : Fault}
    (tells : builder.Tells made fault) : fault.isA .bundleEmpty = false := by
  have apart : ∀ kind : ReportKind, kind.isA .build = true → kind.isA .bundleEmpty = false := by
    intro kind
    cases kind <;> decide
  obtain ⟨r, rfl, known⟩ | ⟨_, _, _, _, rfl⟩ := tells
  · exact apart r.kind known
  · rfl

/-- A policy that is given up by its start function ends the build with its own report. -/
theorem build_givesUp {builder : Builder} {engine : Engine σ} {source : ModuleSource}
    {module : Module σ} {message : String} (plain : builder.handlers.Plain) (typed : module.Typed)
    (compiled : engine.compile source = some module) (gives : builder.GivesUp module message)
    (journal : Journal) :
    (outcome (builder.build engine source) journal).1 = .error (.report (Report.aborted message)) := by
  have ends := instantiate_fails builder plain module typed journal
  unfold build
  rw [compiled]
  obtain ⟨_, _, other⟩ | ⟨fault, same, ⟨_, other⟩ | ⟨text, given, rfl⟩⟩ := ends.outcome
  · exact absurd gives (other message)
  · exact absurd gives (other message)
  · exact same.trans (congrArg _ (Ending.refused.inj (given.aborted.symm.trans gives.aborted)))

/-! ## Bundles -/

/-- What is built of a bundle. -/
inductive Choice where
  /-- The module that was compiled ahead. -/
  | artifact (bytes : Bytes)
  | policy (first : PolicyModule)
  /-- A module that was compiled ahead, but not for this engine, and no other. -/
  | damaged (bytes : Bytes)
  | nothing

/-- The module that was compiled ahead is preferred and there. -/
def Prefers (builder : Builder) (bundle : Bundle) (bytes : Bytes) : Prop :=
  builder.preferPrecompiled = true ∧ bundle.precompiled = some bytes

/-- It is usable too. -/
def Usable (builder : Builder) (engine : Engine σ) (bundle : Bundle) (bytes : Bytes) : Prop :=
  builder.Prefers bundle bytes ∧ (engine.deserialize bytes).isSome = true

inductive Chooses (builder : Builder) (engine : Engine σ) (bundle : Bundle) : Choice → Prop
  | artifact {bytes : Bytes} : builder.Usable engine bundle bytes →
    Chooses builder engine bundle (.artifact bytes)
  | policy {first : PolicyModule} : (∀ bytes, ¬ builder.Usable engine bundle bytes) →
    bundle.modules.head? = some first → Chooses builder engine bundle (.policy first)
  | damaged {bytes : Bytes} : builder.Prefers bundle bytes → engine.deserialize bytes = none →
    bundle.modules = [] → Chooses builder engine bundle (.damaged bytes)
  | nothing : (∀ bytes, ¬ builder.Prefers bundle bytes) → bundle.modules = [] →
    Chooses builder engine bundle .nothing

theorem exists_chooses (builder : Builder) (engine : Engine σ) (bundle : Bundle) :
    ∃ choice, builder.Chooses engine bundle choice := by
  by_cases usable : ∃ bytes, builder.Usable engine bundle bytes
  · obtain ⟨bytes, usable⟩ := usable
    exact ⟨_, .artifact usable⟩
  replace usable := not_exists.mp usable
  cases modules : bundle.modules with
  | cons first rest => exact ⟨_, .policy usable (by rw [modules]; rfl)⟩
  | nil =>
    by_cases prefers : ∃ bytes, builder.Prefers bundle bytes
    · obtain ⟨bytes, prefers⟩ := prefers
      have unusable : engine.deserialize bytes = none := by
        by_contra other
        exact usable bytes ⟨prefers, Option.isSome_iff_ne_none.mpr other⟩
      exact ⟨_, .damaged prefers unusable modules⟩
    · exact ⟨_, .nothing (not_exists.mp prefers) modules⟩

theorem Prefers.unique {builder : Builder} {bundle : Bundle} {first second : Bytes}
    (one : builder.Prefers bundle first) (two : builder.Prefers bundle second) : first = second :=
  Option.some.inj (one.2.symm.trans two.2)

theorem Chooses.unique {builder : Builder} {engine : Engine σ} {bundle : Bundle}
    {first second : Choice} (one : builder.Chooses engine bundle first)
    (two : builder.Chooses engine bundle second) : first = second := by
  have apart : ∀ {bytes other}, builder.Usable engine bundle bytes →
      builder.Prefers bundle other → engine.deserialize other ≠ none := by
    rintro bytes other usable prefers unusable
    have same := usable.1.unique prefers
    subst same
    have made := usable.2
    rw [unusable] at made
    cases made
  have present : ∀ {policy : PolicyModule}, bundle.modules.head? = some policy →
      bundle.modules ≠ [] := by
    intro policy head empty
    rw [empty] at head
    cases head
  cases one with
  | artifact usable =>
    cases two with
    | artifact other => rw [usable.1.unique other.1]
    | policy unmet => exact absurd usable (unmet _)
    | damaged prefers unusable => exact absurd unusable (apart usable prefers)
    | nothing unmet => exact absurd usable.1 (unmet _)
  | policy unmet head =>
    cases two with
    | artifact other => exact absurd other (unmet _)
    | policy _ other => exact congrArg _ (Option.some.inj (head.symm.trans other))
    | damaged _ _ empty => exact absurd empty (present head)
    | nothing _ empty => exact absurd empty (present head)
  | damaged prefers unusable empty =>
    cases two with
    | artifact other => exact absurd unusable (apart other prefers)
    | policy _ head => exact absurd empty (present head)
    | damaged other => rw [prefers.unique other]
    | nothing unmet => exact absurd prefers (unmet _)
  | nothing unmet empty =>
    cases two with
    | artifact other => exact absurd other.1 (unmet _)
    | policy _ head => exact absurd empty (present head)
    | damaged prefers => exact absurd prefers (unmet _)
    | nothing => rfl

def attempt (builder : Builder) (engine : Engine σ) : Choice → Operation Journal (Host σ)
  | .artifact bytes => builder.buildCompiled engine bytes
  | .policy first => builder.build engine (.binary first.binary)
  | .damaged _ => Operation.report (Report.buildFailed "deserialize" Instance.engineText)
  | .nothing => Operation.report (Report.make .bundleEmpty {})

/-- Nothing is done but what was chosen, and nothing is logged before it, unless a module that
was compiled ahead is passed over. -/
theorem buildFromBundle_attempts {builder : Builder} {engine : Engine σ} {bundle : Bundle}
    {choice : Choice} (chooses : builder.Chooses engine bundle choice) (journal : Journal) :
    ∃ told : List Logging.Record,
      builder.buildFromBundle engine bundle journal =
        builder.attempt engine choice (journal.add { records := told }) ∧
      (told ≠ [] → ∃ bytes, builder.Prefers bundle bytes ∧ engine.deserialize bytes = none) := by
  unfold buildFromBundle
  cases chooses with
  | @artifact bytes usable =>
    obtain ⟨⟨preferred, there⟩, made⟩ := usable
    obtain ⟨module, deserialized⟩ := Option.isSome_iff_exists.mp made
    refine ⟨[], ?_, fun impossible => absurd rfl impossible⟩
    unfold attempt buildCompiled
    simp only [there, preferred, deserialized]
    rfl
  | @policy first unusable head =>
    obtain ⟨rest, modules⟩ := List.head?_eq_some_iff.mp head
    unfold attempt
    cases there : bundle.precompiled with
    | none =>
      refine ⟨[], ?_, fun impossible => absurd rfl impossible⟩
      simp only [modules]
      rfl
    | some bytes =>
      cases preferred : builder.preferPrecompiled with
      | false =>
        refine ⟨[], ?_, fun impossible => absurd rfl impossible⟩
        simp only [modules]
        rfl
      | true =>
        have damaged : engine.deserialize bytes = none := by
          by_contra other
          exact unusable bytes ⟨⟨preferred, there⟩, Option.isSome_iff_ne_none.mpr other⟩
        refine ⟨[Logging.record "wasm.runtime" .warning
          ("precompiled module unusable, falling back to WASM: " ++ engine.complaint bytes)], ?_,
          fun _ => ⟨bytes, ⟨preferred, there⟩, damaged⟩⟩
        simp only [damaged, modules]
        rfl
  | @damaged bytes prefers unusable empty =>
    refine ⟨[], ?_, fun impossible => absurd rfl impossible⟩
    unfold attempt buildCompiled
    simp only [prefers.1, prefers.2, unusable, empty]
    rfl
  | nothing unpreferred empty =>
    refine ⟨[], ?_, fun impossible => absurd rfl impossible⟩
    unfold attempt
    cases there : bundle.precompiled with
    | none =>
      simp only [empty]
      rfl
    | some bytes =>
      have plain : builder.preferPrecompiled = false := by
        by_contra preferred
        exact unpreferred bytes ⟨by simpa using preferred, there⟩
      simp only [plain, empty]
      rfl

/-- Of all that is built of a bundle, only nothing fails for an empty bundle. -/
theorem attempt_empty (builder : Builder) (plain : builder.handlers.Plain) (engine : Engine σ)
    (typed : engine.Typed) (choice : Choice) (journal : Journal) :
    (∃ fault, (outcome (builder.attempt engine choice) journal).1 = .error fault ∧
      fault.isA .bundleEmpty = true) ↔ choice = .nothing := by
  have ends : choice ≠ .nothing → Ends (builder.attempt engine choice) journal (fun _ _ => True)
      (fun fault _ => fault.isA .bundleEmpty = false) := by
    intro something
    cases choice with
    | artifact bytes =>
      exact (buildCompiled_tells builder plain engine typed bytes journal).mono
        (fun _ _ _ => trivial) fun _ _ tells => tells.not_empty
    | policy first =>
      exact (build_tells builder plain engine typed (.binary first.binary) journal).mono
        (fun _ _ _ => trivial) fun _ _ tells => tells.not_empty
    | damaged bytes => exact rfl
    | nothing => exact absurd rfl something
  constructor
  · rintro ⟨fault, failed, empty⟩
    by_contra something
    cases ((ends something).of_failed failed).symm.trans empty
  · rintro rfl
    exact ⟨_, rfl, rfl⟩

/-- A build that fails is reported as a failed build, unless the start function of the module
gives the policy up, and then it always ends with the report of that.  From a bundle exactly one
thing is built, and what that comes to is what is told: there is nothing to build exactly if the
bundle is reported to be empty. -/
theorem building_told (builder : Builder) (plain : builder.handlers.Plain) (engine : Engine σ)
    (typed : engine.Typed) :
    (∀ source journal,
      (∀ fault, (outcome (builder.build engine source) journal).1 = .error fault →
        builder.Tells (engine.compile source) fault) ∧
      ∀ module message, engine.compile source = some module → builder.GivesUp module message →
        (outcome (builder.build engine source) journal).1 =
          .error (.report (Report.aborted message))) ∧
    ∀ bundle,
      (∃! choice, builder.Chooses engine bundle choice) ∧
      ∀ choice, builder.Chooses engine bundle choice → ∀ journal,
        (∃ told : List Logging.Record,
          builder.buildFromBundle engine bundle journal =
            builder.attempt engine choice (journal.add { records := told }) ∧
          (told ≠ [] → ∃ bytes, builder.Prefers bundle bytes ∧ engine.deserialize bytes = none)) ∧
        ((∃ fault, (outcome (builder.buildFromBundle engine bundle) journal).1 = .error fault ∧
          fault.isA .bundleEmpty = true) ↔ choice = .nothing) := by
  refine ⟨fun source journal => ⟨?_, ?_⟩, fun bundle => ⟨?_, ?_⟩⟩
  · intro fault failed
    exact (build_tells builder plain engine typed source journal).of_failed failed
  · intro module message made gives
    exact build_givesUp plain (typed.compiled _ _ made) made gives journal
  · obtain ⟨choice, chooses⟩ := builder.exists_chooses engine bundle
    exact ⟨choice, chooses, fun other chosen => chosen.unique chooses⟩
  · intro choice chooses journal
    obtain ⟨told, same, warned⟩ := buildFromBundle_attempts chooses journal
    refine ⟨⟨told, same, warned⟩, ?_⟩
    rw [← attempt_empty builder plain engine typed choice (journal.add { records := told })]
    unfold outcome
    rw [same]

end Builder

/-- The module of a policy answers when it is asked for its table, too. -/
theorem Policy.typed (policy : Policy) : policy.toModule.Typed where
  toSigned := policy.signed
  tables before answer after answered := by
    have work : PolicyCode.Replies (PolicyCode.work policy "entrypoints" []) :=
      PolicyCode.replies_bind _ fun _ => PolicyCode.replies_bind _ fun _ =>
        PolicyCode.replies_pure _
    have replies : PolicyCode.Replies (PolicyCode.invoke policy "entrypoints" []) :=
      PolicyCode.replies_bind _ fun _ => PolicyCode.replies_bind _ fun _ =>
        PolicyCode.misbehave_replies "entrypoints" _ (by decide) work _
    exact replies _ _ answer after answered

theorem Engine.always_typed {module : Module σ} (typed : module.Typed) :
    (Engine.always module).Typed where
  compiled _ _ made := by
    cases made
    exact typed
  deserialized _ _ made := by
    cases made
    exact typed

/-- The standard policy in a module whose start function gives it up. -/
def Policy.quitting : Policy := { standard with start := [.abortAt 0] }

namespace Builder

theorem quitting_givesUp : ∃ message, GivesUp {} Policy.quitting.toModule message :=
  ⟨_, by decide, by decide +kernel, rfl⟩

/-- A bundle with a module that was compiled ahead, and no other. -/
def ahead : Bundle := { precompiled := some [] }

theorem building_told_quitting :
    (∃ message, (outcome (build {} (.always Policy.quitting.toModule) (.binary [])) {}).1 =
        .error (.report (Report.aborted message))) ∧
      Chooses {} (.always Policy.quitting.toModule) ahead (.artifact []) ∧
      ¬ ∃ fault,
        (outcome (buildFromBundle {} (.always Policy.quitting.toModule) ahead) {}).1 =
          .error fault ∧ fault.isA .bundleEmpty = true := by
  have told := building_told {} Handlers.standard_plain (.always Policy.quitting.toModule)
    (Engine.always_typed Policy.quitting.typed)
  have chooses : Chooses {} (.always Policy.quitting.toModule) ahead (.artifact []) :=
    .artifact ⟨⟨rfl, rfl⟩, rfl⟩
  obtain ⟨message, gives⟩ := quitting_givesUp
  refine ⟨⟨message, (told.1 (.binary []) {}).2 _ message rfl gives⟩, chooses, fun empty => ?_⟩
  cases (((told.2 ahead).2 _ chooses {}).2).mp empty

/-- The report that a policy gave up is not that of a failed build. -/
theorem quitting_untold :
    ¬ ∀ fault, (outcome (build {} (.always Policy.quitting.toModule) (.binary [])) {}).1 =
      .error fault → fault.isA .build = true := by
  intro told
  obtain ⟨message, gives⟩ := quitting_givesUp
  have failed : (outcome (build {} (.always Policy.quitting.toModule) (.binary [])) {}).1 =
      .error (.report (Report.aborted message)) :=
    @build_givesUp _ {} _ _ _ message Handlers.standard_plain Policy.quitting.typed rfl gives {}
  cases told _ failed

end Builder

end PolicyHost
