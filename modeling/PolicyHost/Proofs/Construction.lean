import PolicyHost.Proofs.ExplicitFree
import PolicyHost.Proofs.HeapRewind

namespace PolicyHost

/-!
# What a host begins with

A host comes out of a build with its entrypoint table read and, under the
rewinding discipline, its checkpoints taken.  What the guest went through on
the way is accounted for like any later use, so that the host begins with no
dataset, no context, and a guest in which nothing of the host's own is left.
-/

variable {σ δ : Type} {module : Module σ}

namespace Instance

/-- What is required is there if the requirement is met. -/
theorem require_ends (names : List String) (guest : Instance σ)
    (good : Unit → Instance σ → Prop)
    (met : (∀ name ∈ names, guest.module.hasFunction name = true) → good () guest) :
    Operation.Ends (require names) guest good (fun _ _ => True) := by
  unfold Operation.Ends require
  cases missing : names.filter fun name => !guest.module.hasFunction name with
  | cons name rest => trivial
  | nil =>
    apply met
    intro name member
    have present := List.filter_eq_nil_iff.mp missing name member
    simpa using present

/-- Writing a record changes the journal alone. -/
theorem log_ends (logger : String) (level : Logging.Level) (text : String) (guest : Instance σ)
    (good : Unit → Instance σ → Prop) (bad : Fault → Instance σ → Prop)
    (written : ∀ journal, good () { guest with journal }) :
    Operation.Ends (log logger level text) guest good bad :=
  written _

end Instance

namespace Builder

/-- Reading the table and taking the checkpoints, as far as it succeeds.  The
entrypoints are those of the table that was read. -/
theorem prepare_reads (discipline : Discipline) (terms : Region.Terms) (guest : Instance σ)
    (good : List (String × Int) × Checkpoints → Instance σ → Prop)
    (table : Operation.Ends (Instance.callAddress "entrypoints" []) guest
      (fun document found => Operation.Ends (Exchange.readRaw terms document) found
        (fun raw read => ∀ value, Payload.decode raw (.mapping .text .int) = .ok value →
          Operation.Ends discipline.takeCheckpoints read
            (fun checkpoints after => good (entrypointsOf value, checkpoints) after)
            (fun _ _ => True))
        (fun _ _ => True))
      (fun _ _ => True)) :
    Operation.Ends (prepare discipline terms) guest good (fun _ _ => True) := by
  unfold prepare Exchange.readValue
  refine Operation.ends_attempt_bind ?_ fun fault after => ?_
  · rw [Operation.ends_bind]
    refine table.mono ?_ fun _ _ _ => trivial
    intro document found read
    rw [Operation.ends_bind, Operation.ends_bind]
    refine read.mono ?_ fun _ _ _ => trivial
    intro raw after taken
    rw [Operation.ends_liftReport]
    cases decoded : Payload.decode raw (.mapping .text .int) with
    | error r => trivial
    | ok value =>
      dsimp only
      rw [Operation.ends_bind]
      exact taken value decoded
  · -- A fault on the way, whichever it is, is a fault of the build.
    cases fault with
    | report r =>
      dsimp only
      split <;> trivial
    | _ => trivial

theorem prepare_ends (discipline : Discipline) (terms : Region.Terms) (guest : Instance σ)
    (good : Checkpoints → Instance σ → Prop)
    (table : Operation.Ends (Instance.callAddress "entrypoints" []) guest
      (fun document found => Operation.Ends (Exchange.readRaw terms document) found
        (fun _ read => Operation.Ends discipline.takeCheckpoints read good (fun _ _ => True))
        (fun _ _ => True))
      (fun _ _ => True)) :
    Operation.Ends (prepare discipline terms) guest (fun found after => good found.2 after)
      (fun _ _ => True) :=
  prepare_reads discipline terms guest _ <| table.mono
    (fun _ _ read => read.mono (fun _ _ taken _ _ => taken) fun _ _ failed => failed)
    fun _ _ failed => failed

/-- A host as it comes out of a build: its discipline is that of its version,
and nothing was done with it yet. -/
structure Unused (host : Host σ) : Prop where
  discipline_eq : host.discipline = .ofMinor host.minor
  dataset_eq : host.dataset = none
  busy_eq : host.busy = false
  leak_eq : host.leak = none
  contexts_eq : host.contexts = []
  lockings_eq : host.lockings = []

/-- An instance that is made ready is prepared on the terms of its discipline,
which has what it calls. -/
theorem initializeHost_ends (maxPages : Option Nat) (started : Instance σ)
    (good : Discipline → List (String × Int) × Checkpoints → Instance σ → Prop)
    (prepares : ∀ (discipline : Discipline) (journal : Journal),
      started.module.hasFunction "entrypoints" = true → discipline.Equips started.module →
      Operation.Ends (prepare discipline (discipline.terms maxPages)) { started with journal }
        (good discipline) (fun _ _ => True)) :
    Operation.Ends (initializeHost maxPages) started
      (fun host after => Unused host ∧ host.discipline.Equips started.module ∧
        ∃ (guest : Instance σ) (journal : Journal),
          good host.discipline (host.entrypoints, host.checkpoints) guest ∧
            after = { guest with journal })
      (fun _ _ => True) := by
  unfold initializeHost
  rw [Operation.ends_bind, Operation.ends_get, Operation.ends_bind]
  refine Instance.require_ends _ started _ ?_
  intro present
  rw [Operation.ends_bind]
  refine Instance.log_ends _ _ _ _ _ _ fun journal => ?_
  rw [Operation.ends_bind]
  refine (prepares _ journal (present _ (List.mem_cons_self ..))
    (fun name member => present name (List.mem_cons_of_mem _ member))).mono ?_
    (fun _ _ failed => failed)
  intro found after ready
  dsimp only
  rw [Operation.ends_bind]
  refine Instance.log_ends _ _ _ _ _ _ fun journal => ?_
  rw [Operation.ends_bind, Operation.ends_get, Operation.ends_pure]
  exact ⟨⟨rfl, rfl, rfl, rfl, rfl, rfl⟩,
    fun name member => present name (List.mem_cons_of_mem _ member),
    after, _, ready, rfl⟩

/-- What the start function of a module comes to with the builder's handlers. -/
def startEnding (builder : Builder) (module : Module σ) : Instance.Ending Unit :=
  (module.start (Memory.fresh initialPages builder.maxPages) module.initial).ending
    builder.handlers

/-- An instance of a module that was linked and whose start function came back. -/
structure Started (builder : Builder) (module : Module σ) (guest : Instance σ) : Prop where
  bounded : builder.maxPages.getD 0 ≤ mostPages
  accepted : module.accepts (Memory.fresh initialPages builder.maxPages) = true
  returned : builder.startEnding module = .returned ()
  outcome : (module.start (Memory.fresh initialPages builder.maxPages) module.initial).outcome =
    some ((), guest.snapshot)
  module_eq : guest.module = module
  handlers_eq : guest.handlers = builder.handlers
  open_eq : guest.trapped = false
  history_eq : guest.history = []

theorem Started.logged {builder : Builder} {guest : Instance σ}
    (started : builder.Started module guest) (journal : Journal) :
    builder.Started module { guest with journal } where
  bounded := started.bounded
  accepted := started.accepted
  returned := started.returned
  outcome := started.outcome
  module_eq := started.module_eq
  handlers_eq := started.handlers_eq
  open_eq := started.open_eq
  history_eq := started.history_eq

/-- Why there is no such instance, and what is told then. -/
inductive Unstarted (builder : Builder) (module : Module σ) : Fault → Prop
  | unbounded (exceeds : mostPages < builder.maxPages.getD 0) :
    Unstarted builder module (.report (Report.buildFailed "memory" Instance.engineText))
  | unlinked (rejected : module.accepts (Memory.fresh initialPages builder.maxPages) = false) :
    Unstarted builder module (.report (Report.buildFailed "instantiate" Instance.engineText))
  | trapped (ending : builder.startEnding module = .trapped) :
    Unstarted builder module (.report (Report.buildFailed "instantiate" Instance.engineText))
  | refused (fault : Fault) (bounded : builder.maxPages.getD 0 ≤ mostPages)
    (accepted : module.accepts (Memory.fresh initialPages builder.maxPages) = true)
    (ending : builder.startEnding module = .refused fault) : Unstarted builder module fault

/-- Linking a module comes to what making it ready comes to, once it has started. -/
theorem instantiate_ends (builder : Builder) (module : Module σ) (journal : Journal)
    {good : Host σ → Journal → Prop} {bad : Fault → Journal → Prop}
    (unstarted : ∀ fault journal, builder.Unstarted module fault → bad fault journal)
    (started : ∀ guest, builder.Started module guest →
      Operation.Ends (initializeHost builder.maxPages) guest
        (fun host after =>
          good { host with guest := { after with journal := {}, history := [] } } after.journal)
        (fun fault after => bad fault after.journal)) :
    Operation.Ends (instantiate builder module) journal good bad := by
  unfold Operation.Ends instantiate
  dsimp only
  by_cases exceeds : mostPages < builder.maxPages.getD 0
  · rw [if_pos exceeds]
    exact unstarted _ _ (.unbounded exceeds)
  rw [if_neg exceeds]
  cases accepted : module.accepts (Memory.fresh initialPages builder.maxPages) with
  | false =>
    rw [if_pos (by decide)]
    exact unstarted _ _ (.unlinked accepted)
  | true =>
    rw [if_neg (by decide)]
    have ended := Instance.follow_ending
      (module.start (Memory.fresh initialPages builder.maxPages) module.initial)
      { module, memory := Memory.fresh initialPages builder.maxPages, journal
        handlers := builder.handlers, state := module.initial, trapped := false }
    have kept := Instance.follow_returned
      (module.start (Memory.fresh initialPages builder.maxPages) module.initial)
      { module, memory := Memory.fresh initialPages builder.maxPages, journal
        handlers := builder.handlers, state := module.initial, trapped := false }
    generalize Instance.follow _ _ = followed at ended kept ⊢
    obtain ⟨ending, guest⟩ := followed
    dsimp only at ended kept
    have bounded : builder.maxPages.getD 0 ≤ mostPages := Nat.le_of_not_lt exceeds
    cases ending with
    | trapped => exact unstarted _ _ (.trapped ended.1.symm)
    | refused fault => exact unstarted _ _ (.refused fault bounded accepted ended.1.symm)
    | returned result =>
      have readied := started guest ⟨bounded, accepted, ended.1.symm, kept.2.2.2 () rfl, kept.1,
        ended.2, kept.2.1, kept.2.2.1⟩
      unfold Operation.Ends at readied
      dsimp only
      cases result : initializeHost builder.maxPages guest with
      | ok host after =>
        rw [result] at readied
        exact readied
      | error fault after =>
        rw [result] at readied
        exact readied

/-- A host that was built has what its discipline calls, was not used, and has
a guest as the preparation left it. -/
theorem instantiate_made {builder : Builder} {journal journal' : Journal} {host : Host σ}
    (discipline : Discipline) (good : List (String × Int) × Checkpoints → Instance σ → Prop)
    (prepares : ∀ guest, builder.Started module guest →
      module.hasFunction "entrypoints" = true → discipline.Equips module →
      Operation.Ends (prepare discipline (discipline.terms builder.maxPages)) guest good
        (fun _ _ => True))
    (discipline_eq : host.discipline = discipline)
    (built : instantiate builder module journal = .ok host journal') :
    Unused host ∧ discipline.Equips module ∧
      ∃ guest : Instance σ, good (host.entrypoints, host.checkpoints) guest ∧
        host.guest = { guest with journal := {}, history := [] } := by
  have made : Operation.Ends (instantiate builder module) journal
      (fun made _ => made.discipline = discipline → Unused made ∧ discipline.Equips module ∧
        ∃ guest : Instance σ, good (made.entrypoints, made.checkpoints) guest ∧
          made.guest = { guest with journal := {}, history := [] })
      (fun _ _ => True) := by
    refine instantiate_ends builder module journal (fun _ _ _ => trivial) ?_
    intro started begun
    refine (initializeHost_ends builder.maxPages started
      (fun other found guest => other = discipline → good found guest) ?_).mono ?_
      (fun _ _ failed => failed)
    · intro other journal present equipped
      rw [begun.module_eq] at present equipped
      by_cases same : other = discipline
      · subst same
        exact (prepares { started with journal } (begun.logged journal) present equipped).mono
          (fun _ _ good _ => good) (fun _ _ failed => failed)
      · exact (Operation.ends_nothing _ _).mono (fun _ _ _ equal => absurd equal same)
          (fun _ _ failed => failed)
    · rintro host after ⟨unused, equipped, guest, journal, good, rfl⟩ discipline_eq
      rw [begun.module_eq, show host.discipline = discipline from discipline_eq] at equipped
      exact ⟨⟨unused.discipline_eq, unused.dataset_eq, unused.busy_eq, unused.leak_eq,
        unused.contexts_eq, unused.lockings_eq⟩, equipped, guest, good discipline_eq, rfl⟩
  exact made.of_ok built discipline_eq

theorem instantiate_unused {builder : Builder} {journal journal' : Journal} {host : Host σ}
    (built : instantiate builder module journal = .ok host journal') : Unused host :=
  (instantiate_made host.discipline (fun _ _ => True)
    (fun _ _ _ _ => Operation.ends_nothing _ _) rfl built).1

/-- The version alone decides the discipline. -/
theorem instantiate_discipline {builder : Builder} {journal journal' : Journal} {host : Host σ}
    (built : instantiate builder module journal = .ok host journal') :
    host.discipline = .ofMinor host.minor :=
  (instantiate_unused built).discipline_eq

/-- A host comes out of the build, and something holds of it. -/
def Builds (builder : Builder) (module : Module σ) (holds : Host σ → Prop) : Prop :=
  ∃ host journal, builder.instantiate module {} = .ok host journal ∧ holds host

instance (builder : Builder) (module : Module σ) (holds : Host σ → Prop) [DecidablePred holds] :
    Decidable (builder.Builds module holds) :=
  match built : builder.instantiate module {} with
  | .ok host journal =>
    decidable_of_iff (holds host)
      ⟨fun held => ⟨host, journal, built, held⟩, fun ⟨_, _, same, held⟩ => by
        cases built.symm.trans same
        exact held⟩
  | .error _ _ => .isFalse fun ⟨_, _, same, _⟩ => by cases built.symm.trans same

end Builder

/-- A host with the explicit discipline begins with a guest whose books are in
order. -/
theorem Accounts.built (accounts : Accounts module) {builder : Builder}
    {journal journal' : Journal} {host : Host σ}
    (built : builder.instantiate module journal = .ok host journal') (version : host.minor < 2) :
    Builder.Unused host ∧ host.discipline = .explicitFree ∧
      Discipline.explicitFree.Equips module ∧ host.guest.module = module ∧
      host.guest.trapped = false ∧ host.guest.history = [] ∧
      accounts.sound host.guest.snapshot := by
  have explicit : host.discipline = .explicitFree := by
    rw [Builder.instantiate_discipline built, Discipline.ofMinor, if_neg (by omega)]
  have made := Builder.instantiate_made .explicitFree
    (fun _ guest => ∃ base, Tally accounts.silent base [] guest) ?_ explicit built
  · rcases made with ⟨unused, equipped, guest, ⟨base, tally⟩, guest_eq⟩
    rw [guest_eq]
    exact ⟨unused, explicit, equipped, tally.module_eq, tally.open_eq, rfl, tally.sound⟩
  · rintro started ⟨_, _, _, outcome, module_eq, _, open_eq, history_eq⟩ present equipped
    have sound := accounts.starts _ _ outcome
    refine Builder.prepare_ends _ _ _
      (fun _ guest => ∃ base, Tally accounts.silent base [] guest) ?_
    refine (Instance.callAddress_ends started "entrypoints" [] (by rwa [module_eq]) open_eq
      ?_).mono ?_ (fun _ _ _ => trivial)
    · intro answer after answered
      rw [module_eq] at answered
      rcases (accounts.table _ _ _ sound answered).2 with ⟨document, rfl, _⟩
      rfl
    · intro address found called
      have answered := called.answered
      rw [module_eq] at answered
      rcases accounts.table _ _ _ sound answered with ⟨soundFound, document, same, live, shaped⟩
      cases same
      have tally : Tally accounts.silent ((accounts.live found.snapshot).erase address.toWord)
          [(address.toWord, .document ())] found := by
        refine ⟨called.module_eq.trans module_eq, called.open_eq, soundFound, ?_, ?_, ?_⟩
        · rw [Finset.erase_val, List.map_singleton, Multiset.coe_singleton, Multiset.add_comm,
            Multiset.singleton_add, Multiset.cons_erase live]
        · intro entry member
          rw [List.mem_singleton.mp member]
          exact shaped
        · intro access member
          rw [called.history_eq, history_eq, List.mem_singleton] at member
          rw [member]
          exact Or.inl ⟨rfl, rfl⟩
      refine (ExplicitFree.readRaw_ends equipped _ rfl address () tally
        (List.mem_singleton_self _)).mono ?_ (fun _ _ _ => trivial)
      rintro raw read ⟨_, tally⟩
      refine ⟨accounts.live read.snapshot, tally.module_eq, tally.open_eq, tally.sound, ?_, ?_,
        tally.lawful⟩
      · simp
      · intro entry member
        cases member

/-- A host with the rewinding discipline begins with a guest whose heap is in
order below the base. -/
theorem Heap.built (heap : Heap module) {builder : Builder} {journal journal' : Journal}
    {host : Host σ} (built : builder.instantiate module journal = .ok host journal')
    (version : 2 ≤ host.minor) :
    Builder.Unused host ∧ host.discipline = .heapRewind ∧
      Discipline.heapRewind.Equips module ∧ host.checkpoints.data = host.checkpoints.base ∧
      host.guest.history = [] ∧ Level heap.silent host.checkpoints.base.offset [] host.guest := by
  have rewinding : host.discipline = .heapRewind := by
    rw [Builder.instantiate_discipline built, Discipline.ofMinor, if_pos version]
  have made := Builder.instantiate_made .heapRewind
    (fun found guest => found.2.data = found.2.base ∧
      Level heap.silent found.2.base.offset [] guest) ?_ rewinding built
  · rcases made with ⟨unused, equipped, guest, ⟨same, level⟩, guest_eq⟩
    rw [guest_eq]
    exact ⟨unused, rewinding, equipped, same, rfl, level.module_eq, level.open_eq, level.intact,
      level.above,
      level.bounded, level.holds⟩
  · rintro started ⟨_, _, _, outcome, module_eq, _, open_eq, history_eq⟩ present equipped
    have intact := heap.starts _ _ outcome
    refine Builder.prepare_ends _ _ _
      (fun checkpoints guest => checkpoints.data = checkpoints.base ∧
        Level heap.silent checkpoints.base.offset [] guest) ?_
    refine (Instance.callAddress_ends started "entrypoints" [] (by rwa [module_eq]) open_eq
      ?_).mono ?_ (fun _ _ _ => trivial)
    · intro answer after answered
      rw [module_eq] at answered
      rcases (heap.table _ _ _ intact answered).2 with ⟨document, rfl, _⟩
      rfl
    · intro address found called
      have answered := called.answered
      rw [module_eq] at answered
      rcases heap.table _ _ _ intact answered with ⟨intactFound, document, same, stored⟩
      cases same
      have settled : Settled heap.silent
          [⟨heap.top found.snapshot, address.toWord, .document ()⟩] found := by
        refine ⟨called.module_eq.trans module_eq, called.open_eq, intactFound,
          (heap.reaches _ _ intactFound).2, ?_, ?_⟩
        · intro entry member
          rw [List.mem_singleton.mp member]
        · intro entry member
          rw [List.mem_singleton.mp member]
          exact stored
      refine (HeapRewind.readRaw_ends equipped _ rfl address () _ settled
        (List.mem_singleton_self _)).mono ?_ (fun _ _ _ => trivial)
      rintro raw read ⟨_, settled, _⟩
      unfold Discipline.takeCheckpoints
      rw [Operation.ends_bind]
      refine (HeapRewind.heapPointer_ends equipped settled).mono ?_ (fun _ _ _ => trivial)
      rintro base after ⟨base_eq, top_eq, settled, _⟩
      rw [Operation.ends_bind]
      refine Instance.log_ends _ _ _ _ _ _ fun journal => ?_
      rw [Operation.ends_pure]
      refine ⟨rfl, ?_⟩
      dsimp only
      rw [base_eq, ← top_eq]
      have level : Level heap.silent (heap.top after.snapshot) [] after :=
        settled.lower (Nat.le_refl _) settled.above (List.forall_mem_nil _)
          (List.forall_mem_nil _)
      exact level.journal journal

end PolicyHost
