import PolicyHost.Proofs.Steady

namespace PolicyHost

/-!
# Contexts that could not be opened

To open a context takes three things of the guest, a text, a document and a
record, and the input may be refused at each step before that: it has no text,
there is no memory for the text, or the guest takes it for no document.  The
lock is given back then, and nothing else about the host has changed.

What is left of the text depends on the discipline.  The explicit one frees a
text that was rejected.  The rewinding one leaves it behind the dataset, where
it stays until the heap pointer is moved back there.
-/

variable {σ δ : Type} {module : Module σ} {semantics : Semantics δ}

open Operation

namespace Host

/-- All that a context that could not be opened leaves of a host, apart from the
guest, is what was there, and the lock is free. -/
structure Unopened (before after : Host σ) : Prop where
  free : after.busy = false
  dataset_eq : after.dataset = before.dataset
  checkpoints_eq : after.checkpoints = before.checkpoints
  contexts_eq : after.contexts = before.contexts
  leak_eq : after.leak = before.leak

theorem perform_openContext {host : Host σ} {data : Address} (usable : host.unusable = none)
    (free : host.busy = false) (dataset : host.dataset = some data) (input : Value)
    {kind : Fault → Instance σ → Prop}
    (opens : Ends (host.discipline.openContext host.terms host.checkpoints data input) host.guest
      (fun _ _ => True) kind) :
    Ends (perform (.openContext input)) host (fun _ _ => True)
      (fun fault after => Unopened host after ∧ kind fault after.guest) := by
  unfold perform openContext
  rw [ends_bind, ends_bind, checkUsable_unusable, usable]
  dsimp only
  rw [ends_bind, acquire_free free, ends_bind, ends_onFault, ends_bind,
    requireData_some _ (by exact dataset), onGuest_ends]
  apply opens.mono
  · intro handle guest _
    trivial
  · intro fault guest failed
    rw [release_ends _ _ rfl]
    exact ⟨⟨rfl, rfl, rfl, rfl, rfl⟩, failed⟩

end Host

namespace ExplicitFree

variable {accounts : Accounts module} {meaning : Meaning accounts semantics}
variable {base : Finset UInt32} {ledger : List (UInt32 × Object δ)} {guest : Instance σ}

theorem live_eq_of_tally {after : Instance σ} (before : Tally meaning base ledger guest)
    (now : Tally meaning base ledger after) :
    accounts.live after.snapshot = accounts.live guest.snapshot := by
  apply Finset.val_inj.mp
  rw [now.live_eq, before.live_eq]

/-- An input that is refused, other than for want of memory, leaves the live blocks as
they were. -/
theorem openContext_fails (equipped : Discipline.explicitFree.Equips module)
    (maxPages : Option Nat) (checkpoints : Checkpoints) (data : Address) (y : δ) (input : Value)
    (tally : Tally meaning base ledger guest)
    (entered : (data.toWord, Object.document y) ∈ ledger) :
    Ends (Discipline.explicitFree.openContext (Discipline.explicitFree.terms maxPages) checkpoints
        data input) guest (fun _ _ => True)
      (fun fault after => after.trapped = true ∨ fault.isA .guestMemory = true ∨
        fault.isA .marshaling = true ∧
          accounts.live after.snapshot = accounts.live guest.snapshot) := by
  unfold Discipline.openContext
  cases encoded : Payload.encode input with
  | error r =>
    rw [Discipline.bindContext_unserializable _ _ _ _ r encoded]
    refine Or.inr (Or.inr ⟨?_, rfl⟩)
    rw [Fault.isA, Payload.encode_error_kind input r encoded]
    rfl
  | ok raw =>
    apply (bindContext_ends equipped _ rfl data y input raw encoded tally entered).mono
    · intro handle after _
      trivial
    · rintro fault after (lost | ⟨refused, _⟩ | ⟨⟨_, rfl⟩, now⟩)
      · exact Or.inl lost
      · exact Or.inr (Or.inl refused)
      · exact Or.inr (Or.inr ⟨rfl, live_eq_of_tally tally now⟩)

end ExplicitFree

namespace HeapRewind

variable {heap : Heap module} {meaning : HeapMeaning heap semantics} {entries : List (Entry δ)}
variable {guest : Instance σ}

/-- An input that is refused leaves no more than scratch behind the dataset, and nothing
at all if it has no text. -/
theorem openContext_fails (equipped : Discipline.heapRewind.Equips module)
    (maxPages : Option Nat) (checkpoints : Checkpoints) (data : Address) (y : δ) (dataBound : Nat)
    (input : Value) (level : Level meaning checkpoints.data.offset entries guest)
    (entered : ⟨dataBound, data.toWord, Object.document y⟩ ∈ entries) :
    Ends (Discipline.heapRewind.openContext (Discipline.heapRewind.terms maxPages) checkpoints data
        input) guest (fun _ _ => True)
      (fun fault after => after.trapped = true ∨
        (fault.isA .marshaling = true ∨ fault.isA .guestMemory = true) ∧
          checkpoints.data.offset ≤ heap.top after.snapshot ∧
          Since heap checkpoints.data.offset checkpoints.data.offset guest after ∧
          ∀ r, Payload.encode input = .error r →
            heap.top after.snapshot = checkpoints.data.offset) := by
  cases encoded : Payload.encode input with
  | error r =>
    refine (openContext_unserializable equipped _ data input r encoded level).mono
      (fun _ _ impossible => impossible.elim) ?_
    rintro fault after (lost | ⟨rfl, left⟩)
    · exact Or.inl lost
    · refine Or.inr ⟨Or.inl ?_, Nat.le_of_eq left.top_eq.symm, left.since, fun _ _ => left.top_eq⟩
      rw [Fault.isA, Payload.encode_error_kind input r encoded]
      rfl
  | ok raw =>
    apply (openContext_ends equipped _ rfl checkpoints data y dataBound input raw encoded level
      entered).mono
    · intro handle after _
      trivial
    · rintro fault after (lost | ⟨reason, left, since⟩)
      · exact Or.inl lost
      · refine Or.inr ⟨?_, (heap.reaches _ _ left.intact).1, since, fun _ impossible =>
          nomatch impossible⟩
        rcases reason with refused | ⟨_, rfl⟩
        · exact Or.inr refused
        · exact Or.inl rfl

end HeapRewind

/-- How the guest of a module manages the memory that a discipline has it use. -/
inductive Manages (module : Module σ) : Discipline → Type
  | explicitFree (accounts : Accounts module) : Manages module .explicitFree
  | heapRewind (heap : Heap module) : Manages module .heapRewind

/-- What an input that was refused leaves in a guest whose heap is rewound. -/
structure Scratch (heap : Heap module) (input : Value) (before after : Host σ) : Prop where
  /-- No more than scratch behind the dataset was added. -/
  behind : before.checkpoints.data.offset ≤ heap.top after.guest.snapshot
  since : Since heap before.checkpoints.data.offset before.checkpoints.data.offset before.guest
    after.guest
  /-- An input without a text leaves none. -/
  textless : ∀ r, Payload.encode input = .error r →
    heap.top after.guest.snapshot = before.checkpoints.data.offset
  /-- Whatever comes next treats it as scratch. -/
  orderly : ∀ use, (outcome (Host.perform use) after).2.guest.trapped = false →
    HeapRewind.Orderly heap use after (outcome (Host.perform use) after).1
      (outcome (Host.perform use) after).2

/-- What an input that was refused leaves in a guest. -/
def Manages.Leaves {discipline : Discipline} (manages : Manages module discipline) (input : Value)
    (fault : Fault) (before after : Host σ) : Prop :=
  match manages with
  | explicitFree accounts => fault.isA .guestMemory = false →
    accounts.live after.guest.snapshot = accounts.live before.guest.snapshot
  | heapRewind heap => Scratch heap input before after

namespace Host

theorem Exclusive.free {host : Host σ} (exclusive : host.Exclusive)
    (closed : host.openContexts = []) : host.busy = false := by
  have count := exclusive.open_count
  rw [closed] at count
  cases busy : host.busy with
  | false => rfl
  | true =>
    rw [busy] at count
    cases count

end Host

namespace Contract

variable {contract : Contract σ semantics} {service : Service δ} {host : Host σ}

/-- A host that stands where its service stands, with a dataset and no open context,
may open one. -/
theorem Matches.may_open (same : contract.Matches service host) (exclusive : host.Exclusive)
    (present : host.dataset.isSome = true) (closed : host.openContexts = []) :
    host.unusable = none ∧ host.busy = false ∧ ∃ data y, host.dataset = some data ∧
      contract.idle host.checkpoints (some (data, y)) host.guest := by
  have free := exclusive.free closed
  have current : service.current = none := by
    have holds := same.holds
    unfold Holds at holds
    cases current : service.current with
    | none => rfl
    | some opening =>
      rw [current] at holds
      cases free.symm.trans holds.1
  obtain ⟨_, _, data?, dataset, _, idle⟩ := same.idle current
  cases data? with
  | none =>
    rw [dataset] at present
    cases present
  | some data =>
    refine ⟨?_, free, data.1, data.2, dataset, idle⟩
    unfold Host.unusable
    rw [same.leak_eq, contract.idle_open _ _ _ idle]
    rfl

end Contract

namespace Host

open Instance

/-- Whatever was done with a host that has a dataset and no open context: if a context
cannot be opened on it, and its guest is not lost over that, then the host is as it was
with the lock free, and the guest is left with no more memory in use than scratch.
Under the explicit discipline it is left with the same live blocks, unless memory was
refused. -/
theorem unopened_left {builder : Builder} {journal journal' : Journal} {host : Host σ}
    (built : builder.instantiate module journal = .ok host journal')
    {discipline : Discipline} (version : Discipline.ofMinor host.minor = discipline)
    (manages : Manages module discipline) (uses : List Use) (input : Value) (fault : Fault)
    (present : (run uses host).2.dataset.isSome = true)
    (closed : (run uses host).2.openContexts = [])
    (failed : (outcome (perform (.openContext input)) (run uses host).2).1 = .error fault)
    (kept : (outcome (perform (.openContext input)) (run uses host).2).2.guest.trapped = false) :
    let before := (run uses host).2
    let after := (outcome (perform (.openContext input)) before).2
    before.Unopened after ∧ (fault.isA .marshaling = true ∨ fault.isA .guestMemory = true) ∧
      manages.Leaves input fault before after := by
  intro before after
  have exclusive := (Builder.instantiate_equips built).1.exclusive.run uses
  have usable : before.guest.trapped = false := by
    have ran : (run [.openContext input] before).2.guest.trapped = false := kept
    exact usable_before ran
  have calm := calm_of_usable usable
  cases manages with
  | explicitFree accounts =>
    have low : host.minor < 2 := by
      unfold Discipline.ofMinor at version
      split at version
      · cases version
      · omega
    obtain ⟨equipped, same⟩ := accounts.silent.loose_built built low
    obtain ⟨service, _, standing⟩ := Contract.runs same uses calm
    obtain ⟨usable, free, data, y, dataset, base, _, tally⟩ :=
      standing.may_open exclusive present closed
    have ends := perform_openContext usable free dataset input (by
      rw [standing.discipline_eq, standing.terms_eq]
      exact ExplicitFree.openContext_fails equipped _ _ data y input tally
        (List.mem_singleton_self _))
    obtain ⟨left, lost | refused | ⟨rejected, live_eq⟩⟩ := ends.of_failed failed
    · cases kept.symm.trans lost
    · refine ⟨left, Or.inr refused, fun other => ?_⟩
      cases other.symm.trans refused
    · exact ⟨left, Or.inl rejected, fun _ => live_eq⟩
  | heapRewind heap =>
    have high : 2 ≤ host.minor := by
      unfold Discipline.ofMinor at version
      split at version
      · assumption
      · cases version
    obtain ⟨equipped, same⟩ := HeapRewind.matches_built heap.silent built high
    obtain ⟨service, _, standing⟩ := Contract.runs same uses calm
    obtain ⟨usable, free, data, y, dataset, idle⟩ := standing.may_open exclusive present closed
    have ends := perform_openContext usable free dataset input (by
      rw [standing.discipline_eq, standing.terms_eq]
      exact HeapRewind.openContext_fails equipped _ _ data y _ input idle.level
        (List.mem_singleton_self _))
    obtain ⟨left, lost | ⟨reason, behind, since, textless⟩⟩ := ends.of_failed failed
    · cases kept.symm.trans lost
    · obtain ⟨_, service', _, later⟩ := Contract.step standing (.openContext input)
        (fun _ _ => id) kept
      exact ⟨left, reason, behind, since, textless, HeapRewind.orderly later⟩

/-- A guest that does not take null for a document, under either discipline. -/
theorem unopened_left_wary :
    (Builder.Builds {} (Shelf.toModule .wary Shelf.echoTable 0) fun host =>
      let before := (run [.setData (.list [])] host).2
      let opening := outcome (perform (.openContext .null)) before
      before.Unopened opening.2 ∧ (∃ fault, opening.1 = .error fault) ∧
        (Shelf.accounts .wary Shelf.echoTable 0).live opening.2.guest.snapshot =
          (Shelf.accounts .wary Shelf.echoTable 0).live before.guest.snapshot) ∧
    Builder.Builds {} (Shelf.toModule .wary Shelf.echoTable 2) fun host =>
      let before := (run [.setData (.list [])] host).2
      let opening := outcome (perform (.openContext .null)) before
      before.Unopened opening.2 ∧ (∃ fault, opening.1 = .error fault) ∧
        Scratch (Shelf.heap .wary Shelf.echoTable 2) .null before opening.2 := by
  constructor
  · have begun : Builder.Builds {} (Shelf.toModule .wary Shelf.echoTable 0) fun host =>
        let before := (run [.setData (.list [])] host).2
        Discipline.ofMinor host.minor = .explicitFree ∧ before.dataset.isSome = true ∧
          before.openContexts = [] ∧
          Ends (perform (.openContext .null)) before (fun _ _ => False)
            (fun fault after => fault.isA .guestMemory = false ∧ after.guest.trapped = false) := by
      decide +kernel
    obtain ⟨host, journal, built, version, present, closed, ends⟩ := begun
    obtain ⟨_, _, impossible⟩ | ⟨fault, failed, other, kept⟩ := ends.outcome
    · exact impossible.elim
    have left := unopened_left built version
      (.explicitFree (Shelf.accounts .wary Shelf.echoTable 0)) _ .null fault present closed failed
      kept
    exact ⟨host, journal, built, left.1, ⟨fault, failed⟩, left.2.2 other⟩
  · have begun : Builder.Builds {} (Shelf.toModule .wary Shelf.echoTable 2) fun host =>
        let before := (run [.setData (.list [])] host).2
        Discipline.ofMinor host.minor = .heapRewind ∧ before.dataset.isSome = true ∧
          before.openContexts = [] ∧
          Ends (perform (.openContext .null)) before (fun _ _ => False)
            (fun _ after => after.guest.trapped = false) := by
      decide +kernel
    obtain ⟨host, journal, built, version, present, closed, ends⟩ := begun
    obtain ⟨_, _, impossible⟩ | ⟨fault, failed, kept⟩ := ends.outcome
    · exact impossible.elim
    have left := unopened_left built version (.heapRewind (Shelf.heap .wary Shelf.echoTable 2)) _
      .null fault present closed failed kept
    exact ⟨host, journal, built, left.1, ⟨fault, failed⟩, left.2.2⟩

/-- A context that could not be opened may leave the heap pointer elsewhere. -/
theorem unopened_elsewhere :
    Builder.Builds {} Shelf.wary fun host =>
      let heap := Shelf.heap .wary Shelf.echoTable 2
      let before := (run [.setData (.list [])] host).2
      let opening := outcome (perform (.openContext .null)) before
      2 ≤ host.minor ∧ before.dataset.isSome = true ∧ before.openContexts = [] ∧
        heap.top before.guest.snapshot = before.checkpoints.data.offset ∧
        (∃ fault, opening.1 = .error fault) ∧ opening.2.guest.trapped = false ∧
        heap.top opening.2.guest.snapshot ≠ heap.top before.guest.snapshot := by
  have begun : Builder.Builds {} Shelf.wary fun host =>
      let heap := Shelf.heap .wary Shelf.echoTable 2
      let before := (run [.setData (.list [])] host).2
      2 ≤ host.minor ∧ before.dataset.isSome = true ∧ before.openContexts = [] ∧
        heap.top before.guest.snapshot = before.checkpoints.data.offset ∧
        Ends (perform (.openContext .null)) before (fun _ _ => False)
          (fun _ after => after.guest.trapped = false ∧
            heap.top after.guest.snapshot ≠ heap.top before.guest.snapshot) := by
    decide +kernel
  obtain ⟨host, journal, built, version, present, closed, begins, ends⟩ := begun
  obtain ⟨_, _, impossible⟩ | ⟨fault, failed, kept, moved⟩ := ends.outcome
  · exact impossible.elim
  · exact ⟨host, journal, built, version, present, closed, begins, ⟨fault, failed⟩, kept, moved⟩

end Host
end PolicyHost
