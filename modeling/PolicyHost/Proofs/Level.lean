import PolicyHost.Proofs.Heap

namespace PolicyHost

/-!
# The heap below the host's marks

Under the rewinding discipline the host does not own blocks but stretches of
the heap: what lies below a mark is its own, and what lies above is scratch.
`Level` lists what the host keeps below a mark, each thing with a bound below
which all of it lies.  `Since` compares a guest with what it was at an earlier
time: nothing was placed in front of one place, and nothing was changed in
front of another.
-/

variable {σ δ : Type} {module : Module σ} {heap : Heap module} {semantics : Semantics δ}

/-- Something that lies in the heap below a bound. -/
structure Entry (δ : Type) where
  bound : Nat
  address : UInt32
  object : Object δ

/-- The guest is in order below the mark, and what is listed lies there. -/
structure Level (meaning : HeapMeaning heap semantics) (mark : Nat) (entries : List (Entry δ))
    (guest : Instance σ) : Prop where
  module_eq : guest.module = module
  open_eq : guest.trapped = false
  intact : heap.intact guest.snapshot mark
  above : heap.bottom ≤ mark
  bounded : ∀ entry ∈ entries, entry.bound ≤ mark
  holds : ∀ entry ∈ entries, meaning.holds guest.snapshot entry.bound entry.address entry.object

/-- The mark is the heap pointer, so that the guest can allocate. -/
def Settled (meaning : HeapMeaning heap semantics) (entries : List (Entry δ))
    (guest : Instance σ) : Prop :=
  Level meaning (heap.top guest.snapshot) entries guest

/-- Since an earlier time nothing was written or allocated in front of
`ground`, and the heap in front of `floor` is as it was. -/
structure Since (heap : Heap module) (ground floor : Nat) (before after : Instance σ) : Prop where
  accesses : ∃ recent, after.history = recent ++ before.history ∧
    ∀ access ∈ recent, heap.WorksFrom ground access
  bytes : ∀ address, heap.bottom ≤ address → address < floor →
    after.memory.byte address = before.memory.byte address

namespace Since

variable {ground ground' floor floor' : Nat} {first second third : Instance σ}

theorem refl (heap : Heap module) (ground floor : Nat) (guest : Instance σ) :
    Since heap ground floor guest guest :=
  ⟨⟨[], rfl, fun _ member => nomatch member⟩, fun _ _ _ => rfl⟩

theorem trans (earlier : Since heap ground floor first second)
    (later : Since heap ground floor second third) : Since heap ground floor first third where
  accesses := by
    rcases earlier.accesses with ⟨old, oldHistory, oldWorks⟩
    rcases later.accesses with ⟨recent, recentHistory, recentWorks⟩
    refine ⟨recent ++ old, by rw [recentHistory, oldHistory, List.append_assoc], ?_⟩
    intro access member
    rcases List.mem_append.mp member with member | member
    · exact recentWorks access member
    · exact oldWorks access member
  bytes address inside below :=
    (later.bytes address inside below).trans (earlier.bytes address inside below)

/-- What holds in front of a place holds in front of an earlier one. -/
theorem mono (since : Since heap ground floor first second) (lowerGround : ground' ≤ ground)
    (lowerFloor : floor' ≤ floor) : Since heap ground' floor' first second where
  accesses := by
    rcases since.accesses with ⟨recent, history, works⟩
    refine ⟨recent, history, ?_⟩
    intro access member
    have works := works access member
    cases access with
    | write address bytes => exact Nat.le_trans lowerGround works
    | call name arguments found =>
      rcases works with ⟨request, name_eq, arguments_eq, allowed, places⟩
      exact ⟨request, name_eq, arguments_eq, allowed,
        fun place member => Nat.le_trans lowerGround (places place member)⟩
  bytes address inside below := since.bytes address inside (Nat.lt_of_lt_of_le below lowerFloor)

theorem request {request : Request} {answer : Option UInt32} (module_eq : first.module = module)
    (allowed : heap.Allows request first.snapshot) (done : request.Done answer first second)
    (places : ∀ place ∈ heap.allocatesFrom first.snapshot request, ground ≤ place)
    (below : floor ≤ heap.floor first.snapshot request) :
    Since heap ground floor first second where
  accesses := by
    refine ⟨[.call request.name request.arguments first.snapshot], done.history_eq, ?_⟩
    intro access member
    rw [List.mem_singleton.mp member]
    exact ⟨request, rfl, rfl, allowed, places⟩
  bytes address inside lower := by
    have answered := done.answered
    rw [module_eq] at answered
    exact heap.keepsBytes request first.snapshot answer second.snapshot address allowed answered
      inside (Nat.lt_of_lt_of_le lower below)

/-- One raw write. -/
theorem wrote (heap : Heap module) {address : Address} {bytes : Bytes}
    (wrote : Region.Wrote address bytes first second) (places : ground ≤ address.offset)
    (below : floor ≤ address.offset) :
    Since heap ground floor first second where
  accesses := by
    rcases wrote with ⟨pages, _, _, _, rfl⟩
    refine ⟨[.write address bytes], rfl, ?_⟩
    intro access member
    rw [List.mem_singleton.mp member]
    exact places
  bytes place _ lower := by
    rcases wrote with ⟨pages, _, _, _, rfl⟩
    exact Memory.byte_overwrite_of_lt _ _ _ _ address.inRange (Nat.lt_of_lt_of_le lower below)

end Since

namespace Level

variable {meaning : HeapMeaning heap semantics} {mark mark' : Nat}
variable {entries entries' : List (Entry δ)} {guest after : Instance σ}

theorem journal (level : Level meaning mark entries guest) (journal : Journal) :
    Level meaning mark entries { guest with journal } :=
  ⟨level.module_eq, level.open_eq, level.intact, level.above, level.bounded, level.holds⟩

theorem lower (level : Level meaning mark entries guest) (below : mark' ≤ mark)
    (above : heap.bottom ≤ mark') (kept : ∀ entry ∈ entries', entry ∈ entries)
    (bounded : ∀ entry ∈ entries', entry.bound ≤ mark') : Level meaning mark' entries' guest where
  module_eq := level.module_eq
  open_eq := level.open_eq
  intact := heap.lower _ _ _ level.intact below
  above := above
  bounded := bounded
  holds entry member := level.holds entry (kept entry member)

theorem answered {request : Request} {answer : Option UInt32}
    (level : Level meaning mark entries guest) (done : request.Done answer guest after) :
    request.Answered module guest.snapshot answer after.snapshot := by
  have answered := done.answered
  rw [level.module_eq] at answered
  exact answered

theorem effect {request : Request} {answer : Option UInt32}
    (level : Level meaning mark entries guest) (allowed : heap.Allows request guest.snapshot)
    (done : request.Done answer guest after) :
    heap.Effect guest.snapshot answer after.snapshot request :=
  (heap.answers request _ _ _ allowed (level.answered done)).2

/-- What lies below the place where a request works is still there. -/
theorem kept {request : Request} {answer : Option UInt32}
    (level : Level meaning mark entries guest) (allowed : heap.Allows request guest.snapshot)
    (done : request.Done answer guest after) (entry : Entry δ) (member : entry ∈ entries)
    (below : entry.bound ≤ heap.floor guest.snapshot request) :
    meaning.holds after.snapshot entry.bound entry.address entry.object :=
  meaning.keeps request _ _ _ _ _ _ allowed (level.answered done) below
    (level.holds entry member)

/-- What a request leaves is known as soon as what is listed is. -/
theorem next {request : Request} {answer : Option UInt32}
    (level : Level meaning mark entries guest) (allowed : heap.Allows request guest.snapshot)
    (done : request.Done answer guest after) (below : mark' ≤ heap.leaves after.snapshot request)
    (above : heap.bottom ≤ mark') (bounded : ∀ entry ∈ entries', entry.bound ≤ mark')
    (holds : ∀ entry ∈ entries',
      meaning.holds after.snapshot entry.bound entry.address entry.object) :
    Level meaning mark' entries' after where
  module_eq := done.module_eq.trans level.module_eq
  open_eq := done.open_eq
  intact := heap.lower _ _ _ (heap.answers request _ _ _ allowed (level.answered done)).1 below
  above := above
  bounded := bounded
  holds := holds

theorem allows (level : Level meaning mark entries guest) (request : Request)
    (rewinds : request.rewinds = true) (needs : heap.needs guest.snapshot request = mark)
    (listed : ∀ use ∈ request.uses, ∃ bound object,
      ⟨bound, use.1, object⟩ ∈ entries ∧ object.shape = use.2)
    (within : ∀ address, request = .setHeapPointer address → heap.bottom ≤ address.toNat)
    (input : ∀ entrypoint data input length start,
      request = .evaluate entrypoint data input length start →
        input.toNat + length.toNat ≤ start.toNat) :
    heap.Allows request guest.snapshot where
  rewinds := rewinds
  intact := by
    rw [needs]
    exact level.intact
  uses use member := by
    rcases listed use member with ⟨bound, object, entered, shaped⟩
    refine ⟨bound, ?_, ?_⟩
    · rw [needs]
      exact level.bounded _ entered
    · rw [← shaped]
      exact meaning.shaped _ _ _ _ (level.holds _ entered)
  within := within
  input := input

end Level

/-- Scratch was allocated: the heap pointer moved up, and nothing happened
below it. -/
def Grew (heap : Heap module) (before after : Instance σ) : Prop :=
  heap.top before.snapshot ≤ heap.top after.snapshot ∧
    Since heap (heap.top before.snapshot) (heap.top before.snapshot) before after

namespace Grew

variable {first second third : Instance σ}

theorem trans (earlier : Grew heap first second) (later : Grew heap second third) :
    Grew heap first third :=
  ⟨Nat.le_trans earlier.1 later.1, earlier.2.trans (later.2.mono earlier.1 earlier.1)⟩

end Grew

theorem Request.exported_heap (equipped : Discipline.heapRewind.Equips module)
    (request : Request) (rewinds : request.rewinds = true) :
    module.hasFunction request.name = true := by
  apply equipped
  cases request with
  | free => cases rewinds
  | _ => simp [Request.name, Discipline.requiredExports, Discipline.contextExports]

namespace Level

variable {meaning : HeapMeaning heap semantics} {mark : Nat} {entries : List (Entry δ)}
variable {guest : Instance σ}

/-- An allowed request is answered and does what is said of the heap, or the
guest is lost. -/
theorem call_ends (equipped : Discipline.heapRewind.Equips module) (request : Request)
    (arguments : List Int) (words : arguments.map UInt32.ofInt = request.arguments)
    (level : Level meaning mark entries guest) (allowed : heap.Allows request guest.snapshot) :
    Operation.Ends (Instance.callVoid request.name arguments) guest
      (fun _ after => ∃ answer, request.Done answer guest after ∧
        heap.Effect guest.snapshot answer after.snapshot request)
      (fun _ after => after.trapped = true) := by
  refine (Request.call_ends request guest arguments words ?_ level.open_eq).mono ?_
    (fun _ _ closed => closed)
  · rw [level.module_eq]
    exact Request.exported_heap equipped request allowed.rewinds
  · rintro _ after ⟨answer, done⟩
    exact ⟨answer, done, level.effect allowed done⟩

theorem callWord_ends (equipped : Discipline.heapRewind.Equips module) (request : Request)
    (arguments : List Int) (words : arguments.map UInt32.ofInt = request.arguments)
    (level : Level meaning mark entries guest) (allowed : heap.Allows request guest.snapshot)
    (replies : request.replies = true) :
    Operation.Ends (Instance.callWord request.name arguments) guest
      (fun word after => request.Done (some word) guest after ∧
        heap.Effect guest.snapshot (some word) after.snapshot request)
      (fun _ after => after.trapped = true) := by
  refine (Request.callWord_ends request guest arguments words ?_ level.open_eq ?_).mono ?_
    (fun _ _ closed => closed)
  · rw [level.module_eq]
    exact Request.exported_heap equipped request allowed.rewinds
  · intro answer after answered
    rw [level.module_eq] at answered
    exact heap.effect_isSome replies (heap.answers request _ _ _ allowed answered).2
  · intro word after done
    exact ⟨done, level.effect allowed done⟩

theorem callAddress_ends (equipped : Discipline.heapRewind.Equips module) (request : Request)
    (arguments : List Int) (words : arguments.map UInt32.ofInt = request.arguments)
    (level : Level meaning mark entries guest) (allowed : heap.Allows request guest.snapshot)
    (replies : request.replies = true) :
    Operation.Ends (Instance.callAddress request.name arguments) guest
      (fun address after => request.Done (some address.toWord) guest after ∧
        heap.Effect guest.snapshot (some address.toWord) after.snapshot request)
      (fun _ after => after.trapped = true) :=
  Instance.callAddress_of_word (level.callWord_ends equipped request arguments words allowed replies)

end Level

namespace Settled

variable {meaning : HeapMeaning heap semantics} {entries : List (Entry δ)}
variable {guest after : Instance σ}

theorem allows (settled : Settled meaning entries guest) (request : Request)
    (works : request.atPointer = true)
    (listed : ∀ use ∈ request.uses, ∃ bound object,
      ⟨bound, use.1, object⟩ ∈ entries ∧ object.shape = use.2) :
    heap.Allows request guest.snapshot := by
  have bounds : request.rewinds = true ∧
      heap.needs guest.snapshot request = heap.top guest.snapshot := by
    cases request with
    | free | setHeapPointer | evaluate => cases works
    | _ => exact ⟨rfl, rfl⟩
  refine Level.allows settled request bounds.1 bounds.2 listed ?_ ?_
  · rintro address rfl
    cases works
  · rintro entrypoint data input length start rfl
    cases works

theorem sublist {entries' : List (Entry δ)} (settled : Settled meaning entries guest)
    (fewer : entries'.Sublist entries) : Settled meaning entries' guest :=
  settled.lower (Nat.le_refl _) settled.above (fun _ member => fewer.subset member)
    (fun entry member => settled.bounded entry (fewer.subset member))

/-- A request that works at the heap pointer leaves everything there, and
adds what it is known to add. -/
theorem grows {request : Request} {answer : Option UInt32}
    (settled : Settled meaning entries guest) (added : List (Entry δ))
    (allowed : heap.Allows request guest.snapshot) (done : request.Done answer guest after)
    (floor : heap.floor guest.snapshot request = heap.top guest.snapshot)
    (leaves : heap.leaves after.snapshot request = heap.top after.snapshot)
    (places : ∀ place ∈ heap.allocatesFrom guest.snapshot request,
      heap.top guest.snapshot ≤ place)
    (grew : heap.top guest.snapshot ≤ heap.top after.snapshot)
    (bounded : ∀ entry ∈ added, entry.bound ≤ heap.top after.snapshot)
    (holds : ∀ entry ∈ added,
      meaning.holds after.snapshot entry.bound entry.address entry.object) :
    Settled meaning (added ++ entries) after ∧ Grew heap guest after := by
  refine ⟨Level.next settled allowed done (Nat.le_of_eq leaves.symm)
    (Nat.le_trans settled.above grew) ?_ ?_, grew, Since.request settled.module_eq allowed done
    places (Nat.le_of_eq floor.symm)⟩
  · intro entry member
    rcases List.mem_append.mp member with member | member
    · exact bounded entry member
    · exact Nat.le_trans (settled.bounded entry member) grew
  · intro entry member
    rcases List.mem_append.mp member with member | member
    · exact holds entry member
    · exact settled.kept allowed done entry member (by
        rw [floor]
        exact settled.bounded entry member)

/-- A request that adds nothing that is listed. -/
theorem stays {request : Request} {answer : Option UInt32}
    (settled : Settled meaning entries guest) (allowed : heap.Allows request guest.snapshot)
    (done : request.Done answer guest after)
    (floor : heap.floor guest.snapshot request = heap.top guest.snapshot)
    (leaves : heap.leaves after.snapshot request = heap.top after.snapshot)
    (places : ∀ place ∈ heap.allocatesFrom guest.snapshot request,
      heap.top guest.snapshot ≤ place)
    (grew : heap.top guest.snapshot ≤ heap.top after.snapshot) :
    Settled meaning entries after ∧ Grew heap guest after :=
  settled.grows [] allowed done floor leaves places grew (fun _ member => nomatch member)
    (fun _ member => nomatch member)

/-- A request that adds a thing below the heap pointer. -/
theorem gains {request : Request} {answer : Option UInt32}
    (settled : Settled meaning entries guest) (address : UInt32) (object : Object δ)
    (allowed : heap.Allows request guest.snapshot) (done : request.Done answer guest after)
    (floor : heap.floor guest.snapshot request = heap.top guest.snapshot)
    (leaves : heap.leaves after.snapshot request = heap.top after.snapshot)
    (places : ∀ place ∈ heap.allocatesFrom guest.snapshot request,
      heap.top guest.snapshot ≤ place)
    (grew : heap.top guest.snapshot ≤ heap.top after.snapshot)
    (held : meaning.holds after.snapshot (heap.top after.snapshot) address object) :
    Settled meaning (⟨heap.top after.snapshot, address, object⟩ :: entries) after ∧
      Grew heap guest after := by
  refine settled.grows [⟨heap.top after.snapshot, address, object⟩] allowed done floor leaves
    places grew ?_ ?_
  · intro entry member
    exact Nat.le_of_eq (by rw [List.mem_singleton.mp member])
  · intro entry member
    rw [List.mem_singleton.mp member]
    exact held

end Settled
end PolicyHost
