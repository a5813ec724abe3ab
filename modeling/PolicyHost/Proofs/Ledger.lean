import PolicyHost.Proofs.Accounts

namespace PolicyHost

/-!
# The ledger of a host under the explicit discipline

The host owns some of the live blocks: buffers that it is filling, documents
that it installed, the record of an open context.  `Tally` lists them with
what they hold, and says that the live blocks are exactly these and the ones
the guest had to begin with, each once.  A ledger is changed by what requests
do: a block handed out is entered, a freed one is struck out, and that no
block is entered twice is why the right one is struck out.

The operations on documents are specified by the ledger before and after.
-/

variable {σ δ : Type} {module : Module σ} {accounts : Accounts module}
variable {semantics : Semantics δ}

/-- The live blocks are those of `base` and of the ledger, and each block of
the ledger holds what is listed.  Every access so far was lawful. -/
structure Tally (meaning : Meaning accounts semantics) (base : Finset UInt32)
    (ledger : List (UInt32 × Object δ)) (guest : Instance σ) : Prop where
  module_eq : guest.module = module
  open_eq : guest.trapped = false
  sound : accounts.sound guest.snapshot
  live_eq : (accounts.live guest.snapshot).val =
    base.val + Multiset.ofList (ledger.map Prod.fst)
  holds : ∀ entry ∈ ledger, meaning.holds guest.snapshot entry.1 entry.2
  lawful : ∀ access ∈ guest.history, accounts.Lawful access

namespace Tally

variable {meaning : Meaning accounts semantics} {base : Finset UInt32}
variable {ledger rest : List (UInt32 × Object δ)} {guest after : Instance σ}
variable {block : UInt32} {object : Object δ}

theorem live (tally : Tally meaning base ledger guest) (entry : UInt32 × Object δ)
    (member : entry ∈ ledger) : entry.1 ∈ accounts.live guest.snapshot := by
  rw [← Finset.mem_val, tally.live_eq, Multiset.mem_add]
  exact Or.inr (List.mem_map_of_mem member)

theorem nodup (tally : Tally meaning base ledger guest) : (ledger.map Prod.fst).Nodup := by
  have distinct := (accounts.live guest.snapshot).nodup
  rw [tally.live_eq] at distinct
  exact (Multiset.nodup_add.mp distinct).2.1

theorem shape (tally : Tally meaning base ledger guest) (entry : UInt32 × Object δ)
    (member : entry ∈ ledger) : accounts.shape guest.snapshot entry.1 = entry.2.shape :=
  meaning.shaped _ _ _ (tally.holds entry member)

theorem allows (tally : Tally meaning base ledger guest) (request : Request)
    (releases : request.releases = true) (keeps : request.frees = false)
    (listed : ∀ use ∈ request.uses, ∃ object, (use.1, object) ∈ ledger ∧ object.shape = use.2) :
    accounts.Allows request guest.snapshot := by
  refine accounts.allows_used request _ releases keeps ?_
  intro use member
  rcases listed use member with ⟨object, entered, shaped⟩
  exact ⟨tally.live _ entered, (tally.shape _ entered).trans shaped⟩

/-- The order of a ledger does not matter. -/
theorem perm {ledger' : List (UInt32 × Object δ)} (tally : Tally meaning base ledger guest)
    (same : ledger.Perm ledger') : Tally meaning base ledger' guest where
  module_eq := tally.module_eq
  open_eq := tally.open_eq
  sound := tally.sound
  live_eq := by rw [tally.live_eq, Multiset.coe_eq_coe.mpr (same.map Prod.fst)]
  holds entry member := tally.holds entry (same.mem_iff.mpr member)
  lawful := tally.lawful

theorem journal (tally : Tally meaning base ledger guest) (journal : Journal) :
    Tally meaning base ledger { guest with journal } :=
  ⟨tally.module_eq, tally.open_eq, tally.sound, tally.live_eq, tally.holds, tally.lawful⟩

/-- What a request leaves is known as soon as the live blocks and what the
ledger lists are. -/
theorem next {ledger' : List (UInt32 × Object δ)} {request : Request} {answer : Option UInt32}
    (tally : Tally meaning base ledger guest)
    (allowed : accounts.Allows request guest.snapshot) (done : request.Done answer guest after)
    (live_eq : (accounts.live after.snapshot).val =
      base.val + Multiset.ofList (ledger'.map Prod.fst))
    (holds : ∀ entry ∈ ledger', meaning.holds after.snapshot entry.1 entry.2) :
    Tally meaning base ledger' after where
  module_eq := done.module_eq.trans tally.module_eq
  open_eq := done.open_eq
  sound := by
    have answered := done.answered
    rw [tally.module_eq] at answered
    exact (accounts.answers request _ _ _ tally.sound allowed answered).1
  live_eq := live_eq
  holds := holds
  lawful access member := by
    rw [done.history_eq] at member
    rcases List.mem_cons.mp member with rfl | earlier
    · exact Or.inr ⟨request, rfl, rfl, allowed⟩
    · exact tally.lawful access earlier

theorem answered {request : Request} {answer : Option UInt32}
    (tally : Tally meaning base ledger guest) (done : request.Done answer guest after) :
    request.Answered module guest.snapshot answer after.snapshot := by
  have answered := done.answered
  rw [tally.module_eq] at answered
  exact answered

theorem effect {request : Request} {answer : Option UInt32}
    (tally : Tally meaning base ledger guest)
    (allowed : accounts.Allows request guest.snapshot) (done : request.Done answer guest after) :
    accounts.Effect guest.snapshot answer after.snapshot request :=
  (accounts.answers request _ _ _ tally.sound allowed (tally.answered done)).2

/-- A request leaves the entries alone that it does not touch. -/
theorem kept {request : Request} {answer : Option UInt32}
    (tally : Tally meaning base ledger guest)
    (allowed : accounts.Allows request guest.snapshot) (done : request.Done answer guest after)
    (entry : UInt32 × Object δ) (member : entry ∈ ledger)
    (untouched : request.touched ≠ some entry.1) :
    meaning.holds after.snapshot entry.1 entry.2 :=
  meaning.keeps request _ _ _ _ _ tally.sound allowed (tally.answered done)
    (tally.live entry member) untouched (tally.holds entry member)

/-- The other entries are not touched by a request for the first one. -/
theorem kept_rest {request : Request} {answer : Option UInt32}
    (tally : Tally meaning base ((block, object) :: rest) guest)
    (allowed : accounts.Allows request guest.snapshot) (done : request.Done answer guest after)
    (touched : request.touched = some block) (entry : UInt32 × Object δ)
    (member : entry ∈ rest) : meaning.holds after.snapshot entry.1 entry.2 := by
  refine tally.kept allowed done entry (List.mem_cons_of_mem _ member) ?_
  rw [touched]
  intro same
  have distinct := (List.nodup_cons.mp tally.nodup).1
  exact distinct (List.mem_map.mpr ⟨entry, member, (Option.some.inj same).symm⟩)

theorem keeps {request : Request} {answer : Option UInt32}
    (tally : Tally meaning base ledger guest)
    (allowed : accounts.Allows request guest.snapshot) (done : request.Done answer guest after)
    (untouched : request.touched = none)
    (same : accounts.live after.snapshot = accounts.live guest.snapshot) :
    Tally meaning base ledger after := by
  refine tally.next allowed done (by rw [same, tally.live_eq]) ?_
  intro entry member
  exact tally.kept allowed done entry member (by rw [untouched]; exact fun h => nomatch h)

theorem gains {request : Request} {answer : Option UInt32}
    (tally : Tally meaning base ledger guest)
    (allowed : accounts.Allows request guest.snapshot) (done : request.Done answer guest after)
    (untouched : request.touched = none)
    {shape : Shape} (gained : accounts.Gains block shape guest.snapshot after.snapshot)
    (held : meaning.holds after.snapshot block object) :
    Tally meaning base ((block, object) :: ledger) after := by
  refine tally.next allowed done ?_ ?_
  · rw [gained.2.1, Finset.insert_val_of_notMem gained.1, tally.live_eq, List.map_cons,
      ← Multiset.cons_coe, Multiset.add_cons]
  · intro entry member
    rcases List.mem_cons.mp member with rfl | old
    · exact held
    · exact tally.kept allowed done entry old (by rw [untouched]; exact fun h => nomatch h)

theorem changes {object' : Object δ} {request : Request} {answer : Option UInt32}
    (tally : Tally meaning base ((block, object) :: rest) guest)
    (allowed : accounts.Allows request guest.snapshot) (done : request.Done answer guest after)
    (touched : request.touched = some block)
    (same : accounts.live after.snapshot = accounts.live guest.snapshot)
    (held : meaning.holds after.snapshot block object') :
    Tally meaning base ((block, object') :: rest) after := by
  refine tally.next allowed done (by rw [same, tally.live_eq]; rfl) ?_
  intro entry member
  rcases List.mem_cons.mp member with rfl | old
  · exact held
  · exact tally.kept_rest allowed done touched entry old

/-- A run in the first block's record hands out its result. -/
theorem runs {slots : Slots} {set : δ} {fresh : UInt32} {request : Request}
    {answer : Option UInt32} (tally : Tally meaning base ((block, object) :: rest) guest)
    (allowed : accounts.Allows request guest.snapshot) (done : request.Done answer guest after)
    (touched : request.touched = some block)
    (gained : accounts.Gains fresh .document guest.snapshot after.snapshot)
    (held : meaning.holds after.snapshot fresh (.document set))
    (record : meaning.holds after.snapshot block (.record slots)) :
    Tally meaning base ((fresh, .document set) :: (block, .record slots) :: rest) after := by
  refine tally.next allowed done ?_ ?_
  · rw [gained.2.1, Finset.insert_val_of_notMem gained.1, tally.live_eq]
    simp only [List.map_cons, ← Multiset.cons_coe, Multiset.add_cons]
  · intro entry member
    rcases List.mem_cons.mp member with rfl | member
    · exact held
    · rcases List.mem_cons.mp member with rfl | old
      · exact record
      · exact tally.kept_rest allowed done touched entry old

theorem allows_free (tally : Tally meaning base ((block, object) :: rest) guest) :
    accounts.Allows (.free block) guest.snapshot := by
  refine ⟨rfl, ?_, fun _ member => nomatch member⟩
  intro freed same
  cases same
  exact tally.live _ (List.mem_cons_self ..)

theorem frees {answer : Option UInt32}
    (tally : Tally meaning base ((block, object) :: rest) guest)
    (done : (Request.free block).Done answer guest after) : Tally meaning base rest after := by
  have allowed := tally.allows_free
  have erased : accounts.live after.snapshot = (accounts.live guest.snapshot).erase block :=
    tally.effect allowed done
  refine tally.next allowed done ?_ (fun entry member =>
    tally.kept_rest allowed done rfl entry member)
  rw [erased, Finset.erase_val, tally.live_eq, List.map_cons, ← Multiset.cons_coe,
    Multiset.add_cons, Multiset.erase_cons_head]

theorem forgets (tally : Tally meaning base ((block, object) :: rest) guest) :
    Tally meaning (insert block base) rest guest where
  module_eq := tally.module_eq
  open_eq := tally.open_eq
  sound := tally.sound
  live_eq := by
    have distinct := (accounts.live guest.snapshot).nodup
    rw [tally.live_eq] at distinct
    have other : block ∉ base := fun member =>
      Multiset.disjoint_left.mp (Multiset.nodup_add.mp distinct).2.2 member
        (Multiset.mem_coe.mpr (List.mem_cons_self ..))
    rw [Finset.insert_val_of_notMem other, tally.live_eq, List.map_cons, ← Multiset.cons_coe,
      Multiset.add_cons, Multiset.cons_add]
  holds entry member := tally.holds entry (List.mem_cons_of_mem _ member)
  lawful := tally.lawful

/-- The host fills a block that it was just handed. -/
theorem fills {size : UInt32} {address : Address} {bytes : Bytes} {middle : Instance σ}
    (tally : Tally meaning base ledger guest)
    (done : (Request.malloc size).Done (some address.toWord) guest middle)
    (filled : Tally meaning base ((address.toWord, .text) :: ledger) middle)
    (length : bytes.length = size.toNat) (wrote : Region.Wrote address bytes middle after) :
    Tally meaning base ((address.toWord, .text) :: ledger) after := by
  rcases wrote.bounded (accounts.bounded _ filled.sound) with ⟨pages, more, bounded, room, rfl⟩
  have inside : address.toWord.toNat + bytes.length ≤ pages * pageSize := by
    rw [Address.toWord_toNat]
    exact room
  have answered := tally.answered done
  have law := accounts.fills size _ _ _ pages bytes tally.sound answered length more bounded inside
  rw [Address.toWord_toNat] at law
  refine ⟨filled.module_eq, filled.open_eq, law.1, ?_, ?_, ?_⟩
  · exact (congrArg Finset.val law.2.1).trans filled.live_eq
  · intro entry member
    by_cases same : entry.1 = address.toWord
    · rcases List.mem_cons.mp member with rfl | old
      · have text := law.2.2 _ (filled.live _ (List.mem_cons_self ..))
        rw [filled.shape _ (List.mem_cons_self ..)] at text
        exact meaning.texts _ _ text
      · have distinct := (List.nodup_cons.mp filled.nodup).1
        exact absurd (List.mem_map.mpr ⟨entry, old, same⟩) distinct
    · have kept := meaning.fills size _ _ _ pages bytes entry.1 entry.2 tally.sound answered length
        more bounded inside (filled.live entry member) same (filled.holds entry member)
      rw [Address.toWord_toNat] at kept
      exact kept
  · intro access member
    rcases List.mem_cons.mp member with rfl | earlier
    · trivial
    · exact filled.lawful access earlier

end Tally

theorem Request.exported (equipped : Discipline.explicitFree.Equips module) (request : Request)
    (releases : request.releases = true) : module.hasFunction request.name = true := by
  apply equipped
  cases request with
  | heapPointer => cases releases
  | setHeapPointer => cases releases
  | evaluate => cases releases
  | _ => simp [Request.name, Discipline.requiredExports, Discipline.contextExports]

namespace Tally

variable {meaning : Meaning accounts semantics} {base : Finset UInt32}
variable {ledger : List (UInt32 × Object δ)} {guest : Instance σ}

/-- An allowed request is answered and does what the accounts say, or the
guest is lost. -/
theorem call_ends (equipped : Discipline.explicitFree.Equips module) (request : Request)
    (arguments : List Int) (words : arguments.map UInt32.ofInt = request.arguments)
    (tally : Tally meaning base ledger guest) (allowed : accounts.Allows request guest.snapshot) :
    Operation.Ends (Instance.callVoid request.name arguments) guest
      (fun _ after => ∃ answer, request.Done answer guest after ∧
        accounts.Effect guest.snapshot answer after.snapshot request)
      (fun _ after => after.trapped = true) := by
  refine (Request.call_ends request guest arguments words ?_ tally.open_eq).mono ?_
    (fun _ _ closed => closed)
  · rw [tally.module_eq]
    exact Request.exported equipped request allowed.1
  · rintro _ after ⟨answer, done⟩
    exact ⟨answer, done, tally.effect allowed done⟩

theorem callWord_ends (equipped : Discipline.explicitFree.Equips module) (request : Request)
    (arguments : List Int) (words : arguments.map UInt32.ofInt = request.arguments)
    (tally : Tally meaning base ledger guest) (allowed : accounts.Allows request guest.snapshot)
    (replies : request.replies = true) :
    Operation.Ends (Instance.callWord request.name arguments) guest
      (fun word after => request.Done (some word) guest after ∧
        accounts.Effect guest.snapshot (some word) after.snapshot request)
      (fun _ after => after.trapped = true) := by
  refine (Request.callWord_ends request guest arguments words ?_ tally.open_eq ?_).mono ?_
    (fun _ _ closed => closed)
  · rw [tally.module_eq]
    exact Request.exported equipped request allowed.1
  · intro answer after answered
    rw [tally.module_eq] at answered
    exact accounts.effect_isSome allowed.1 replies
      (accounts.answers request _ _ _ tally.sound allowed answered).2
  · intro word after done
    exact ⟨done, tally.effect allowed done⟩

theorem callAddress_ends (equipped : Discipline.explicitFree.Equips module) (request : Request)
    (arguments : List Int) (words : arguments.map UInt32.ofInt = request.arguments)
    (tally : Tally meaning base ledger guest) (allowed : accounts.Allows request guest.snapshot)
    (replies : request.replies = true) :
    Operation.Ends (Instance.callAddress request.name arguments) guest
      (fun address after => request.Done (some address.toWord) guest after ∧
        accounts.Effect guest.snapshot (some address.toWord) after.snapshot request)
      (fun _ after => after.trapped = true) :=
  Instance.callAddress_of_word (tally.callWord_ends equipped request arguments words allowed replies)

end Tally

namespace ExplicitFree

variable {meaning : Meaning accounts semantics} {base : Finset UInt32}
variable {ledger rest : List (UInt32 × Object δ)} {guest : Instance σ}

/-- The ledger is in order, but blocks that nobody frees any more may have come
to those the guest had to begin with. -/
def Strays (meaning : Meaning accounts semantics) (ledger : List (UInt32 × Object δ))
    (after : Instance σ) : Prop :=
  ∃ base, Tally meaning base ledger after

/-- How an operation fails that leaves the ledger in order, unless the guest
is lost.  A buffer for which memory was refused stays behind. -/
def Fails (meaning : Meaning accounts semantics) (ledger : List (UInt32 × Object δ))
    (kept : Fault → Instance σ → Prop) (fault : Fault) (after : Instance σ) : Prop :=
  after.trapped = true ∨ (fault.isA .guestMemory = true ∧ Strays meaning ledger after) ∨
    kept fault after

/-- Freeing the first block of the ledger strikes it out. -/
theorem free_ends (equipped : Discipline.explicitFree.Equips module) (terms : Region.Terms)
    (releases : terms.rewinds = false) (address : Address) (object : Object δ)
    (tally : Tally meaning base ((address.toWord, object) :: rest) guest) :
    Operation.Ends (Region.free terms address) guest (fun _ after => Tally meaning base rest after)
      (fun _ after => after.trapped = true) := by
  rw [Region.free_eq terms address releases]
  refine (tally.call_ends equipped (.free address.toWord) [address.offset] (by simp; rfl)
    tally.allows_free).mono ?_ (fun _ _ closed => closed)
  rintro _ after ⟨answer, done, _⟩
  exact tally.frees done

theorem allocate_ends (equipped : Discipline.explicitFree.Equips module) (request : Request)
    (arguments : List Int) (words : arguments.map UInt32.ofInt = request.arguments)
    (tally : Tally meaning base ledger guest) (allowed : accounts.Allows request guest.snapshot)
    (replies : request.replies = true) (untouched : request.touched = none) (object : Object δ)
    (allocates : ∀ answer after, accounts.Effect guest.snapshot answer after request →
      ∃ block, answer = some block ∧ accounts.Gains block object.shape guest.snapshot after)
    (held : ∀ block after, request.Answered module guest.snapshot (some block) after →
      accounts.shape after block = object.shape → meaning.holds after block object) :
    Operation.Ends (Instance.callAddress request.name arguments) guest
      (fun address after => request.Done (some address.toWord) guest after ∧
        Tally meaning base ((address.toWord, object) :: ledger) after)
      (fun _ after => after.trapped = true) := by
  refine (tally.callAddress_ends equipped request arguments words allowed replies).mono ?_
    (fun _ _ closed => closed)
  rintro address after ⟨done, effect⟩
  rcases allocates _ _ effect with ⟨block, same, gained⟩
  cases same
  exact ⟨done, tally.gains allowed done untouched gained
    (held _ _ (tally.answered done) gained.2.2)⟩

/-- A buffer is handed out and filled, unless the memory for it is refused. -/
theorem place_ends (equipped : Discipline.explicitFree.Equips module) (terms : Region.Terms)
    (raw : Bytes) (nonempty : raw ≠ []) (tally : Tally meaning base ledger guest) :
    Operation.Ends (Region.place terms raw) guest
      (fun text after => Tally meaning base ((text.toWord, .text) :: ledger) after ∧
        after.memory.bytes text.offset raw.length = raw ∧ raw.length < 2 ^ 32)
      (fun fault after => after.trapped = true ∨
        (fault.isA .guestMemory = true ∧ Strays meaning ledger after)) := by
  let size := UInt32.ofInt raw.length
  have handed := allocate_ends equipped (.malloc size) [raw.length] rfl tally
    (accounts.allows_unused _ _ rfl rfl rfl) rfl rfl .text
    (fun _ _ effect => effect) (fun _ _ _ shaped => meaning.texts _ _ shaped)
  rw [Region.place, Operation.ends_bind, Region.allocate, Operation.ends_bind]
  refine handed.mono ?_ (fun _ _ closed => Or.inl closed)
  rintro address middle ⟨done, handed⟩
  rw [Operation.ends_pure, Operation.ends_bind]
  dsimp only
  rw [Region.writeView_eq]
  refine (Region.write_ends terms address raw middle nonempty).mono ?_ ?_
  case refine_2 =>
    rintro fault _ ⟨refused, rfl⟩
    exact Or.inr ⟨refused, _, handed.forgets⟩
  intro _ after wrote
  have positive : address.offset ≠ 0 := by
    apply address.offset_ne_zero
    intro null
    exact accounts.nonnull _ handed.sound (null ▸ handed.live _ (List.mem_cons_self ..))
  have stored := wrote.stored (accounts.bounded _ handed.sound)
  have small : raw.length < 2 ^ 32 := by omega
  exact ⟨tally.fills done handed (toNat_ofInt raw.length small).symm wrote, stored.2, small⟩

/-- A text is parsed into a document that is entered, or it is rejected and
nothing is left of it. -/
theorem writeEncoded_ends (equipped : Discipline.explicitFree.Equips module)
    (terms : Region.Terms) (releases : terms.rewinds = false) (raw : Bytes) (nonempty : raw ≠ [])
    (tally : Tally meaning base ledger guest) :
    Operation.Ends (Exchange.writeEncoded terms raw) guest
      (fun document after => ∃ d, semantics.parses raw (some d) ∧
        Tally meaning base ((document.toWord, .document d) :: ledger) after)
      (Fails meaning ledger fun fault after =>
        semantics.Rejects raw fault ∧ Tally meaning base ledger after) := by
  rw [Exchange.writeEncoded, Operation.ends_bind]
  refine (place_ends equipped terms raw nonempty tally).mono ?_
    (fun _ _ failed => failed.imp_right Or.inl)
  rintro text filled ⟨tally, stored, length⟩
  have allowed : accounts.Allows (.parse text.toWord (UInt32.ofInt raw.length))
      filled.snapshot := by
    refine tally.allows _ rfl rfl ?_
    intro use member
    rw [List.mem_singleton.mp member]
    exact ⟨.text, List.mem_cons_self .., rfl⟩
  rw [Operation.ends_bind]
  refine (tally.callWord_ends equipped (.parse text.toWord (UInt32.ofInt raw.length)) _
    (Request.parse_arguments text raw.length) allowed rfl).mono ?_ (fun _ _ closed => Or.inl closed)
  rintro document parsed ⟨done, _, same, nothing, gained⟩
  cases same
  have read := filled.snapshot.memory.bytes_of_words text length stored
  have meant := meaning.parses _ _ _ _ _ tally.sound allowed (tally.answered done)
  rw [read] at meant
  rw [Operation.ends_bind]
  by_cases rejected : document = 0
  · have unchanged := tally.keeps allowed done rfl (nothing rejected)
    refine (free_ends equipped terms releases text .text unchanged).mono ?_
      (fun _ _ closed => Or.inl closed)
    intro _ after tally
    rw [if_pos rejected, Operation.ends_bind]
    exact Or.inr (Or.inr ⟨⟨meant.1 rejected, rfl⟩, tally⟩)
  · rcases meant.2 rejected with ⟨d, accepted, held⟩
    have entered := tally.gains allowed done rfl (gained rejected) held
    refine (free_ends equipped terms releases text .text
      (entered.perm (List.Perm.swap ..))).mono ?_ (fun _ _ closed => Or.inl closed)
    intro _ after tally
    rw [if_neg rejected]
    refine ⟨d, accepted, ?_⟩
    rw [Address.toWord_ofWord]
    exact tally

theorem readRaw_ends (equipped : Discipline.explicitFree.Equips module) (terms : Region.Terms)
    (releases : terms.rewinds = false) (document : Address) (d : δ)
    (tally : Tally meaning base ledger guest)
    (listed : (document.toWord, Object.document d) ∈ ledger) :
    Operation.Ends (Exchange.readRaw terms document) guest
      (fun raw after => semantics.dumps d (some raw) ∧ Tally meaning base ledger after)
      (fun fault after => after.trapped = true ∨
        (semantics.dumps d none ∧
          (∃ text, fault = .report (Exchange.unread text)) ∧
          Tally meaning base ledger after)) := by
  have allowed : accounts.Allows (.dump document.toWord) guest.snapshot := by
    refine tally.allows _ rfl rfl ?_
    intro use member
    rw [List.mem_singleton.mp member]
    exact ⟨_, listed, rfl⟩
  rw [Exchange.readRaw, Operation.ends_bind]
  refine (allocate_ends equipped (.dump document.toWord) _ (Request.dump_arguments document) tally
    allowed rfl rfl .text (fun _ _ effect => effect)
    (fun _ _ _ shaped => meaning.texts _ _ shaped)).mono ?_ (fun _ _ closed => Or.inl closed)
  rintro text dumped ⟨done, entered⟩
  have meant : semantics.dumps d (dumped.memory.untilZero text.offset) := by
    have law := meaning.dumps _ _ _ _ _ tally.sound allowed (tally.answered done)
      (tally.holds _ listed)
    rw [Address.toWord_toNat] at law
    exact law
  rw [Operation.ends_bind, Operation.ends_ensuring]
  change Operation.Ends (Region.free terms text) dumped _ _
  refine (free_ends equipped terms releases text .text entered).mono ?_
    (fun _ _ closed => Or.inl closed)
  intro _ after tally
  cases read : dumped.memory.untilZero text.offset with
  | some raw =>
    rw [read] at meant
    exact ⟨meant, tally⟩
  | none =>
    rw [read] at meant
    exact Or.inr ⟨meant, ⟨text, rfl⟩, tally⟩

end ExplicitFree
end PolicyHost
