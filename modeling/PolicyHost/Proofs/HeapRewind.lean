import PolicyHost.Proofs.Level

namespace PolicyHost
namespace HeapRewind

/-!
# The rewinding discipline, operation by operation

What each operation of the discipline does to the heap.  Everything is done at
the heap pointer or, for the input of a single evaluation, at the mark behind
the dataset, and each operation says where the pointer is when it is done,
whether it returned or failed.
-/

variable {σ δ : Type} {module : Module σ} {heap : Heap module} {semantics : Semantics δ}
variable {meaning : HeapMeaning heap semantics} {mark : Nat}
variable {entries entries' : List (Entry δ)} {guest : Instance σ}

/-- The heap pointer is back at a mark, below which everything listed lies.
Since an earlier time nothing was placed in front of `ground`, and nothing was
changed in front of `floor`. -/
structure Rewound (meaning : HeapMeaning heap semantics) (mark ground floor : Nat)
    (entries : List (Entry δ)) (before after : Instance σ) : Prop where
  level : Level meaning mark entries after
  top_eq : heap.top after.snapshot = mark
  since : Since heap ground floor before after

/-- The guest can allocate from where it was rewound to. -/
theorem Rewound.settled {ground floor : Nat} {before after : Instance σ}
    (rewound : Rewound meaning mark ground floor entries before after) :
    Settled meaning entries after := by
  unfold Settled
  rw [rewound.top_eq]
  exact rewound.level

/-- What is placed from there on lies above the mark. -/
theorem Rewound.grown {before after last : Instance σ}
    (rewound : Rewound meaning mark mark mark entries before after) (grew : Grew heap after last) :
    mark ≤ heap.top last.snapshot ∧ Since heap mark mark before last := by
  have above := grew.1
  have since := grew.2
  rw [rewound.top_eq] at above since
  exact ⟨above, rewound.since.trans since⟩

theorem setHeapPointer_ends (equipped : Discipline.heapRewind.Equips module) (address : Address)
    (ground : Nat) (entries' : List (Entry δ)) (level : Level meaning mark entries guest)
    (below : address.offset ≤ mark) (above : heap.bottom ≤ address.offset)
    (kept : ∀ entry ∈ entries', entry ∈ entries)
    (bounded : ∀ entry ∈ entries', entry.bound ≤ address.offset) :
    Operation.Ends (Region.setHeapPointer address) guest
      (fun _ after => Rewound meaning address.offset ground address.offset entries' guest after)
      (fun _ after => after.trapped = true) := by
  have lowered : Level meaning address.offset entries' guest :=
    level.lower below above kept bounded
  have allowed : heap.Allows (.setHeapPointer address.toWord) guest.snapshot := by
    refine lowered.allows _ rfl (Address.toWord_toNat address) (fun _ member => nomatch member) ?_
      (fun _ _ _ _ _ same => nomatch same)
    intro other same
    cases same
    rw [Address.toWord_toNat]
    exact above
  refine (lowered.call_ends equipped (.setHeapPointer address.toWord) [address.offset]
    (by simp; rfl) allowed).mono ?_ (fun _ _ closed => closed)
  rintro _ after ⟨answer, done, moved⟩
  have atAddress : address.offset ≤ address.toWord.toNat :=
    Nat.le_of_eq (Address.toWord_toNat address).symm
  refine ⟨lowered.next allowed done atAddress above bounded ?_, ?_,
    Since.request level.module_eq allowed done (fun _ member => nomatch member) atAddress⟩
  · intro entry member
    exact lowered.kept allowed done entry member (Nat.le_trans (bounded entry member) atAddress)
  · unfold Layout.top
    rw [show heap.pointer after.snapshot = address.toWord from moved, Address.toWord_toNat]

/-- Scratch work is given up, as far as it lies above a mark, unless the guest
was lost. -/
theorem rewind_ends (equipped : Discipline.heapRewind.Equips module) (address : Address)
    (ground floor : Nat) (entries' : List (Entry δ)) (earlier : Instance σ)
    (level : Level meaning mark entries guest) (since : Since heap ground floor earlier guest)
    (behind : floor ≤ address.offset) (below : address.offset ≤ mark)
    (above : heap.bottom ≤ address.offset) (kept : ∀ entry ∈ entries', entry ∈ entries)
    (bounded : ∀ entry ∈ entries', entry.bound ≤ address.offset) :
    Operation.Ends (Region.rewind address) guest
      (fun _ after => Rewound meaning address.offset ground floor entries' earlier after)
      (fun _ after => after.trapped = true) := by
  refine Region.rewind_ends address guest level.open_eq _ _ ?_
  refine (setHeapPointer_ends equipped address ground entries' level below above kept
    bounded).mono ?_ (fun _ _ closed => closed)
  intro _ after rewound
  exact ⟨rewound.level, rewound.top_eq,
    since.trans (rewound.since.mono (Nat.le_refl _) behind)⟩

theorem heapPointer_ends (equipped : Discipline.heapRewind.Equips module)
    (settled : Settled meaning entries guest) :
    Operation.Ends Region.heapPointer guest
      (fun address after => address.offset = heap.top guest.snapshot ∧
        heap.top after.snapshot = heap.top guest.snapshot ∧ Settled meaning entries after ∧
        Grew heap guest after)
      (fun _ after => after.trapped = true) := by
  have allowed : heap.Allows .heapPointer guest.snapshot :=
    settled.allows _ rfl (fun _ member => nomatch member)
  refine (settled.callAddress_ends equipped .heapPointer [] rfl allowed rfl).mono ?_
    (fun _ _ closed => closed)
  rintro address after ⟨done, same, pointer⟩
  have top : heap.top after.snapshot = heap.top guest.snapshot := by
    unfold Layout.top
    rw [pointer]
  refine ⟨?_, top, settled.stays allowed done rfl rfl (fun _ member => nomatch member)
    (Nat.le_of_eq top.symm)⟩
  rw [← Address.toWord_toNat address, Option.some.inj same]
  rfl

/-- A buffer is allocated and filled, unless the memory for it is refused. -/
theorem place_ends (equipped : Discipline.heapRewind.Equips module) (terms : Region.Terms)
    (raw : Bytes) (nonempty : raw ≠ []) (settled : Settled meaning entries guest) :
    Operation.Ends (Region.place terms raw) guest
      (fun text after =>
        Settled meaning (⟨heap.top after.snapshot, text.toWord, .text⟩ :: entries) after ∧
          Grew heap guest after ∧ after.memory.bytes text.offset raw.length = raw ∧
          raw.length < 2 ^ 32)
      (fun fault after => after.trapped = true ∨
        fault.isA .guestMemory = true ∧ Settled meaning entries after ∧ Grew heap guest after) := by
  let size := UInt32.ofInt raw.length
  have allowed : heap.Allows (.malloc size) guest.snapshot :=
    settled.allows _ rfl (fun _ member => nomatch member)
  rw [Region.place, Operation.ends_bind, Region.allocate, Operation.ends_bind]
  refine (settled.callAddress_ends equipped (.malloc size) [raw.length] rfl allowed rfl).mono ?_
    (fun _ _ closed => Or.inl closed)
  rintro address middle ⟨done, _, same, nonnull, above, ends, stored⟩
  cases same
  have grown := settled.stays allowed done rfl rfl
    (fun place member => Nat.le_of_eq (Option.mem_some.mp member)) (by omega)
  rw [Operation.ends_pure, Operation.ends_bind]
  dsimp only
  rw [Region.writeView_eq]
  refine (Region.write_ends terms address raw middle nonempty).mono ?_ ?_
  · intro _ after wrote
    have least := heap.bounded _ _ grown.1.intact
    rw [Address.toWord_toNat] at above ends
    have positive := address.offset_ne_zero nonnull
    have written := wrote.stored least
    have small : raw.length < 2 ^ 32 := by omega
    have works := Since.wrote heap wrote above above
    rcases wrote.bounded least with ⟨pages, more, bounded, enough, rfl⟩
    have law := heap.fills size _ _ _ pages raw allowed (settled.answered done)
      (toNat_ofInt raw.length small).symm more bounded
      (by rw [Address.toWord_toNat]; exact enough)
    rw [Address.toWord_toNat] at law
    have top : heap.top (middle.snapshot.written pages address.offset raw) =
        heap.top middle.snapshot := by
      unfold Layout.top
      rw [law.2.1]
    refine ⟨⟨grown.1.module_eq, grown.1.open_eq, ?_, ?_, ?_, ?_⟩, ⟨?_, grown.2.2.trans works⟩,
      written.2, small⟩
    · rw [← top] at law
      exact law.1
    · exact Nat.le_trans grown.1.above (Nat.le_of_eq top.symm)
    · intro entry member
      rcases List.mem_cons.mp member with rfl | old
      · exact Nat.le_refl _
      · exact Nat.le_trans (grown.1.bounded entry old) (Nat.le_of_eq top.symm)
    · intro entry member
      rcases List.mem_cons.mp member with rfl | old
      · refine meaning.texts _ _ _ ?_
        have text := law.2.2
        rw [← top] at text
        exact text
      · exact meaning.ignores _ pages _ raw _ _ _
          (Nat.le_trans (settled.bounded entry old) above) more (grown.1.holds entry old)
    · exact Nat.le_trans grown.2.1 (Nat.le_of_eq top.symm)
  · rintro fault after ⟨refused, rfl⟩
    exact Or.inr ⟨refused, grown⟩

/-- A text is parsed into a document above everything else, or it is rejected
or finds no memory, and only scratch is left of it. -/
theorem writeEncoded_ends (equipped : Discipline.heapRewind.Equips module) (terms : Region.Terms)
    (rewinds : terms.rewinds = true) (raw : Bytes) (nonempty : raw ≠ [])
    (settled : Settled meaning entries guest) :
    Operation.Ends (Exchange.writeEncoded terms raw) guest
      (fun document after => ∃ d, semantics.parses raw (some d) ∧
        Settled meaning (⟨heap.top after.snapshot, document.toWord, .document d⟩ :: entries)
          after ∧ Grew heap guest after)
      (fun fault after => after.trapped = true ∨
        (fault.isA .guestMemory = true ∨ semantics.Rejects raw fault) ∧
          Settled meaning entries after ∧ Grew heap guest after) := by
  rw [Exchange.writeEncoded, Operation.ends_bind]
  refine (place_ends equipped terms raw nonempty settled).mono ?_ ?_
  · rintro text filled ⟨settled, grew, stored, length⟩
    have allowed : heap.Allows (.parse text.toWord (UInt32.ofInt raw.length)) filled.snapshot := by
      refine settled.allows _ rfl ?_
      intro use member
      rw [List.mem_singleton.mp member]
      exact ⟨_, .text, List.mem_cons_self .., rfl⟩
    rw [Operation.ends_bind]
    refine (settled.callWord_ends equipped (.parse text.toWord (UInt32.ofInt raw.length)) _
      (Request.parse_arguments text raw.length) allowed rfl).mono ?_ (fun _ _ closed => Or.inl closed)
    rintro document after ⟨done, _, same, above, _⟩
    cases same
    have read := filled.snapshot.memory.bytes_of_words text length stored
    have meant := meaning.parses _ _ _ _ _ allowed (settled.answered done)
    rw [read] at meant
    have places : ∀ place ∈ heap.allocatesFrom filled.snapshot
        (.parse text.toWord (UInt32.ofInt raw.length)), heap.top filled.snapshot ≤ place :=
      fun place member => Nat.le_of_eq (Option.mem_some.mp member)
    rw [Operation.ends_bind, Region.free_eq_pure terms text rewinds, Operation.ends_pure]
    by_cases rejected : document = 0
    · have grown := settled.stays allowed done rfl rfl places above
      rw [if_pos rejected, Operation.ends_bind]
      exact Or.inr ⟨Or.inr ⟨meant.1 rejected, rfl⟩, grown.1.sublist (List.sublist_cons_self ..),
        grew.trans grown.2⟩
    · rcases meant.2 rejected with ⟨d, accepted, held⟩
      have grown := settled.gains document (.document d) allowed done rfl rfl places above held
      rw [if_neg rejected]
      refine ⟨d, accepted, ?_, grew.trans grown.2⟩
      rw [Address.toWord_ofWord]
      exact grown.1.sublist ((List.sublist_cons_self ..).cons_cons _)
  · rintro fault after (closed | ⟨refused, settled, grew⟩)
    · exact Or.inl closed
    · exact Or.inr ⟨Or.inl refused, settled, grew⟩

theorem readRaw_ends (equipped : Discipline.heapRewind.Equips module) (terms : Region.Terms)
    (rewinds : terms.rewinds = true) (document : Address) (d : δ) (bound : Nat)
    (settled : Settled meaning entries guest)
    (listed : ⟨bound, document.toWord, Object.document d⟩ ∈ entries) :
    Operation.Ends (Exchange.readRaw terms document) guest
      (fun raw after => semantics.dumps d (some raw) ∧ Settled meaning entries after ∧
        Grew heap guest after)
      (fun fault after => after.trapped = true ∨
        (semantics.dumps d none ∧ ∃ text, fault = .report (Exchange.unread text)) ∧
          Settled meaning entries after ∧ Grew heap guest after) := by
  have allowed : heap.Allows (.dump document.toWord) guest.snapshot := by
    refine settled.allows _ rfl ?_
    intro use member
    rw [List.mem_singleton.mp member]
    exact ⟨_, _, listed, rfl⟩
  rw [Exchange.readRaw, Operation.ends_bind]
  refine (settled.callAddress_ends equipped (.dump document.toWord) _
    (Request.dump_arguments document) allowed rfl).mono ?_ (fun _ _ closed => Or.inl closed)
  rintro text dumped ⟨done, _, same, above⟩
  cases same
  have grown := settled.stays allowed done rfl rfl
    (fun place member => Nat.le_of_eq (Option.mem_some.mp member)) above
  have meant : semantics.dumps d (dumped.memory.untilZero text.offset) := by
    have law := meaning.dumps _ _ _ _ _ _ allowed (settled.answered done)
      (settled.bounded _ listed) (settled.holds _ listed)
    rw [Address.toWord_toNat] at law
    exact law
  rw [Operation.ends_bind, Region.free_eq_pure terms text rewinds, Operation.ends_ensuring]
  rw [Region.readUntilZero_ends, Operation.ends_pure]
  cases read : dumped.memory.untilZero text.offset with
  | some raw =>
    rw [read] at meant
    exact ⟨meant, grown⟩
  | none =>
    rw [read] at meant
    exact Or.inr ⟨⟨meant, text, rfl⟩, grown⟩

theorem change_ends (equipped : Discipline.heapRewind.Equips module) (request : Request)
    (arguments : List Int) (words : arguments.map UInt32.ofInt = request.arguments)
    (context : Address) (bound ground : Nat) (slots slots' : Slots)
    (settled : Settled meaning (⟨bound, context.toWord, .record slots⟩ :: entries) guest)
    (below : ∀ entry ∈ entries, entry.bound ≤ context.offset)
    (allowed : heap.Allows request guest.snapshot)
    (floor : heap.floor guest.snapshot request = context.toWord.toNat)
    (leaves : ∀ snapshot, heap.leaves snapshot request = heap.top snapshot)
    (places : heap.allocatesFrom guest.snapshot request = none)
    (same : ∀ answer after, heap.Effect guest.snapshot answer after request →
      heap.pointer after = heap.pointer guest.snapshot)
    (held : ∀ answer after, request.Answered module guest.snapshot answer after →
      meaning.holds after bound context.toWord (.record slots')) :
    Operation.Ends (Instance.callVoid request.name arguments) guest
      (fun _ after =>
        Settled meaning (⟨bound, context.toWord, .record slots'⟩ :: entries) after ∧
          heap.top after.snapshot = heap.top guest.snapshot ∧
          Since heap ground context.offset guest after)
      (fun _ after => after.trapped = true) := by
  refine (settled.call_ends equipped request arguments words allowed).mono ?_
    (fun _ _ closed => closed)
  rintro _ after ⟨answer, done, effect⟩
  have top : heap.top after.snapshot = heap.top guest.snapshot := by
    unfold Layout.top
    rw [same _ _ effect]
  rw [Address.toWord_toNat] at floor
  refine ⟨settled.next allowed done (Nat.le_of_eq (leaves _).symm)
    (by rw [top]; exact settled.above) ?_ ?_, top,
    Since.request settled.module_eq allowed done ?_ (Nat.le_of_eq floor.symm)⟩
  · intro entry member
    rw [top]
    rcases List.mem_cons.mp member with rfl | old
    · exact settled.bounded ⟨bound, context.toWord, .record slots⟩ (List.mem_cons_self ..)
    · exact settled.bounded _ (List.mem_cons_of_mem _ old)
  · intro entry member
    rcases List.mem_cons.mp member with rfl | old
    · exact held _ _ (settled.answered done)
    · refine settled.kept allowed done entry (List.mem_cons_of_mem _ old) ?_
      rw [floor]
      exact below entry old
  · intro place member
    rw [places] at member
    cases member

/-- A record is made above everything else. -/
theorem newContext_ends (equipped : Discipline.heapRewind.Equips module)
    (settled : Settled meaning entries guest) :
    Operation.Ends (Instance.callAddress "opa_eval_ctx_new" []) guest
      (fun context after =>
        Settled meaning (⟨heap.top after.snapshot, context.toWord, .record {}⟩ :: entries) after ∧
          heap.top guest.snapshot ≤ context.offset ∧ context.offset ≤ heap.top after.snapshot ∧
          Grew heap guest after)
      (fun _ after => after.trapped = true) := by
  have allowed : heap.Allows .newContext guest.snapshot :=
    settled.allows _ rfl (fun _ member => nomatch member)
  refine (settled.callAddress_ends equipped .newContext [] rfl allowed rfl).mono ?_
    (fun _ _ closed => closed)
  rintro context after ⟨done, _, same, above, inside, _⟩
  cases same
  have grown := settled.gains context.toWord (.record {}) allowed done rfl rfl
    (fun place member => Nat.le_of_eq (Option.mem_some.mp member)) (Nat.le_trans above inside)
    (meaning.opens _ _ _ allowed (settled.answered done))
  rw [Address.toWord_toNat] at above inside
  exact ⟨grown.1, above, inside, grown.2⟩

section

variable {context : Address} {bound ground : Nat} {slots : Slots}

/-- The record in front is listed for a request that takes it alone. -/
theorem record_listed (entries : List (Entry δ)) :
    ∀ use ∈ [(context.toWord, Shape.record)], ∃ bound' object,
      ⟨bound', use.1, object⟩ ∈ ⟨bound, context.toWord, Object.record slots⟩ :: entries ∧
        object.shape = use.2 :=
  List.forall_mem_singleton.mpr ⟨_, _, List.mem_cons_self .., rfl⟩

theorem record_document_listed {document : UInt32} {x : δ} {documentBound : Nat}
    (listed : ⟨documentBound, document, Object.document x⟩ ∈ entries) :
    ∀ use ∈ [(context.toWord, Shape.record), (document, .document)], ∃ bound' object,
      ⟨bound', use.1, object⟩ ∈ ⟨bound, context.toWord, Object.record slots⟩ :: entries ∧
        object.shape = use.2 :=
  List.forall_mem_cons.mpr ⟨⟨_, _, List.mem_cons_self .., rfl⟩,
    List.forall_mem_singleton.mpr ⟨_, _, List.mem_cons_of_mem _ listed, rfl⟩⟩

theorem setInput_ends (equipped : Discipline.heapRewind.Equips module) (ground : Nat)
    (document : Address) (x : δ) (documentBound : Nat)
    (settled : Settled meaning (⟨bound, context.toWord, .record slots⟩ :: entries) guest)
    (below : ∀ entry ∈ entries, entry.bound ≤ context.offset)
    (listed : ⟨documentBound, document.toWord, Object.document x⟩ ∈ entries) :
    Operation.Ends
      (Instance.callVoid "opa_eval_ctx_set_input" [context.offset, document.offset]) guest
      (fun _ after =>
        Settled meaning (⟨bound, context.toWord,
          .record { slots with input := some document.toWord }⟩ :: entries) after ∧
          heap.top after.snapshot = heap.top guest.snapshot ∧
          Since heap ground context.offset guest after)
      (fun _ after => after.trapped = true) := by
  have allowed : heap.Allows (.setInput context.toWord document.toWord) guest.snapshot :=
    settled.allows _ rfl (record_document_listed listed)
  refine change_ends equipped (.setInput context.toWord document.toWord)
    [context.offset, document.offset] (by simp; rfl) context bound ground slots _ settled below
    allowed rfl (fun _ => rfl) rfl (fun _ _ effect => effect) ?_
  intro _ _ answered
  exact meaning.setsInput _ _ slots _ _ _ _ allowed answered
    (settled.bounded _ (List.mem_cons_self ..)) (settled.holds _ (List.mem_cons_self ..))

theorem setData_ends (equipped : Discipline.heapRewind.Equips module) (ground : Nat)
    (document : Address) (y : δ) (documentBound : Nat)
    (settled : Settled meaning (⟨bound, context.toWord, .record slots⟩ :: entries) guest)
    (below : ∀ entry ∈ entries, entry.bound ≤ context.offset)
    (listed : ⟨documentBound, document.toWord, Object.document y⟩ ∈ entries) :
    Operation.Ends
      (Instance.callVoid "opa_eval_ctx_set_data" [context.offset, document.offset]) guest
      (fun _ after =>
        Settled meaning (⟨bound, context.toWord,
          .record { slots with data := some document.toWord }⟩ :: entries) after ∧
          heap.top after.snapshot = heap.top guest.snapshot ∧
          Since heap ground context.offset guest after)
      (fun _ after => after.trapped = true) := by
  have allowed : heap.Allows (.setData context.toWord document.toWord) guest.snapshot :=
    settled.allows _ rfl (record_document_listed listed)
  refine change_ends equipped (.setData context.toWord document.toWord)
    [context.offset, document.offset] (by simp; rfl) context bound ground slots _ settled below
    allowed rfl (fun _ => rfl) rfl (fun _ _ effect => effect) ?_
  intro _ _ answered
  exact meaning.setsData _ _ slots _ _ _ _ allowed answered
    (settled.bounded _ (List.mem_cons_self ..)) (settled.holds _ (List.mem_cons_self ..))

theorem setEntrypoint_ends (equipped : Discipline.heapRewind.Equips module) (ground : Nat)
    (entrypoint : Int)
    (settled : Settled meaning (⟨bound, context.toWord, .record slots⟩ :: entries) guest)
    (below : ∀ entry ∈ entries, entry.bound ≤ context.offset) :
    Operation.Ends
      (Instance.callVoid "opa_eval_ctx_set_entrypoint" [context.offset, entrypoint]) guest
      (fun _ after =>
        Settled meaning (⟨bound, context.toWord,
          .record { slots with entrypoint := some (UInt32.ofInt entrypoint) }⟩ :: entries) after ∧
          heap.top after.snapshot = heap.top guest.snapshot ∧
          Since heap ground context.offset guest after)
      (fun _ after => after.trapped = true) := by
  have allowed : heap.Allows (.setEntrypoint context.toWord (UInt32.ofInt entrypoint))
      guest.snapshot :=
    settled.allows _ rfl (record_listed entries)
  refine change_ends equipped (.setEntrypoint context.toWord (UInt32.ofInt entrypoint))
    [context.offset, entrypoint] (by simp; rfl) context bound ground slots _ settled below
    allowed rfl (fun _ => rfl) rfl (fun _ _ effect => effect) ?_
  intro _ _ answered
  exact meaning.setsEntrypoint _ _ slots _ _ _ _ allowed answered
    (settled.bounded _ (List.mem_cons_self ..)) (settled.holds _ (List.mem_cons_self ..))

end

/-- A record is made for the input and the dataset, above both. -/
theorem bindContext_ends (equipped : Discipline.heapRewind.Equips module)
    (terms : Region.Terms) (rewinds : terms.rewinds = true) (data : Address) (y : δ)
    (dataBound : Nat) (input : Value) (raw : Bytes) (encoded : Payload.encode input = .ok raw)
    (settled : Settled meaning entries guest)
    (entered : ⟨dataBound, data.toWord, Object.document y⟩ ∈ entries) :
    Operation.Ends (Discipline.bindContext terms data input) guest
      (fun handle after => ∃ x bound inputBound, semantics.parses raw (some x) ∧
        inputBound ≤ handle.context.offset ∧ heap.top guest.snapshot ≤ handle.context.offset ∧
        handle.context.offset ≤ heap.top after.snapshot ∧
        Settled meaning
          (⟨bound, handle.context.toWord,
              .record ⟨some handle.input.toWord, some data.toWord, none⟩⟩ ::
            ⟨inputBound, handle.input.toWord, .document x⟩ :: entries) after ∧
        Grew heap guest after)
      (fun fault after => after.trapped = true ∨
        (fault.isA .guestMemory = true ∨ semantics.Rejects raw fault) ∧
          Settled meaning entries after ∧ Grew heap guest after) := by
  rw [Discipline.bindContext, Operation.ends_bind, Exchange.writeValue, Operation.ends_bind,
    Operation.ends_liftReport, encoded]
  refine (writeEncoded_ends equipped terms rewinds raw (Payload.encode_ne_nil input raw encoded)
    settled).mono ?_ (fun _ _ failed => failed)
  rintro document written ⟨x, accepted, settled, grew⟩
  rw [Operation.ends_bind]
  refine (newContext_ends equipped settled).mono ?_ (fun _ _ closed => Or.inl closed)
  rintro context opened ⟨settledOpened, above, inside, grewOpened⟩
  have below : ∀ entry ∈ ⟨heap.top written.snapshot, document.toWord, .document x⟩ :: entries,
      entry.bound ≤ context.offset :=
    fun entry member => Nat.le_trans (settled.bounded entry member) above
  rw [Operation.ends_bind]
  refine (setInput_ends equipped (heap.top guest.snapshot) document x _ settledOpened below
    (List.mem_cons_self ..)).mono ?_ (fun _ _ closed => Or.inl closed)
  rintro _ bound ⟨settledBound, firstTop, first⟩
  rw [Operation.ends_bind]
  refine (setData_ends equipped (heap.top guest.snapshot) data y dataBound settledBound below
    (List.mem_cons_of_mem _ entered)).mono ?_ (fun _ _ closed => Or.inl closed)
  rintro _ after ⟨settledAfter, secondTop, second⟩
  have low : heap.top guest.snapshot ≤ context.offset := Nat.le_trans grew.1 above
  have top : heap.top after.snapshot = heap.top opened.snapshot := secondTop.trans firstTop
  refine ⟨x, _, _, accepted, above, low, ?_, settledAfter, ?_, ?_⟩
  · rw [top]
    exact inside
  · rw [top]
    exact Nat.le_trans low inside
  · exact (grew.trans grewOpened).2.trans
      ((first.mono (Nat.le_refl _) low).trans (second.mono (Nat.le_refl _) low))

/-- A run makes its result above everything else, and leaves the record as it
is.  The result is listed by the name that the guest has for it. -/
theorem run_ends (equipped : Discipline.heapRewind.Equips module) (context : Address)
    (entrypoint input data : UInt32) (x y : δ) (bound inputBound dataBound : Nat)
    (settled : Settled meaning
      (⟨bound, context.toWord, .record ⟨some input, some data, some entrypoint⟩⟩ :: entries) guest)
    (below : ∀ entry ∈ entries, entry.bound ≤ context.offset)
    (inputListed : ⟨inputBound, input, Object.document x⟩ ∈ entries)
    (dataListed : ⟨dataBound, data, Object.document y⟩ ∈ entries) :
    Operation.Ends (Instance.callVoid "eval" [context.offset]) guest
      (fun _ after => ∃ set, semantics.answers entrypoint x y set ∧
        Settled meaning
          (⟨heap.top after.snapshot, heap.result after.snapshot context.toWord, .document set⟩ ::
            ⟨bound, context.toWord, .record ⟨some input, some data, some entrypoint⟩⟩ :: entries)
          after ∧
        heap.top guest.snapshot ≤ heap.top after.snapshot ∧
        Since heap (heap.top guest.snapshot) context.offset guest after)
      (fun _ after => after.trapped = true) := by
  have allowed : heap.Allows (.run context.toWord) guest.snapshot :=
    settled.allows _ rfl (record_listed entries)
  refine (settled.call_ends equipped (.run context.toWord) [context.offset] (by simp; rfl)
    allowed).mono ?_ (fun _ _ closed => closed)
  rintro _ after ⟨answer, done, grew, _⟩
  have atContext : context.toWord.toNat = context.offset := Address.toWord_toNat context
  have ran := meaning.runs _ input data _ x y bound inputBound dataBound _ _ _ allowed
    (settled.answered done) (settled.bounded _ (List.mem_cons_self ..))
    (settled.holds _ (List.mem_cons_self ..))
    (by rw [atContext]; exact below _ inputListed)
    (settled.holds _ (List.mem_cons_of_mem _ inputListed))
    (by rw [atContext]; exact below _ dataListed)
    (settled.holds _ (List.mem_cons_of_mem _ dataListed))
  rcases ran with ⟨record, set, answered, held⟩
  refine ⟨set, answered, ?_, grew, Since.request settled.module_eq allowed done
    (fun place member => Nat.le_of_eq (Option.mem_some.mp member)) (Nat.le_of_eq atContext.symm)⟩
  refine settled.next allowed done (Nat.le_refl _) (Nat.le_trans settled.above grew) ?_ ?_
  · intro entry member
    rcases List.mem_cons.mp member with rfl | old
    · exact Nat.le_refl _
    · exact Nat.le_trans (settled.bounded entry old) grew
  · intro entry member
    rcases List.mem_cons.mp member with rfl | member
    · exact held
    · rcases List.mem_cons.mp member with rfl | old
      · exact record
      · exact settled.kept allowed done entry (List.mem_cons_of_mem _ old)
          (Nat.le_trans (below entry old) (Nat.le_of_eq atContext.symm))

/-- The guest is asked for the result of a run.  Nothing moves. -/
theorem result_ends (equipped : Discipline.heapRewind.Equips module) (context : Address)
    (bound : Nat) (slots : Slots)
    (entered : ⟨bound, context.toWord, Object.record slots⟩ ∈ entries)
    (settled : Settled meaning entries guest) :
    Operation.Ends (Instance.callAddress "opa_eval_ctx_get_result" [context.offset]) guest
      (fun result after => result.toWord = heap.result guest.snapshot context.toWord ∧
        heap.top after.snapshot = heap.top guest.snapshot ∧ Settled meaning entries after ∧
        Grew heap guest after)
      (fun _ after => after.trapped = true) := by
  have allowed : heap.Allows (.result context.toWord) guest.snapshot :=
    settled.allows _ rfl (List.forall_mem_singleton.mpr ⟨_, _, entered, rfl⟩)
  refine (settled.callAddress_ends equipped (.result context.toWord) [context.offset]
    (by simp; rfl) allowed rfl).mono ?_ (fun _ _ closed => closed)
  rintro result after ⟨done, same, pointer⟩
  have top : heap.top after.snapshot = heap.top guest.snapshot := by
    unfold Layout.top
    rw [pointer]
  exact ⟨Option.some.inj same, top, settled.stays allowed done rfl rfl
    (fun place member => nomatch member) (Nat.le_of_eq top.symm)⟩

/-- A run in a record leaves its result above everything else. -/
theorem runContext_ends (equipped : Discipline.heapRewind.Equips module) (handle : Handle)
    (entrypoint : Int) (input data : UInt32) (old : Option UInt32) (x y : δ)
    (bound inputBound dataBound : Nat)
    (settled : Settled meaning
      (⟨bound, handle.context.toWord, .record ⟨some input, some data, old⟩⟩ :: entries) guest)
    (below : ∀ entry ∈ entries, entry.bound ≤ handle.context.offset)
    (inside : handle.context.offset ≤ heap.top guest.snapshot)
    (inputListed : ⟨inputBound, input, Object.document x⟩ ∈ entries)
    (dataListed : ⟨dataBound, data, Object.document y⟩ ∈ entries) :
    Operation.Ends (Discipline.runContext handle entrypoint) guest
      (fun result after => ∃ set,
        semantics.answers (UInt32.ofInt entrypoint) x y set ∧
          Settled meaning
            (⟨heap.top after.snapshot, result.toWord, .document set⟩ ::
              ⟨bound, handle.context.toWord,
                .record ⟨some input, some data, some (UInt32.ofInt entrypoint)⟩⟩ :: entries)
            after ∧
          heap.top guest.snapshot ≤ heap.top after.snapshot ∧
          Since heap (heap.top guest.snapshot) handle.context.offset guest after)
      (fun _ after => after.trapped = true) := by
  rw [Discipline.runContext, Operation.ends_bind]
  refine (setEntrypoint_ends equipped (heap.top guest.snapshot) entrypoint settled below).mono ?_
    (fun _ _ closed => closed)
  rintro _ chosen ⟨settledChosen, chosenTop, first⟩
  rw [Operation.ends_bind]
  refine (run_ends equipped handle.context (UInt32.ofInt entrypoint) input data x y bound
    inputBound dataBound settledChosen below inputListed dataListed).mono ?_
    (fun _ _ closed => closed)
  rintro _ evaluated ⟨set, answered, settledEvaluated, grew, second⟩
  rw [chosenTop] at grew second
  refine (result_ends equipped handle.context bound _
    (List.mem_cons_of_mem _ (List.mem_cons_self ..)) settledEvaluated).mono ?_
    (fun _ _ closed => closed)
  rintro result after ⟨same, top, settledAfter, grewAfter⟩
  refine ⟨set, answered, ?_, by rw [top]; exact grew,
    first.trans (second.trans (grewAfter.2.mono grew (Nat.le_trans inside grew)))⟩
  rw [same, top]
  exact settledAfter

/-- From whatever was done above the heap pointer, rewinding ends where it
began. -/
theorem rewindBack_ends (equipped : Discipline.heapRewind.Equips module) (saved : Address)
    (floor : Nat) (extra : List (Entry δ)) (earlier : Instance σ)
    (settled : Settled meaning entries earlier) (savedEq : saved.offset = heap.top earlier.snapshot)
    (inside : floor ≤ heap.top earlier.snapshot)
    (bounded : ∀ entry ∈ entries', entry.bound ≤ heap.top earlier.snapshot)
    (settledNow : Settled meaning (extra ++ entries') guest)
    (grew : heap.top earlier.snapshot ≤ heap.top guest.snapshot)
    (since : Since heap (heap.top earlier.snapshot) floor earlier guest) :
    Operation.Ends (Region.rewind saved) guest
      (fun _ after => Rewound meaning (heap.top earlier.snapshot) (heap.top earlier.snapshot) floor
        entries' earlier after)
      (fun _ after => after.trapped = true) := by
  have above := settled.above
  rw [← savedEq] at above inside bounded grew since ⊢
  exact rewind_ends equipped saved saved.offset floor entries' earlier settledNow since inside grew
    above (fun entry member => List.mem_append_right _ member) bounded

/-- An evaluation in a context leaves the heap pointer where it was, whether
it returned or failed, and comes to what the guest's meaning says. -/
theorem contextEval_ends (equipped : Discipline.heapRewind.Equips module)
    (terms : Region.Terms) (rewinds : terms.rewinds = true) (handle : Handle) (path : String)
    (entrypoint : Int) (schema : Schema) (input data : UInt32) (old : Option UInt32) (x y : δ)
    (bound inputBound dataBound : Nat)
    (settled : Settled meaning
      (⟨bound, handle.context.toWord, .record ⟨some input, some data, old⟩⟩ :: entries) guest)
    (below : ∀ entry ∈ entries, entry.bound ≤ handle.context.offset)
    (inside : handle.context.offset ≤ heap.top guest.snapshot)
    (inputListed : ⟨inputBound, input, Object.document x⟩ ∈ entries)
    (dataListed : ⟨dataBound, data, Object.document y⟩ ∈ entries) :
    Operation.Ends (Discipline.heapRewind.contextEval terms handle path entrypoint schema) guest
      (fun value after =>
        Rewound meaning (heap.top guest.snapshot) (heap.top guest.snapshot) handle.context.offset
          (⟨bound, handle.context.toWord,
            .record ⟨some input, some data, some (UInt32.ofInt entrypoint)⟩⟩ :: entries)
          guest after ∧
        semantics.Judges Exchange.unread path (UInt32.ofInt entrypoint) schema x y (.ok value))
      (fun fault after => after.trapped = true ∨
        Rewound meaning (heap.top guest.snapshot) (heap.top guest.snapshot) handle.context.offset
          (⟨bound, handle.context.toWord,
            .record ⟨some input, some data, some (UInt32.ofInt entrypoint)⟩⟩ :: entries)
          guest after ∧
        semantics.Judges Exchange.unread path (UInt32.ofInt entrypoint) schema x y
          (.error fault)) := by
  unfold Discipline.contextEval
  rw [Operation.ends_bind]
  refine (heapPointer_ends equipped settled).mono ?_ (fun _ _ closed => Or.inl closed)
  rintro saved marked ⟨savedEq, markedTop, settledMarked, grewMarked⟩
  have bounded : ∀ entry ∈ ⟨bound, handle.context.toWord,
      Object.record ⟨some input, some data, some (UInt32.ofInt entrypoint)⟩⟩ :: entries,
      entry.bound ≤ heap.top guest.snapshot :=
    List.forall_mem_cons.mpr (List.forall_mem_cons.mp settled.bounded)
  have sinceMarked := grewMarked.2.mono (Nat.le_refl _) inside
  rw [Operation.ends_bind, Operation.ends_ensuring, Operation.ends_bind]
  refine (runContext_ends equipped handle entrypoint input data old x y bound inputBound dataBound
    settledMarked below (by rw [markedTop]; exact inside) inputListed dataListed).mono ?_
    (fun _ middle closed => (Region.rewind_closed saved middle closed).mono
      (fun _ _ closed => Or.inl closed) (fun _ _ closed => Or.inl closed))
  rintro result evaluated ⟨set, answered, settledEvaluated, grewEvaluated, sinceEvaluated⟩
  rw [markedTop] at grewEvaluated sinceEvaluated
  have grown : ∀ read : Instance σ, Grew heap evaluated read →
      heap.top guest.snapshot ≤ heap.top read.snapshot ∧
        Since heap (heap.top guest.snapshot) handle.context.offset guest read :=
    fun read grewRead => ⟨Nat.le_trans grewEvaluated grewRead.1, sinceMarked.trans
      (sinceEvaluated.trans (grewRead.2.mono grewEvaluated (Nat.le_trans inside grewEvaluated)))⟩
  refine (readRaw_ends equipped terms rewinds result set _ settledEvaluated
    (List.mem_cons_self ..)).mono ?_ ?_
  · rintro raw read ⟨dumped, settledRead, grewRead⟩
    refine (rewindBack_ends equipped saved _ [_] guest settled savedEq inside bounded settledRead
      (grown read grewRead).1 (grown read grewRead).2).mono ?_ (fun _ _ closed => Or.inl closed)
    intro _ after left
    rw [Semantics.ends_lastResult]
    have judged : semantics.Judges Exchange.unread path (UInt32.ofInt entrypoint) schema x y
        (Semantics.valueIn path schema raw) :=
      .dumped set (some raw) _ answered dumped (.text raw)
    cases decoded : Semantics.valueIn path schema raw with
    | ok value =>
      rw [decoded] at judged
      exact ⟨left, judged⟩
    | error fault =>
      rw [decoded] at judged
      exact Or.inr ⟨left, judged⟩
  · rintro fault failed (closed | ⟨⟨dumped, text, rfl⟩, settledRead, grewRead⟩)
    · exact (Region.rewind_closed saved failed closed).mono
        (fun _ _ closed => Or.inl closed) (fun _ _ closed => Or.inl closed)
    · refine (rewindBack_ends equipped saved _ [_] guest settled savedEq inside bounded settledRead
        (grown failed grewRead).1 (grown failed grewRead).2).mono ?_
        (fun _ _ closed => Or.inl closed)
      intro _ after left
      exact Or.inr ⟨left, .dumped set none _ answered dumped (.unterminated text)⟩

theorem openContext_ends (equipped : Discipline.heapRewind.Equips module)
    (terms : Region.Terms) (rewinds : terms.rewinds = true) (checkpoints : Checkpoints)
    (data : Address) (y : δ) (dataBound : Nat) (input : Value) (raw : Bytes)
    (encoded : Payload.encode input = .ok raw)
    (level : Level meaning checkpoints.data.offset entries guest)
    (entered : ⟨dataBound, data.toWord, Object.document y⟩ ∈ entries) :
    Operation.Ends (Discipline.heapRewind.openContext terms checkpoints data input) guest
      (fun handle after => ∃ x bound inputBound, semantics.parses raw (some x) ∧
        inputBound ≤ handle.context.offset ∧
        checkpoints.data.offset ≤ handle.context.offset ∧
        handle.context.offset ≤ heap.top after.snapshot ∧
        Settled meaning
          (⟨bound, handle.context.toWord,
              .record ⟨some handle.input.toWord, some data.toWord, none⟩⟩ ::
            ⟨inputBound, handle.input.toWord, .document x⟩ :: entries) after ∧
        Since heap checkpoints.data.offset checkpoints.data.offset guest after)
      (fun fault after => after.trapped = true ∨
        (fault.isA .guestMemory = true ∨ semantics.Rejects raw fault) ∧
          Level meaning checkpoints.data.offset entries after ∧
          Since heap checkpoints.data.offset checkpoints.data.offset guest after) := by
  unfold Discipline.openContext
  rw [Operation.ends_bind]
  refine (setHeapPointer_ends equipped checkpoints.data checkpoints.data.offset entries level
    (Nat.le_refl _) level.above (fun _ member => member) level.bounded).mono ?_
    (fun _ _ closed => Or.inl closed)
  intro _ settled rewound
  refine (bindContext_ends equipped terms rewinds data y dataBound input raw encoded
    rewound.settled entered).mono ?_ ?_
  · rintro handle after ⟨x, bound, inputBound, accepted, inputLow, low, inside, opened, grew⟩
    rw [rewound.top_eq] at low
    exact ⟨x, bound, inputBound, accepted, inputLow, low, inside, opened, (rewound.grown grew).2⟩
  · rintro fault after (closed | ⟨reason, left, grew⟩)
    · exact Or.inl closed
    · have grown := rewound.grown grew
      exact Or.inr ⟨reason, left.lower grown.1 level.above (fun _ member => member) level.bounded,
        grown.2⟩

/-- Closing a context sets the heap pointer behind the dataset. -/
theorem closeContext_ends (equipped : Discipline.heapRewind.Equips module)
    (terms : Region.Terms) (checkpoints : Checkpoints) (handle : Handle)
    (entries' : List (Entry δ)) (level : Level meaning mark entries guest)
    (below : checkpoints.data.offset ≤ mark) (above : heap.bottom ≤ checkpoints.data.offset)
    (kept : ∀ entry ∈ entries', entry ∈ entries)
    (bounded : ∀ entry ∈ entries', entry.bound ≤ checkpoints.data.offset) :
    Operation.Ends (Discipline.heapRewind.closeContext terms checkpoints handle) guest
      (fun _ after => Rewound meaning checkpoints.data.offset checkpoints.data.offset
        checkpoints.data.offset entries' guest after)
      (fun _ after => after.trapped = true) :=
  setHeapPointer_ends equipped checkpoints.data checkpoints.data.offset entries' level below above
    kept bounded

/-- Replacing the dataset starts at the base mark.  The new document lies
below the new mark, where the heap pointer is then; if it is rejected, nothing
is kept above the base. -/
theorem installData_ends (equipped : Discipline.heapRewind.Equips module)
    (terms : Region.Terms) (rewinds : terms.rewinds = true) (checkpoints : Checkpoints)
    (previous : Option Address) (raw : Bytes) (nonempty : raw ≠ [])
    (level : Level meaning checkpoints.base.offset [] guest) :
    Operation.Ends
      (Discipline.heapRewind.installData terms checkpoints previous raw) guest
      (fun installed after => ∃ d, semantics.parses raw (some d) ∧
        installed.2.base = checkpoints.base ∧
        installed.2.data.offset = heap.top after.snapshot ∧
        checkpoints.base.offset ≤ installed.2.data.offset ∧
        Level meaning installed.2.data.offset
          [⟨installed.2.data.offset, installed.1.toWord, .document d⟩] after ∧
        Since heap checkpoints.base.offset checkpoints.base.offset guest after)
      (fun fault after => after.trapped = true ∨
        (fault.isA .guestMemory = true ∨ semantics.Rejects raw fault) ∧
          Level meaning checkpoints.base.offset [] after ∧
          Since heap checkpoints.base.offset checkpoints.base.offset guest after) := by
  unfold Discipline.installData
  rw [Operation.ends_bind]
  refine (setHeapPointer_ends equipped checkpoints.base checkpoints.base.offset [] level
    (Nat.le_refl _) level.above (fun _ member => member) level.bounded).mono ?_
    (fun _ _ closed => Or.inl closed)
  intro _ settled rewound
  rw [Operation.ends_bind]
  refine (writeEncoded_ends equipped terms rewinds raw nonempty rewound.settled).mono ?_ ?_
  · rintro document written ⟨d, accepted, entered, grew⟩
    rw [Operation.ends_bind]
    refine (heapPointer_ends equipped entered).mono ?_ (fun _ _ closed => Or.inl closed)
    rintro data after ⟨dataEq, sameTop, left, grewAfter⟩
    have mark : data.offset = heap.top after.snapshot := dataEq.trans sameTop.symm
    refine ⟨d, accepted, rfl, mark, by rw [dataEq]; exact (rewound.grown grew).1, ?_,
      (rewound.grown (grew.trans grewAfter)).2⟩
    unfold Settled at left
    rw [← mark, ← dataEq] at left
    exact left
  · rintro fault after (closed | ⟨reason, left, grew⟩)
    · exact Or.inl closed
    · have grown := rewound.grown grew
      exact Or.inr ⟨reason, left.lower grown.1 level.above (fun _ member => member) level.bounded,
        grown.2⟩

/-- The input text is written right behind the dataset, where it disturbs
nothing that is listed. -/
theorem write_ends (terms : Region.Terms) (data : Address) (raw : Bytes) (nonempty : raw ≠ [])
    (level : Level meaning data.offset entries guest) :
    Operation.Ends (Region.write terms data raw) guest
      (fun _ after => Level meaning data.offset entries after ∧
        Since heap data.offset data.offset guest after ∧
        after.memory.bytes data.offset raw.length = raw)
      (fun fault after => fault.isA .guestMemory = true ∧ after = guest) := by
  refine (Region.write_ends terms data raw guest nonempty).mono ?_ (fun _ _ refused => refused)
  intro _ after wrote
  have since : Since heap data.offset data.offset guest after :=
    Since.wrote heap wrote (Nat.le_refl _) (Nat.le_refl _)
  have stored := wrote.stored (heap.bounded _ _ level.intact)
  rcases wrote.bounded (heap.bounded _ _ level.intact) with ⟨pages, more, bounded, enough, rfl⟩
  have ignored := heap.ignores _ _ pages data.offset raw level.intact (Nat.le_refl _) nonempty more
    bounded enough
  refine ⟨⟨level.module_eq, level.open_eq, ignored.1, level.above, level.bounded, ?_⟩, since,
    stored.2⟩
  intro entry member
  exact meaning.ignores _ pages data.offset raw _ _ _ (level.bounded entry member) more
    (level.holds entry member)

/-- What a text of the guest, if there is one, says about an evaluation. -/
def textOutcome (path : String) (schema : Schema) (result : Address) (text : Option Bytes) :
    Except Fault Value :=
  match text with
  | some text => Semantics.valueIn path schema text
  | none => .error (.report (Exchange.unterminated "result set" "result" result))

theorem reads_textOutcome (path : String) (schema : Schema) (result : Address)
    (text : Option Bytes) :
    Semantics.Reads Discipline.heapRewind.unread path schema text
      (textOutcome path schema result text) := by
  cases text with
  | some text => exact .text text
  | none => exact .unterminated result

section

variable {entrypoint : Int} {data behind start : Address} {raw : Bytes}

/-- The request that evaluates an input text. -/
def evaluation (entrypoint : Int) (data behind start : Address) (raw : Bytes) : Request :=
  .evaluate (UInt32.ofInt entrypoint) data.toWord behind.toWord (UInt32.ofInt raw.length)
    start.toWord

theorem evaluation_words :
    (Discipline.evalArguments entrypoint data behind raw.length start).map UInt32.ofInt =
      (evaluation entrypoint data behind start raw).arguments := by
  simp only [Discipline.evalArguments, List.map_cons, List.map_nil, Address.ofInt_offset]
  rfl

variable (starts : start.offset = behind.offset + raw.length)
include starts

/-- The length of a text that an address lies behind fits a word. -/
theorem evaluation_small : raw.length < 2 ^ 32 := by
  have inRange := start.inRange
  omega

theorem evaluation_read (stored : guest.memory.bytes behind.offset raw.length = raw) :
    guest.snapshot.memory.bytes behind.toWord.toNat (UInt32.ofInt (raw.length : Int)).toNat =
      raw :=
  guest.snapshot.memory.bytes_of_words behind (evaluation_small starts) stored

/-- A text behind the dataset may be evaluated, if the heap begins behind it. -/
theorem evaluation_allowed (entrypoint : Int) {y : δ} {dataBound : Nat}
    (level : Level meaning behind.offset entries guest)
    (entered : ⟨dataBound, data.toWord, Object.document y⟩ ∈ entries) :
    heap.Allows (evaluation entrypoint data behind start raw) guest.snapshot := by
  refine level.allows _ rfl (Address.toWord_toNat behind) ?_ (fun _ same => nomatch same) ?_
  · intro use member
    rw [List.mem_singleton.mp member]
    exact ⟨_, _, entered, rfl⟩
  · intro _ _ _ _ _ same
    rcases Request.evaluate.inj same with ⟨rfl, rfl, rfl, rfl, rfl⟩
    exact Nat.le_of_eq (by
      rw [Address.toWord_toNat, Address.toWord_toNat,
        toNat_ofInt raw.length (evaluation_small starts), starts])

/-- The guest evaluates an input text that lies behind the dataset, and keeps
what is listed in front of it. -/
theorem evaluateText_ends (equipped : Discipline.heapRewind.Equips module) (path : String) (y : δ)
    (dataBound : Nat) (schema : Schema) (level : Level meaning behind.offset entries guest)
    (entered : ⟨dataBound, data.toWord, Object.document y⟩ ∈ entries)
    (stored : guest.memory.bytes behind.offset raw.length = raw) :
    Operation.Ends
      (Instance.callAddress "opa_eval"
        (Discipline.evalArguments entrypoint data behind raw.length start)) guest
      (fun result after => Level meaning behind.offset entries after ∧
        Since heap behind.offset behind.offset guest after ∧
        semantics.JudgesText path (UInt32.ofInt entrypoint) schema raw y .heapRewind
          (textOutcome path schema result (after.memory.untilZero result.offset)))
      (fun _ after => after.trapped = true) := by
  have allowed := evaluation_allowed starts entrypoint level entered
  have read := evaluation_read starts stored
  have atBehind : behind.offset ≤ behind.toWord.toNat :=
    Nat.le_of_eq (Address.toWord_toNat behind).symm
  have floor : behind.offset ≤ heap.floor guest.snapshot
      (evaluation entrypoint data behind start raw) := by
    change behind.offset ≤ start.toWord.toNat
    rw [Address.toWord_toNat, starts]
    exact Nat.le_add_right _ _
  refine (level.callAddress_ends equipped (evaluation entrypoint data behind start raw) _
    evaluation_words allowed rfl).mono ?_ (fun _ _ closed => closed)
  rintro result evaluated ⟨done, _⟩
  refine ⟨level.next allowed done atBehind level.above level.bounded ?_,
    Since.request level.module_eq allowed done ?_ floor, ?_⟩
  · intro entry member
    exact level.kept allowed done entry member (Nat.le_trans (level.bounded entry member) floor)
  · intro place member
    rw [← Option.mem_some.mp member]
    exact floor
  have told := reads_textOutcome path schema result (evaluated.memory.untilZero result.offset)
  by_cases parsed : ∃ x, semantics.parses raw (some x)
  · rcases parsed with ⟨x, accepted⟩
    have meant := meaning.evaluates _ _ _ _ _ x y dataBound _ _ _ allowed (level.answered done)
      (Nat.le_trans (level.bounded _ entered) atBehind) (level.holds _ entered)
      (by rw [read]; exact accepted)
    rcases meant with ⟨set, answered, dumped⟩
    rw [Address.toWord_toNat] at dumped
    exact .parsed _ x _ accepted (.dumped set _ _ answered dumped told)
  · have garbled := meaning.garbles _ _ _ _ _ y dataBound _ _ _ allowed (level.answered done)
      (Nat.le_trans (level.bounded _ entered) atBehind) (level.holds _ entered)
      (by rw [read]; exact parsed)
    rw [read, Address.toWord_toNat] at garbled
    exact .garbled _ _ parsed garbled told

end

/-- A single evaluation reads its input behind the dataset and leaves the heap
pointer there, whether it returned or failed.  Only an input that would end
past the last address is refused before anything is done. -/
theorem evaluate_ends (equipped : Discipline.heapRewind.Equips module)
    (terms : Region.Terms) (checkpoints : Checkpoints) (path : String) (entrypoint : Int)
    (data : Address) (y : δ) (dataBound : Nat) (input : Value) (raw : Bytes) (schema : Schema)
    (encoded : Payload.encode input = .ok raw)
    (level : Level meaning checkpoints.data.offset entries guest)
    (entered : ⟨dataBound, data.toWord, Object.document y⟩ ∈ entries) :
    Operation.Ends
      (Discipline.heapRewind.evaluate terms checkpoints path entrypoint data input schema) guest
      (fun value after =>
        Rewound meaning checkpoints.data.offset checkpoints.data.offset checkpoints.data.offset
          entries guest after ∧
        semantics.JudgesText path (UInt32.ofInt entrypoint) schema raw y .heapRewind
          (.ok value))
      (fun fault after => after.trapped = true ∨ (fault.isShortage ∧ after = guest) ∨
        Rewound meaning checkpoints.data.offset checkpoints.data.offset checkpoints.data.offset
          entries guest after ∧
        (fault.isShortage ∨
          semantics.JudgesText path (UInt32.ofInt entrypoint) schema raw y .heapRewind
            (.error fault))) := by
  unfold Discipline.evaluate
  rw [Operation.ends_bind, Operation.ends_liftReport, encoded]
  dsimp only
  rw [Operation.ends_bind, Operation.ends_lift]
  rcases Address.advance_cases checkpoints.data raw.length with
    ⟨start, advanced, startEq⟩ | ⟨offset, outside⟩
  case inr =>
    rw [outside]
    exact Or.inr (Or.inl ⟨Or.inr rfl, rfl⟩)
  rw [advanced]
  dsimp only
  have rewound : ∀ middle : Instance σ, Level meaning checkpoints.data.offset entries middle →
      Since heap checkpoints.data.offset checkpoints.data.offset guest middle →
      Operation.Ends (Region.rewind checkpoints.data) middle
        (fun _ after => Rewound meaning checkpoints.data.offset checkpoints.data.offset
          checkpoints.data.offset entries guest after)
        (fun _ after => after.trapped = true) :=
    fun middle levelMiddle since => rewind_ends equipped checkpoints.data _ _ entries guest
      levelMiddle since (Nat.le_refl _) (Nat.le_refl _) level.above (fun _ member => member)
      level.bounded
  rw [Operation.ends_bind, Operation.ends_ensuring, Operation.ends_bind]
  refine (write_ends terms checkpoints.data raw (Payload.encode_ne_nil input raw encoded)
    level).mono ?_ ?_
  case refine_2 =>
    rintro fault middle ⟨refused, rfl⟩
    exact (rewound middle level (Since.refl heap _ _ middle)).mono
      (fun _ _ left => Or.inr (Or.inr ⟨left, Or.inl (Or.inl refused)⟩))
      (fun _ _ closed => Or.inl closed)
  rintro _ written ⟨levelWritten, sinceWritten, stored⟩
  rw [Operation.ends_bind]
  refine (evaluateText_ends startEq equipped path y dataBound schema levelWritten entered
    stored).mono ?_
    (fun _ middle closed => (Region.rewind_closed checkpoints.data middle closed).mono
      (fun _ _ closed => Or.inl closed) (fun _ _ closed => Or.inl closed))
  rintro result evaluated ⟨levelEvaluated, sinceEvaluated, judged⟩
  rw [Operation.ends_bind, Region.readUntilZero_ends, Operation.ends_pure]
  refine (rewound evaluated levelEvaluated (sinceWritten.trans sinceEvaluated)).mono ?_
    (fun _ _ closed => Or.inl closed)
  intro _ after left
  cases found : evaluated.memory.untilZero result.offset with
  | some text =>
    rw [found, textOutcome] at judged
    dsimp only at judged ⊢
    rw [Semantics.ends_lastResult]
    cases decoded : Semantics.valueIn path schema text with
    | ok value =>
      rw [decoded] at judged
      exact ⟨left, judged⟩
    | error fault =>
      rw [decoded] at judged
      exact Or.inr (Or.inr ⟨left, Or.inr judged⟩)
  | none =>
    rw [found] at judged
    exact Or.inr (Or.inr ⟨left, Or.inr judged⟩)

end HeapRewind
end PolicyHost
