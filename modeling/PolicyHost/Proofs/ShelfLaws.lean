import PolicyHost.Proofs.Service
import PolicyHost.Proofs.Shelf

namespace PolicyHost

/-!
# The laws of the shelf

What a request may change is said once, in `Kept`: nothing in front of the
place where it works, apart from the record that it touches.  The laws of
either discipline about what stays follow from this, and what is new is read
off the request.
-/

variable {δ : Type} {rules : Rules δ} {table : δ} {minor : Int}
variable {before after : Snapshot (Shelf δ)} {answer : Option UInt32}

/-- Nothing changed in front of a place, apart from one thing. -/
structure Kept (before after : Snapshot (Shelf δ)) (start : Nat) (touched : Option UInt32) :
    Prop where
  pages_eq : after.memory.pages = before.memory.pages
  byte_eq : ∀ address < start, after.memory.byte address = before.memory.byte address
  thing_eq : ∀ address : UInt32, address.toNat < start → touched ≠ some address →
    after.state.thing address = before.state.thing address

namespace Kept

theorem ne_pointer {pointer address : UInt32} (before : address.toNat < pointer.toNat) :
    address ≠ pointer := by
  rintro rfl
  exact Nat.lt_irrefl _ before

theorem of_eq {start : Nat} {touched : Option UInt32} (memory : after.memory = before.memory)
    (things : after.state.thing = before.state.thing) : Kept before after start touched :=
  ⟨by rw [memory], fun _ _ => by rw [memory], fun _ _ _ => by rw [things]⟩

theorem handed {size : Nat} {object : Object δ} {touched : Option UInt32}
    (handed : before.Handed size object answer after) :
    Kept before after before.state.pointer.toNat touched where
  pages_eq := by rw [handed.memory_eq]
  byte_eq _ _ := by rw [handed.memory_eq]
  thing_eq address inside _ := by
    rw [handed.state_eq, Shelf.put_thing_of_ne _ _ _ _ (ne_pointer inside)]

theorem said {text : Bytes} {touched : Option UInt32} (said : before.Said text answer after) :
    Kept before after before.state.pointer.toNat touched where
  pages_eq := by rw [said.memory_eq, Memory.overwrite_pages]
  byte_eq address inside := by
    rw [said.memory_eq, Memory.byte_overwrite_of_lt _ _ _ _ (UInt32.toNat_lt _) inside]
  thing_eq address inside _ := by
    rw [said.state_eq, Shelf.put_thing_of_ne _ _ _ _ (ne_pointer inside)]

theorem changed {context : UInt32} {thing : Thing δ} {object : Object δ} {start : Nat}
    (changed : before.Changed context thing object answer after) :
    Kept before after start (some context) where
  pages_eq := by rw [changed.memory_eq]
  byte_eq _ _ := by rw [changed.memory_eq]
  thing_eq address _ untouched := by
    rw [changed.state_eq, Shelf.replace_thing_of_ne]
    rintro rfl
    exact untouched rfl

end Kept

/-- A run stored its result set at the pointer. -/
structure Ran (rules : Rules δ) (before : Snapshot (Shelf δ)) (context : UInt32) (slots : Slots)
    (thing : Thing δ) (d : δ) (answer : Option UInt32) (after : Snapshot (Shelf δ)) : Prop where
  found : before.state.thing context = some thing
  object_eq : thing.object = .record slots
  judged : before.state.judge rules slots = some d
  room : before.state.stop 0 < 2 ^ 32
  memory_eq : after.memory = before.memory
  state_eq : after.state = (before.state.put 0 (.document d)).replace context
    (some { thing with result := before.state.pointer })

/-- The record refers to the result set after the run. -/
theorem Ran.thing_eq {context : UInt32} {slots : Slots} {thing : Thing δ} {d : δ}
    (ran : Ran rules before context slots thing d answer after) :
    after.state.thing context = some { thing with result := before.state.pointer } := by
  rw [ran.state_eq, Shelf.replace_thing]

theorem Ran.placed {context : UInt32} {slots : Slots} {thing : Thing δ} {d : δ}
    (ran : Ran rules before context slots thing d answer after)
    (inside : context.toNat < before.state.pointer.toNat) :
    before.Placed 0 (.document d) after where
  pages_eq := by rw [ran.memory_eq]
  pointer_eq := by rw [ran.state_eq, Shelf.replace_pointer, Shelf.put_pointer _ _ _ ran.room]
  live_eq := by rw [ran.state_eq, Shelf.replace_live, Shelf.put_live]
  thing_eq := by
    rw [ran.state_eq, Shelf.replace_thing_of_ne _ _ _ _ (Kept.ne_pointer inside).symm,
      Shelf.put_thing]

/-- An evaluation of an input text wrote its result set at the heap address. -/
structure Evaluated (rules : Rules δ) (before : Snapshot (Shelf δ))
    (entrypoint data input length heap : UInt32) (x y : δ) (answer : Option UInt32)
    (after : Snapshot (Shelf δ)) : Prop where
  parsed : rules.parse (before.memory.bytes input.toNat length.toNat) = some x
  found : before.state.document data = some y
  within : Shelf.bottom ≤ heap
  said : Snapshot.Said ⟨before.memory, { before.state with pointer := heap }⟩
    (rules.dump (rules.answer entrypoint x y)) answer after

namespace Request

theorem serve_run {context : UInt32}
    (served : (Request.run context).serve rules before = some (answer, after)) :
    ∃ slots thing d, Ran rules before context slots thing d answer after := by
  rcases Option.bind_eq_some_iff.mp served with ⟨⟨slots, thing⟩, record, served⟩
  rcases Option.bind_eq_some_iff.mp served with ⟨d, judged, served⟩
  rcases Option.bind_eq_some_iff.mp served with ⟨⟨document, middle⟩, handed, served⟩
  rcases Option.bind_eq_some_iff.mp served with ⟨result, same, ⟨⟩⟩
  rw [Snapshot.hand_eq_some] at handed
  rw [Shelf.record_eq_some] at record
  cases handed.answer_eq.symm.trans same
  refine ⟨slots, thing, d, record.1, record.2, judged, handed.room, handed.memory_eq, ?_⟩
  dsimp only
  rw [handed.state_eq]

/-- What an evaluation of an input text does. -/
theorem serve_evaluate {entrypoint data input length heap : UInt32}
    (served : (Request.evaluate entrypoint data input length heap).serve rules before =
      some (answer, after)) :
    ∃ x y, Evaluated rules before entrypoint data input length heap x y answer after := by
  rcases Option.bind_eq_some_iff.mp served with ⟨x, parsed, served⟩
  rcases Option.bind_eq_some_iff.mp served with ⟨y, found, served⟩
  rw [Option.ite_none_right_eq_some, Snapshot.say_eq_some] at served
  exact ⟨x, y, parsed, found, served.1, served.2⟩

/-- An evaluation that can be done is served. -/
theorem serve_of_evaluated {entrypoint data input length heap : UInt32} {x y : δ}
    (evaluated : Evaluated rules before entrypoint data input length heap x y answer after) :
    (Request.evaluate entrypoint data input length heap).serve rules before =
      some (answer, after) := by
  apply Option.bind_eq_some_iff.mpr ⟨x, evaluated.parsed, ?_⟩
  apply Option.bind_eq_some_iff.mpr ⟨y, evaluated.found, ?_⟩
  rw [if_pos evaluated.within]
  exact Snapshot.say_eq_some.mpr evaluated.said

theorem serve_parse {text length : UInt32}
    (served : (Request.parse text length).serve rules before = some (answer, after)) :
    (rules.parse (before.memory.bytes text.toNat length.toNat) = none ∧ answer = some 0 ∧
        after = before) ∨
      ∃ d, rules.parse (before.memory.bytes text.toNat length.toNat) = some d ∧
        before.Handed 0 (.document d) answer after := by
  simp only [serve] at served
  cases parsed : rules.parse (before.memory.bytes text.toNat length.toNat) with
  | none =>
    rw [parsed] at served
    cases served
    exact .inl ⟨rfl, rfl, rfl⟩
  | some d =>
    rw [parsed] at served
    exact .inr ⟨d, rfl, Snapshot.hand_eq_some.mp served⟩

theorem serve_dump {document : UInt32}
    (served : (Request.dump document).serve rules before = some (answer, after)) :
    ∃ d, before.state.document document = some d ∧ before.Said (rules.dump d) answer after := by
  rcases Option.bind_eq_some_iff.mp served with ⟨d, found, served⟩
  exact ⟨d, found, Snapshot.say_eq_some.mp served⟩

/-- The place from which on a request may change anything. -/
def start (request : Request) (shelf : Shelf δ) : Nat :=
  match request with
  | evaluate _ _ _ _ heap => heap.toNat
  | _ => shelf.pointer.toNat

theorem start_releases (request : Request) (shelf : Shelf δ)
    (releases : request.releases = true) : request.start shelf = shelf.pointer.toNat := by
  cases request with
  | evaluate => cases releases
  | _ => rfl

theorem serve_kept {request : Request}
    (served : request.serve rules before = some (answer, after)) :
    Kept before after (request.start before.state) request.touched := by
  cases request with
  | malloc | newContext => exact .handed (Snapshot.hand_eq_some.mp served)
  | parse =>
    rcases serve_parse served with ⟨_, _, rfl⟩ | ⟨d, _, handed⟩
    · exact .of_eq rfl rfl
    · exact .handed handed
  | dump =>
    rcases serve_dump served with ⟨d, _, said⟩
    exact .said said
  | setInput | setData | setEntrypoint =>
    simp only [serve, Snapshot.change_eq_some] at served
    rcases served with ⟨_, _, _, _, changed⟩
    exact .changed changed
  | run =>
    rcases serve_run served with ⟨slots, thing, d, ran⟩
    refine ⟨by rw [ran.memory_eq], fun _ _ => by rw [ran.memory_eq], ?_⟩
    intro address inside untouched
    rw [ran.state_eq, Shelf.replace_thing_of_ne,
      Shelf.put_thing_of_ne _ _ _ _ (Kept.ne_pointer inside)]
    rintro rfl
    exact untouched rfl
  | free =>
    cases served
    refine ⟨rfl, fun _ _ => rfl, ?_⟩
    intro address _ untouched
    refine Shelf.replace_thing_of_ne _ _ _ _ ?_
    rintro rfl
    exact untouched rfl
  | result | heapPointer | setHeapPointer =>
    cases served
    exact .of_eq rfl rfl
  | evaluate =>
    rcases serve_evaluate served with ⟨x, y, evaluated⟩
    rcases Kept.said evaluated.said with ⟨pages, bytes, things⟩
    exact ⟨pages, bytes, things⟩

/-- A context record that is used stays one, in its place. -/
theorem serve_touched {request : Request} {context : UInt32}
    (served : request.serve rules before = some (answer, after))
    (touched : request.touched = some context) (frees : ∀ block, request ≠ .free block) :
    ∃ slots slots' thing thing', before.state.thing context = some thing ∧
      after.state.thing context = some thing' ∧ thing.object = .record slots ∧
        thing'.object = .record slots' ∧ thing'.stop = thing.stop := by
  cases request with
  | malloc | parse | dump | newContext | result | heapPointer | setHeapPointer | evaluate =>
    cases touched
  | setInput | setData | setEntrypoint =>
    cases touched
    simp only [serve, Snapshot.change_eq_some] at served
    rcases served with ⟨slots, thing, found, object, changed⟩
    exact ⟨slots, _, thing, _, found, changed.thing_eq, object, rfl, rfl⟩
  | run =>
    cases touched
    rcases serve_run served with ⟨slots, thing, d, ran⟩
    exact ⟨slots, slots, thing, _, ran.found, ran.thing_eq, ran.object_eq, ran.object_eq, rfl⟩
  | free block => exact absurd rfl (frees block)

end Request

namespace Shelf

theorem shape_eq {shelf : Shelf δ} {address : UInt32} {thing : Thing δ}
    (found : shelf.thing address = some thing) : shelf.shape address = thing.object.shape := by
  unfold shape
  rw [found]
  rfl

theorem result_eq {shelf : Shelf δ} {address : UInt32} {thing : Thing δ}
    (found : shelf.thing address = some thing) : shelf.result address = thing.result := by
  unfold result
  rw [found]
  rfl

/-- The record says that the result set is where the pointer was. -/
theorem result_ran {context : UInt32} {slots : Slots} {thing : Thing δ} {d : δ}
    (ran : Ran rules before context slots thing d answer after) :
    after.state.result context = before.state.pointer :=
  result_eq ran.thing_eq

/-- The result set is where the record says. -/
theorem thing_ran {context : UInt32} {slots : Slots} {thing : Thing δ} {d : δ}
    (ran : Ran rules before context slots thing d answer after)
    (inside : context.toNat < before.state.pointer.toNat) :
    after.state.thing (after.state.result context) =
      some ⟨.document d, before.state.stop 0, 0⟩ := by
  rw [result_ran ran, (ran.placed inside).thing_eq]

theorem initialPages_le : Builder.initialPages ≤ mostPages := by decide

/-- An object is at an address. -/
def Holds (shelf : Shelf δ) (address : UInt32) (object : Object δ) : Prop :=
  ∃ thing, shelf.thing address = some thing ∧ thing.object = object

theorem holds_text {shelf : Shelf δ} {address : UInt32} (text : shelf.shape address = .text) :
    shelf.Holds address .text := by
  cases found : shelf.thing address with
  | none =>
    unfold shape at text
    rw [found] at text
    cases text
  | some thing =>
    rw [shape_eq found] at text
    refine ⟨thing, found, ?_⟩
    cases object : thing.object with
    | text => rfl
    | document d | record slots =>
      rw [object] at text
      cases text

theorem thing_changed {context : UInt32} (f : Slots → Slots) {slots : Slots} {thing : Thing δ}
    (changed : before.change context f = some (answer, after))
    (found : before.state.thing context = some thing) (object : thing.object = .record slots) :
    after.state.thing context = some { thing with object := .record (f slots) } := by
  rcases Snapshot.change_eq_some.mp changed with ⟨slots', thing', found', object', changed⟩
  cases found.symm.trans found'
  cases object.symm.trans object'
  exact changed.thing_eq

/-- A judgement is about the documents that the record refers to. -/
theorem judge_eq {shelf : Shelf δ} {input data entrypoint : UInt32} {x y d : δ}
    (judged : shelf.judge rules ⟨some input, some data, some entrypoint⟩ = some d)
    (first : shelf.Holds input (.document x)) (second : shelf.Holds data (.document y)) :
    d = rules.answer entrypoint x y := by
  unfold judge at judged
  simp only [Option.bind_eq_bind, Option.bind_some, document_eq_some.mpr first,
    document_eq_some.mpr second] at judged
  cases judged
  rfl

theorem ran_served {context input data entrypoint : UInt32} {thing : Thing δ} {x y : δ}
    (served : (Request.run context).serve rules before = some (answer, after))
    (found : before.state.thing context = some thing)
    (object : thing.object = .record ⟨some input, some data, some entrypoint⟩)
    (first : before.state.Holds input (.document x))
    (second : before.state.Holds data (.document y)) :
    Ran rules before context ⟨some input, some data, some entrypoint⟩ thing
      (rules.answer entrypoint x y) answer after := by
  rcases Request.serve_run served with ⟨slots, thing', d, ran⟩
  cases ran.found.symm.trans found
  cases ran.object_eq.symm.trans object
  rw [← judge_eq ran.judged first second]
  exact ran

/-! ### Under the explicit discipline -/

/-- Every live block is in front of the pointer. -/
structure Sound (found : Snapshot (Shelf δ)) : Prop where
  bounded : found.memory.pages ≤ mostPages
  positive : 0 < found.state.pointer.toNat
  handed : ∀ block ∈ found.state.live, 0 < block.toNat ∧ block.toNat < found.state.pointer.toNat

/-- How the accounts are read off the shelf. -/
def books : Books (Shelf δ) where
  sound := Sound
  live found := found.state.live
  shape found := found.state.shape
  result found := found.state.result

namespace Sound

/-- Live blocks may go, as long as the pointer stays. -/
theorem of_subset (sound : Sound before) (pages : after.memory.pages = before.memory.pages)
    (pointer : after.state.pointer = before.state.pointer)
    (live : after.state.live ⊆ before.state.live) : Sound after where
  bounded := by
    rw [pages]
    exact sound.bounded
  positive := by
    rw [pointer]
    exact sound.positive
  handed block member := by
    rw [pointer]
    exact sound.handed block (live member)

/-- A thing that was put at the pointer is a new block. -/
theorem gains (sound : Sound before) {size : Nat} {object : Object δ}
    (placed : before.Placed size object after) :
    Sound after ∧ books.Gains before.state.pointer object.shape before after := by
  have beyond : before.state.pointer.toNat < after.state.pointer.toNat := by
    rw [placed.pointer_eq, stop]
    omega
  refine ⟨⟨?_, Nat.lt_trans sound.positive beyond, ?_⟩, ?_, placed.live_eq,
    shape_eq placed.thing_eq⟩
  · rw [placed.pages_eq]
    exact sound.bounded
  · intro block member
    rw [placed.live_eq, Finset.mem_insert] at member
    rcases member with rfl | member
    · exact ⟨sound.positive, beyond⟩
    · exact ⟨(sound.handed block member).1, Nat.lt_trans (sound.handed block member).2 beyond⟩
  · intro member
    exact Nat.lt_irrefl _ (sound.handed _ member).2

/-- A live block is not at the null address. -/
theorem pointer_ne_zero (sound : Sound before) : before.state.pointer ≠ 0 := by
  intro zero
  have positive := sound.positive
  rw [zero] at positive
  exact Nat.lt_irrefl 0 positive

/-- A request keeps the accounts in order. -/
theorem served {request : Request} (sound : Sound before) (allowed : books.Allows request before)
    (served : request.serve rules before = some (answer, after)) :
    Sound after ∧ books.Effect before answer after request := by
  cases request with
  | malloc | newContext =>
    have handed := Snapshot.hand_eq_some.mp served
    rcases sound.gains handed.placed with ⟨sound, gained⟩
    exact ⟨sound, _, handed.answer_eq, gained⟩
  | parse =>
    rcases Request.serve_parse served with ⟨_, rfl, rfl⟩ | ⟨d, _, handed⟩
    · exact ⟨sound, 0, rfl, fun _ => rfl, fun accepted => absurd rfl accepted⟩
    · rcases sound.gains handed.placed with ⟨later, gained⟩
      exact ⟨later, _, handed.answer_eq, fun zero => absurd zero sound.pointer_ne_zero,
        fun _ => gained⟩
  | dump =>
    rcases Request.serve_dump served with ⟨d, _, said⟩
    rcases sound.gains said.placed with ⟨sound, gained⟩
    exact ⟨sound, _, said.answer_eq, gained⟩
  | setInput | setData | setEntrypoint =>
    simp only [Request.serve, Snapshot.change_eq_some] at served
    rcases served with ⟨_, _, _, _, changed⟩
    have live : after.state.live = before.state.live := by rw [changed.state_eq, replace_live]
    refine ⟨sound.of_subset (by rw [changed.memory_eq]) ?_ (by rw [live]), live⟩
    rw [changed.state_eq, replace_pointer]
  | run context =>
    rcases Request.serve_run served with ⟨slots, thing, d, ran⟩
    have live := (allowed.2.2 (context, .record) (by simp [Request.uses])).1
    rcases sound.gains (ran.placed (sound.handed context live).2) with ⟨sound, gained⟩
    refine ⟨sound, ?_⟩
    rw [← result_ran ran] at gained
    exact gained
  | result =>
    cases served
    exact ⟨sound, rfl, rfl⟩
  | free block =>
    cases served
    exact ⟨sound.of_subset rfl rfl (Finset.erase_subset _ _), rfl⟩
  | heapPointer | setHeapPointer | evaluate => cases allowed.1

theorem shape_served {request : Request} {block : UInt32} (sound : Sound before)
    (allowed : books.Allows request before)
    (served : request.serve rules before = some (answer, after))
    (live : block ∈ before.state.live) (kept : request ≠ .free block) :
    after.state.shape block = before.state.shape block := by
  by_cases touched : request.touched = some block
  · have frees : ∀ other, request ≠ .free other := by
      rintro other rfl
      cases touched
      exact kept rfl
    rcases Request.serve_touched served touched frees with
      ⟨slots, slots', thing, thing', found, found', object, object', _⟩
    rw [shape_eq found, shape_eq found', object, object']
    rfl
  · unfold shape
    rw [(Request.serve_kept served).thing_eq block ?_ touched]
    rw [Request.start_releases _ _ allowed.1]
    exact (sound.handed block live).2

end Sound

section

variable (rules table minor)

/-- The shelf keeps accounts of its blocks. -/
def accounts : Accounts (toModule rules table minor) where
  toBooks := books
  starts limit after started := by
    cases started
    have positive : 0 < bottom.toNat := by decide
    exact ⟨initialPages_le, positive, fun _ member => by cases member⟩
  bounded _ sound := sound.bounded
  nonnull _ sound member := absurd (sound.handed 0 member).1 (Nat.lt_irrefl 0)
  table before answer after sound answered := by
    rw [answers_iff, enter, if_pos rfl, Snapshot.hand_eq_some] at answered
    rcases sound.gains answered.placed with ⟨later, gained⟩
    exact ⟨later, _, answered.answer_eq, gained.2.1 ▸ Finset.mem_insert_self _ _, gained.2.2⟩
  answers request before answer after sound allowed answered :=
    sound.served allowed ((answered_iff ..).mp answered)
  shapes request before answer after block sound allowed answered live kept :=
    sound.shape_served allowed ((answered_iff ..).mp answered) live kept
  fills size before block after pages bytes sound answered _ _ most _ := by
    have allowed : books.Allows (.malloc size) before :=
      books.allows_unused _ before rfl rfl rfl
    have later := (sound.served allowed ((answered_iff ..).mp answered)).1
    exact ⟨⟨most, later.positive, later.handed⟩, rfl, fun _ _ => rfl⟩

/-- What the blocks of the shelf hold. -/
def meaning : Meaning (accounts rules table minor) (.ofRules rules) where
  holds found := found.state.Holds
  shaped _ _ _ := by
    rintro ⟨thing, found, rfl⟩
    exact shape_eq found
  texts _ _ := holds_text
  keeps request before answer after block object sound allowed answered live untouched := by
    rintro ⟨thing, found, same⟩
    have served := (answered_iff ..).mp answered
    refine ⟨thing, ?_, same⟩
    rw [(Request.serve_kept served).thing_eq block ?_ untouched, found]
    rw [Request.start_releases _ _ allowed.1]
    exact (sound.handed block live).2
  fills _ _ _ _ _ _ _ _ _ _ _ _ _ _ _ _ held := held
  parses text length before document after sound allowed answered := by
    rcases Request.serve_parse ((answered_iff ..).mp answered) with
      ⟨rejected, same, rfl⟩ | ⟨d, parsed, handed⟩
    · cases same
      exact ⟨fun _ => rejected.symm, fun accepted => absurd rfl accepted⟩
    · cases handed.answer_eq
      exact ⟨fun zero => absurd zero sound.pointer_ne_zero,
        fun _ => ⟨d, parsed.symm, _, handed.placed.thing_eq, rfl⟩⟩
  opens before context after sound answered := by
    have handed := Snapshot.hand_eq_some.mp ((answered_iff ..).mp answered)
    cases handed.answer_eq
    exact ⟨_, handed.placed.thing_eq, rfl⟩
  setsInput context document slots before answer after sound allowed answered :=
    fun ⟨_, found, object⟩ => ⟨_, thing_changed ({ · with input := some document })
      ((answered_iff ..).mp answered) found object, rfl⟩
  setsData context document slots before answer after sound allowed answered :=
    fun ⟨_, found, object⟩ => ⟨_, thing_changed ({ · with data := some document })
      ((answered_iff ..).mp answered) found object, rfl⟩
  setsEntrypoint context entrypoint slots before answer after sound allowed answered :=
    fun ⟨_, found, object⟩ => ⟨_, thing_changed ({ · with entrypoint := some entrypoint })
      ((answered_iff ..).mp answered) found object, rfl⟩
  runs context input data entrypoint x y before answer after sound allowed answered := by
    rintro ⟨thing, found, object⟩ _ first _ second
    have live := (allowed.2.2 (context, .record) (by simp [Request.uses])).1
    have ran := ran_served ((answered_iff ..).mp answered) found object first second
    exact ⟨⟨_, ran.thing_eq, object⟩, _, rfl, _, thing_ran ran (sound.handed context live).2, rfl⟩
  dumps document d before text after sound allowed answered := by
    rintro held
    rcases Request.serve_dump ((answered_iff ..).mp answered) with ⟨d', found, said⟩
    rw [document_eq_some.mpr held] at found
    cases found
    cases said.answer_eq
    exact said.untilZero sound.bounded

end

/-! ### Under the rewinding discipline -/

/-- A thing is at an address, and all of it in front of a bound. -/
structure Rests (shelf : Shelf δ) (bound : Nat) (address : UInt32) (thing : Thing δ) : Prop where
  found : shelf.thing address = some thing
  begins : address.toNat < thing.stop
  ends : thing.stop ≤ bound

/-- The pointer is not in front of a mark, nor of the bottom. -/
structure Intact (found : Snapshot (Shelf δ)) (mark : Nat) : Prop where
  marked : mark ≤ found.state.pointer.toNat
  grounded : bottom.toNat ≤ found.state.pointer.toNat
  bounded : found.memory.pages ≤ mostPages

/-- How the heap is read off the shelf. -/
def layout : Layout (Shelf δ) where
  bottom := bottom.toNat
  pointer found := found.state.pointer
  intact := Intact
  stores found bound address shape :=
    ∃ thing, Rests found.state bound address thing ∧ thing.object.shape = shape
  result found := found.state.result

namespace Intact

theorem pointer_ne_zero {mark : Nat} (intact : Intact before mark) : before.state.pointer ≠ 0 := by
  intro zero
  have grounded := intact.grounded
  rw [zero] at grounded
  exact absurd grounded (by decide)

/-- After a thing was put at the pointer the guest is in order up to its end,
and the thing rests in front of that. -/
theorem advance {mark size : Nat} {object : Object δ} (intact : Intact before mark)
    (placed : before.Placed size object after) :
    Intact after after.state.pointer.toNat ∧
      before.state.pointer.toNat ≤ after.state.pointer.toNat ∧
      Rests after.state after.state.pointer.toNat before.state.pointer
        ⟨object, before.state.stop size, 0⟩ := by
  have grounded := intact.grounded
  have pointer := placed.pointer_eq
  refine ⟨⟨Nat.le_refl _, ?_, ?_⟩, ?_, placed.thing_eq, ?_, Nat.le_of_eq pointer.symm⟩
  · rw [pointer, stop]
    omega
  · rw [placed.pages_eq]
    exact intact.bounded
  · rw [pointer, stop]
    omega
  · dsimp only
    rw [stop]
    omega

end Intact

/-- What a request changes is not in front of the place where it works. -/
theorem floor_le {request : Request} (allowed : layout.Allows request before) :
    layout.floor before request ≤ request.start before.state := by
  have used : ∀ context, (context, Shape.record) ∈ request.uses →
      layout.needs before request ≤ before.state.pointer.toNat →
      context.toNat ≤ before.state.pointer.toNat := by
    intro context member top
    rcases allowed.uses _ member with ⟨bound, below, thing, rests, _⟩
    have begins := rests.begins
    have ends := rests.ends
    dsimp only at begins ends
    omega
  have top := allowed.intact.marked
  cases request with
  | setInput | setData | setEntrypoint | run => exact used _ (by simp [Request.uses]) top
  | setHeapPointer => exact top
  | _ => exact Nat.le_refl _

/-- A thing in front of the place where a request works stays there. -/
theorem rests_served {request : Request} {bound : Nat} {address : UInt32} {thing : Thing δ}
    (allowed : layout.Allows request before)
    (served : request.serve rules before = some (answer, after))
    (below : bound ≤ layout.floor before request) (rests : Rests before.state bound address thing) :
    Rests after.state bound address thing := by
  have inside : address.toNat < layout.floor before request :=
    Nat.lt_of_lt_of_le rests.begins (Nat.le_trans rests.ends below)
  refine ⟨?_, rests.begins, rests.ends⟩
  rw [(Request.serve_kept served).thing_eq address (Nat.lt_of_lt_of_le inside (floor_le allowed)),
    rests.found]
  intro touched
  cases request with
  | setInput | setData | setEntrypoint | run =>
    cases touched
    exact Nat.lt_irrefl _ inside
  | free => cases allowed.rewinds
  | malloc | parse | dump | newContext | result | heapPointer | setHeapPointer | evaluate =>
    cases touched

theorem record_served {request : Request} {bound : Nat} {context : UInt32} {thing : Thing δ}
    (allowed : layout.Allows request before)
    (served : request.serve rules before = some (answer, after))
    (touched : request.touched = some context) (rests : Rests before.state bound context thing) :
    ∃ thing', Rests after.state bound context thing' ∧ thing'.object.shape = .record := by
  have frees : ∀ block, request ≠ .free block := by
    rintro block rfl
    cases allowed.rewinds
  rcases Request.serve_touched served touched frees with
    ⟨slots, slots', thing', later, found, found', _, object, stop_eq⟩
  cases rests.found.symm.trans found
  refine ⟨later, ⟨found', ?_, ?_⟩, by rw [object]; rfl⟩
  · rw [stop_eq]
    exact rests.begins
  · rw [stop_eq]
    exact rests.ends

theorem record_inside {request : Request} {context : UInt32}
    (allowed : layout.Allows request before) (used : (context, Shape.record) ∈ request.uses)
    (top : layout.needs before request ≤ before.state.pointer.toNat) :
    context.toNat < before.state.pointer.toNat := by
  rcases allowed.uses _ used with ⟨bound, below, thing, rests, _⟩
  exact Nat.lt_of_lt_of_le rests.begins (Nat.le_trans rests.ends (Nat.le_trans below top))

/-- A request keeps the heap in order. -/
theorem Intact.served {request : Request} (allowed : layout.Allows request before)
    (served : request.serve rules before = some (answer, after)) :
    Intact after (layout.leaves after request) ∧ layout.Effect before answer after request := by
  have intact : Intact before (layout.needs before request) := allowed.intact
  have same : ∀ {guest : Snapshot (Shelf δ)}, guest.memory.pages = before.memory.pages →
      guest.state.pointer = before.state.pointer → Intact guest guest.state.pointer.toNat := by
    intro guest pages pointer
    refine ⟨Nat.le_refl _, ?_, by rw [pages]; exact intact.bounded⟩
    rw [pointer]
    exact intact.grounded
  cases request with
  | malloc size =>
    have handed := Snapshot.hand_eq_some.mp served
    rcases intact.advance handed.placed with ⟨later, _, rests⟩
    refine ⟨later, _, handed.answer_eq, intact.pointer_ne_zero, Nat.le_refl _, ?_, _, rests, rfl⟩
    change _ ≤ after.state.pointer.toNat
    rw [handed.placed.pointer_eq, stop]
    omega
  | parse =>
    rcases Request.serve_parse served with ⟨_, rfl, rfl⟩ | ⟨d, _, handed⟩
    · exact ⟨intact, 0, rfl, Nat.le_refl _, fun accepted => absurd rfl accepted⟩
    · rcases intact.advance handed.placed with ⟨later, above, rests⟩
      exact ⟨later, _, handed.answer_eq, above, fun _ => ⟨_, rests, rfl⟩⟩
  | dump =>
    rcases Request.serve_dump served with ⟨d, _, said⟩
    rcases intact.advance said.placed with ⟨later, above, _⟩
    exact ⟨later, _, said.answer_eq, above⟩
  | newContext =>
    have handed := Snapshot.hand_eq_some.mp served
    rcases intact.advance handed.placed with ⟨later, above, rests⟩
    exact ⟨later, _, handed.answer_eq, Nat.le_refl _, above, _, rests, rfl⟩
  | setInput | setData | setEntrypoint =>
    simp only [Request.serve, Snapshot.change_eq_some] at served
    rcases served with ⟨_, _, _, _, changed⟩
    have pointer : after.state.pointer = before.state.pointer := by
      rw [changed.state_eq, replace_pointer]
    exact ⟨same (by rw [changed.memory_eq]) pointer, pointer⟩
  | run context =>
    rcases Request.serve_run served with ⟨slots, thing, d, ran⟩
    have used : (context, Shape.record) ∈ (Request.run context).uses := by simp [Request.uses]
    have inside := record_inside allowed used intact.marked
    rcases intact.advance (ran.placed inside) with ⟨later, above, rests⟩
    rw [← result_ran ran] at rests
    exact ⟨later, above, _, rests, rfl⟩
  | result | heapPointer =>
    cases served
    exact ⟨same rfl rfl, rfl, rfl⟩
  | free => cases allowed.rewinds
  | setHeapPointer address =>
    cases served
    exact ⟨⟨Nat.le_refl _, allowed.within address rfl, intact.bounded⟩, rfl⟩
  | evaluate entrypoint data input length heap =>
    rcases Request.serve_evaluate served with ⟨x, y, evaluated⟩
    have room := allowed.input _ _ _ _ _ rfl
    have grounded : bottom.toNat ≤ heap.toNat := evaluated.within
    have moved : Intact (⟨before.memory, { before.state with pointer := heap }⟩ : Snapshot _)
        input.toNat := ⟨by dsimp only; omega, grounded, intact.bounded⟩
    rcases moved.advance evaluated.said.placed with ⟨later, above, _⟩
    exact ⟨⟨Nat.le_trans moved.marked above, later.grounded, later.bounded⟩, _,
      evaluated.said.answer_eq, above⟩

section

variable (rules table minor)

/-- The shelf lets its heap be rewound. -/
def heap : Heap (toModule rules table minor) where
  toLayout := layout
  starts limit after started := by
    cases started
    exact ⟨Nat.le_refl _, Nat.le_refl _, initialPages_le⟩
  bounded _ _ intact := intact.bounded
  lower _ _ _ intact below := ⟨Nat.le_trans below intact.marked, intact.grounded, intact.bounded⟩
  reaches _ _ intact := ⟨intact.marked, intact.grounded⟩
  table before answer after intact answered := by
    rw [answers_iff, enter, if_pos rfl, Snapshot.hand_eq_some] at answered
    rcases Intact.advance intact answered.placed with ⟨later, _, rests⟩
    exact ⟨later, _, answered.answer_eq, _, rests, rfl⟩
  answers request before answer after allowed answered :=
    Intact.served allowed ((answered_iff ..).mp answered)
  keepsBytes request before answer after address allowed answered _ below :=
    (Request.serve_kept ((answered_iff ..).mp answered)).byte_eq address
      (Nat.lt_of_lt_of_le below (floor_le allowed))
  keepsStores request before answer after bound address shape allowed answered below := by
    rintro ⟨thing, rests, same⟩
    exact ⟨thing, rests_served allowed ((answered_iff ..).mp answered) below rests, same⟩
  keepsRecord request before answer after bound context allowed answered touched _ := by
    rintro ⟨thing, rests, _⟩
    exact record_served allowed ((answered_iff ..).mp answered) touched rests
  fills size before block after pages bytes allowed answered _ _ most _ := by
    rcases Intact.served allowed ((answered_iff ..).mp answered) with
      ⟨later, _, same, _, _, _, stored⟩
    cases same
    exact ⟨⟨later.marked, later.grounded, most⟩, rfl, stored⟩
  ignores snapshot mark pages address bytes intact _ _ _ most _ :=
    ⟨⟨intact.marked, intact.grounded, most⟩, rfl⟩
  ignoresStores _ _ _ _ _ _ _ _ _ stored := stored

theorem rests_changed {found after : Snapshot (Shelf δ)} {answer : Option UInt32} {bound : Nat}
    {context : UInt32} {slots : Slots} (f : Slots → Slots)
    (changed : found.change context f = some (answer, after))
    (rested : ∃ thing, Rests found.state bound context thing ∧ thing.object = .record slots) :
    ∃ thing, Rests after.state bound context thing ∧ thing.object = .record (f slots) := by
  rcases rested with ⟨thing, rests, object⟩
  exact ⟨_, ⟨thing_changed f changed rests.found object, rests.begins, rests.ends⟩, rfl⟩

/-- What the heap of the shelf holds. -/
def heapMeaning : HeapMeaning (heap rules table minor) (.ofRules rules) where
  holds found bound address object :=
    ∃ thing, Rests found.state bound address thing ∧ thing.object = object
  shaped _ _ _ _ := by
    rintro ⟨thing, rests, rfl⟩
    exact ⟨thing, rests, rfl⟩
  texts _ _ _ := by
    rintro ⟨thing, rests, same⟩
    rcases holds_text ((shape_eq rests.found).trans same) with ⟨_, found, object⟩
    cases found.symm.trans rests.found
    exact ⟨thing, rests, object⟩
  keeps request before answer after bound address object allowed answered below := by
    rintro ⟨thing, rests, same⟩
    exact ⟨thing, rests_served allowed ((answered_iff ..).mp answered) below rests, same⟩
  ignores _ _ _ _ _ _ _ _ _ held := held
  parses text length before document after allowed answered := by
    have intact : Intact before before.state.pointer.toNat := allowed.intact
    rcases Request.serve_parse ((answered_iff ..).mp answered) with
      ⟨rejected, same, rfl⟩ | ⟨d, parsed, handed⟩
    · cases same
      exact ⟨fun _ => rejected.symm, fun accepted => absurd rfl accepted⟩
    · cases handed.answer_eq
      exact ⟨fun zero => absurd zero intact.pointer_ne_zero,
        fun _ => ⟨d, parsed.symm, _, (intact.advance handed.placed).2.2, rfl⟩⟩
  opens before context after allowed answered := by
    have intact : Intact before before.state.pointer.toNat := allowed.intact
    have handed := Snapshot.hand_eq_some.mp ((answered_iff ..).mp answered)
    cases handed.answer_eq
    exact ⟨_, (intact.advance handed.placed).2.2, rfl⟩
  setsInput context document slots bound before answer after allowed answered _ :=
    rests_changed ({ · with input := some document }) ((answered_iff ..).mp answered)
  setsData context document slots bound before answer after allowed answered _ :=
    rests_changed ({ · with data := some document }) ((answered_iff ..).mp answered)
  setsEntrypoint context entrypoint slots bound before answer after allowed answered _ :=
    rests_changed ({ · with entrypoint := some entrypoint }) ((answered_iff ..).mp answered)
  runs context input data entrypoint x y bound inputBound dataBound before answer after allowed
      answered _ := by
    rintro ⟨thing, rests, object⟩ _ ⟨_, first, firstObject⟩ _ ⟨_, second, secondObject⟩
    have intact : Intact before before.state.pointer.toNat := allowed.intact
    have used : (context, Shape.record) ∈ (Request.run context).uses := by simp [Request.uses]
    have ran := ran_served ((answered_iff ..).mp answered) rests.found object
      ⟨_, first.found, firstObject⟩ ⟨_, second.found, secondObject⟩
    have stored := (intact.advance (ran.placed (record_inside allowed used intact.marked))).2.2
    rw [← result_ran ran] at stored
    exact ⟨⟨_, ⟨ran.thing_eq, rests.begins, rests.ends⟩, object⟩, _, rfl, _, stored, rfl⟩
  dumps document d bound before text after allowed answered _ := by
    rintro ⟨thing, rests, same⟩
    rcases Request.serve_dump ((answered_iff ..).mp answered) with ⟨d', found, said⟩
    rw [document_eq_some.mpr ⟨thing, rests.found, same⟩] at found
    cases found
    cases said.answer_eq
    exact said.untilZero (allowed.intact : Intact before _).bounded
  evaluates entrypoint data input length start x y bound before text after allowed answered _ := by
    rintro ⟨thing, rests, same⟩ parsed
    rcases Request.serve_evaluate ((answered_iff ..).mp answered) with ⟨x', y', evaluated⟩
    cases parsed.trans evaluated.parsed
    have found := evaluated.found
    rw [document_eq_some.mpr ⟨thing, rests.found, same⟩] at found
    cases found
    cases evaluated.said.answer_eq
    exact ⟨_, rfl, evaluated.said.untilZero (allowed.intact : Intact before _).bounded⟩
  garbles := by intros; trivial

end

/-! ### An example -/

end Shelf

/-- The policy that answers with the input, whatever the dataset is. -/
def Rules.echo : Rules Bytes where
  parse := some
  answer _ input _ := Utf8.encode "[\x7b\"result\":" ++ input ++ Utf8.encode "\x7d]"
  dump := id

theorem Rules.echo_accepts : (Semantics.ofRules Rules.echo).Accepts :=
  fun _ raw _ => ⟨raw, rfl⟩

def Shelf.echoTable : Bytes := Utf8.encode "\x7b\"echo\":0\x7d"

def Shelf.echo (minor : Int) : Module (Shelf Bytes) := toModule .echo echoTable minor

/-- Uses of an echo that succeed and that fail: before there is a dataset,
under a name that it does not have, for a result of another type, while a
context is open, and in one that was ended. -/
def Shelf.echoUses : List Host.Use :=
  [.eval "echo" .null .any, .setData .null, .eval "echo" (.bool true) .bool,
    .eval "other" .null .any, .entrypointId "echo", .openContext (.list [.null]),
    .setData (.bool true), .contextEval 0 "echo" (.list .null), .contextEval 0 "echo" .bool,
    .destroy 0, .contextEval 0 "echo" .any, .setData (.bool true), .eval "echo" .null .null]

end PolicyHost
