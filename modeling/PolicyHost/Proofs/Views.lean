import PolicyHost.Proofs.Extent

namespace PolicyHost

/-!
# Views

A view is a window onto one allocation.  What is read and written through it is
checked against the allocation and not against memory, which is what keeps a
view from its neighbours: the write behind it would make room for anything.

The check alone decides, whatever the numbers are.  What passes it reads the
bytes that were last written there through the view, and the bytes that lay
there before where none were; what does not pass changes nothing.  There is one
exception: an empty write at the end of a view that ends with memory passes, and
is then taken for one outside memory.
-/

variable {σ : Type}

theorem Memory.slice_inside (memory : Memory) (start count : Nat)
    (inside : start + count ≤ memory.size) :
    memory.slice (start : Int) (start + count : Int) = memory.bytes start count := by
  have from_start : memory.place (start : Int) = start := by
    unfold place
    rw [if_neg (by omega)]
    omega
  have to_end : memory.place (start + count : Int) = start + count := by
    unfold place
    rw [if_neg (by omega)]
    omega
  rw [slice, from_start, to_end, Nat.add_sub_cancel_left]

namespace Region

open Operation

namespace View

/-- Something done with a view. -/
inductive Use where
  | read (offset : Int) (length : Option Int)
  | write (bytes : Bytes) (offset : Int)

/-- Where in the view it begins. -/
def Use.offset : Use → Int
  | read offset _ => offset
  | write _ offset => offset

variable (view : View)

/-- How many bytes it is about.  A read goes up to the end of the view unless it
is told how far. -/
def count : Use → Int
  | .read offset length => length.getD (view.length - offset)
  | .write bytes _ => bytes.length

def perform (terms : Terms) : Use → Operation (Instance σ) (Option Bytes)
  | .read offset length => return some (← readView view offset length)
  | .write bytes offset => do
    writeView terms view bytes offset
    return none

/-- The guest after some uses of the view, whatever came of each. -/
def after (terms : Terms) (uses : List Use) (guest : Instance σ) : Instance σ :=
  uses.foldl (fun guest use => (outcome (view.perform terms use) guest).2) guest

/-- The range of a use lies inside the view.  It may be empty, also at the end. -/
def Admits (use : Use) : Prop :=
  0 ≤ use.offset ∧ 0 ≤ view.count use ∧ use.offset + view.count use ≤ view.length

instance (use : Use) : Decidable (view.Admits use) := by
  unfold Admits
  infer_instance

def written? (place : Nat) : Use → Option UInt8
  | .read _ _ => none
  | .write bytes offset =>
    if view.Admits (.write bytes offset) ∧ offset.toNat ≤ place then bytes[place - offset.toNat]?
    else none

/-- The byte that was last written at a place in the view. -/
def lastWritten? (place : Nat) : List Use → Option UInt8
  | [] => none
  | use :: later => (lastWritten? place later).or (view.written? place use)

/-- The range of the view lies inside memory, and ends where there are
addresses. -/
structure Lies (memory : Memory) : Prop where
  inside : view.address.offset + view.length ≤ memory.size
  addressed : view.address.offset + view.length < 2 ^ 32

/-- What some uses of the view leave: memory has the size it had, the bytes
outside the view are what they were, and those inside are what was last written
there. -/
structure Confines (uses : List Use) (before after : Instance σ) : Prop where
  pages_eq : after.memory.pages = before.memory.pages
  limit_eq : after.memory.limit = before.memory.limit
  outside : ∀ place, place < 2 ^ 32 →
    place < view.address.offset ∨ view.address.offset + view.length ≤ (place : Int) →
      after.memory.byte place = before.memory.byte place
  inside : ∀ place : Nat, place < view.length →
    after.memory.byte (view.address.offset + place) =
      (view.lastWritten? place uses).getD (before.memory.byte (view.address.offset + place))
  after_eq : after = { before with memory := after.memory, history := after.history }

/-- What a use answers with: a read with as many bytes as it asked for, each of
them the one last written there, or if none was the one that lay there. -/
inductive Answers (memory : Memory) (earlier : List Use) : Use → Option Bytes → Prop
  | read {offset : Int} {length : Option Int} {bytes : Bytes} :
    bytes.length = view.count (.read offset length) →
    (∀ (index : Nat) (found : index < bytes.length), bytes[index] =
      (view.lastWritten? (offset.toNat + index) earlier).getD
        (memory.byte (view.address.offset + (offset.toNat + index)))) →
    Answers memory earlier (.read offset length) (some bytes)
  | write {bytes : Bytes} {offset : Int} : Answers memory earlier (.write bytes offset) none

/-- An empty write at the end of a view that ends with memory. -/
def MeetsEnd (memory : Memory) (use : Use) : Prop :=
  use = .write [] view.length ∧ view.address.offset + view.length = memory.size

inductive Refuses (memory : Memory) (use : Use) : Fault → Prop
  | outside : ¬ view.Admits use →
    Refuses memory use (.outsideView use.offset (use.offset + view.count use) view.length)
  | atEnd : view.Admits use → view.MeetsEnd memory use → Refuses memory use .outsideMemory

variable {view}

theorem check_eq (offset length : Int) :
    view.check offset length =
      if 0 ≤ offset ∧ 0 ≤ length ∧ offset + length ≤ view.length then .ok ()
      else .error (.outsideView offset (offset + length) view.length) := by
  unfold check
  by_cases admitted : 0 ≤ offset ∧ 0 ≤ length ∧ offset + length ≤ view.length
  · rw [if_pos admitted, if_neg]
    simp only [Bool.or_eq_true, decide_eq_true_eq]
    omega
  · rw [if_neg admitted, if_pos]
    simp only [Bool.or_eq_true, decide_eq_true_eq]
    omega

variable {memory : Memory}

theorem Lies.advance (lies : view.Lies memory) {offset : Int} (least : 0 ≤ offset)
    (most : offset ≤ view.length) :
    ∃ address, view.address.advance offset = .ok address ∧
      address.offset = view.address.offset + offset.toNat := by
  have addressed := lies.addressed
  unfold Address.advance Address.ofInt
  rw [dif_pos (by omega)]
  exact ⟨_, rfl, by dsimp only; omega⟩

/-- Views lie where they lay as long as memory has its size. -/
theorem Confines.lies {uses : List Use} {before after : Instance σ}
    (confines : view.Confines uses before after) (lies : view.Lies before.memory) :
    view.Lies after.memory := by
  refine ⟨?_, lies.addressed⟩
  rw [Memory.size, confines.pages_eq]
  exact lies.inside

theorem lastWritten?_append (place : Nat) (earlier later : List Use) :
    view.lastWritten? place (earlier ++ later) =
      (view.lastWritten? place later).or (view.lastWritten? place earlier) := by
  induction earlier with
  | nil => rw [List.nil_append, lastWritten?, Option.or_none]
  | cons use rest inductionHypothesis =>
    rw [List.cons_append, lastWritten?, inductionHypothesis, lastWritten?, Option.or_assoc]

theorem confines_nil (guest : Instance σ) : view.Confines [] guest guest :=
  ⟨rfl, rfl, fun _ _ _ => rfl, fun _ _ => rfl, rfl⟩

theorem Confines.append {earlier later : List Use} {first middle last : Instance σ}
    (begun : view.Confines earlier first middle) (ended : view.Confines later middle last) :
    view.Confines (earlier ++ later) first last where
  pages_eq := ended.pages_eq.trans begun.pages_eq
  limit_eq := ended.limit_eq.trans begun.limit_eq
  outside place addressed away :=
    (ended.outside place addressed away).trans (begun.outside place addressed away)
  inside place within := by
    rw [ended.inside place within, begun.inside place within, lastWritten?_append]
    cases view.lastWritten? place later <;> rfl
  after_eq := by
    rw [ended.after_eq, begun.after_eq]

theorem confines_same {use : Use} (guest : Instance σ)
    (nothing : ∀ place, view.written? place use = none) : view.Confines [use] guest guest where
  pages_eq := rfl
  limit_eq := rfl
  outside _ _ _ := rfl
  inside place _ := by
    rw [lastWritten?, lastWritten?, nothing place]
    rfl
  after_eq := rfl

theorem written?_of_not_admits {use : Use} (refused : ¬ view.Admits use) (place : Nat) :
    view.written? place use = none := by
  cases use with
  | read offset length => rfl
  | write bytes offset => exact if_neg fun both => refused both.1

theorem read_ends (terms : Terms) (offset : Int) (length : Option Int) (guest : Instance σ)
    (lies : view.Lies guest.memory) (admitted : view.Admits (.read offset length)) :
    Ends (view.perform terms (.read offset length)) guest
      (fun answer after => after = guest ∧
        view.Answers guest.memory [] (.read offset length) answer)
      (fun _ _ => False) := by
  obtain ⟨least, nonnegative, most⟩ := admitted
  have inside := lies.inside
  have addressed := lies.addressed
  dsimp only [Use.offset, count] at least nonnegative most
  generalize asked : length.getD (view.length - offset) = wanted at nonnegative most
  obtain ⟨address, advanced, place⟩ := lies.advance least (by omega)
  obtain ⟨size, rfl⟩ := Int.eq_ofNat_of_zero_le nonnegative
  have checked : view.check offset size = .ok () := by
    rw [check_eq, if_pos ⟨least, nonnegative, most⟩]
  refine (ends_bind _ _ _ _ _).mpr ((ends_bind _ _ _ _ _).mpr ?_)
  rw [asked, checked]
  refine (ends_bind _ _ _ _ _).mpr ?_
  rw [advanced]
  have sliced := guest.memory.slice_inside address.offset size (by omega)
  have bytes_eq := guest.memory.bytes_eq_map address.offset size (by omega)
  refine ⟨rfl, .read ?_ ?_⟩
  · rw [sliced, bytes_eq, List.length_map, List.length_range']
    exact asked.symm
  · intro index found
    rw [lastWritten?, Option.getD_none]
    simp only [sliced, bytes_eq, List.getElem_map, List.getElem_range']
    congr 1
    omega

/-- A write that the view admits changes the bytes there, unless it is an empty
one where memory ends. -/
theorem write_ends (terms : Terms) (bytes : Bytes) (offset : Int) (guest : Instance σ)
    (lies : view.Lies guest.memory) (admitted : view.Admits (.write bytes offset)) :
    Ends (view.perform terms (.write bytes offset)) guest
      (fun answer after => answer = none ∧ ¬ view.MeetsEnd guest.memory (.write bytes offset) ∧
        view.Confines [.write bytes offset] guest after)
      (fun fault after => fault = .outsideMemory ∧
        view.MeetsEnd guest.memory (.write bytes offset) ∧ after = guest) := by
  obtain ⟨least, nonnegative, most⟩ := id admitted
  have inside := lies.inside
  have addressed := lies.addressed
  dsimp only [Use.offset, count] at least nonnegative most
  obtain ⟨address, advanced, place⟩ := lies.advance least (by omega)
  have checked : view.check offset bytes.length = .ok () := by
    rw [check_eq, if_pos ⟨least, nonnegative, most⟩]
  refine (ends_bind _ _ _ _ _).mpr ?_
  unfold writeView
  rw [checked]
  refine (ends_bind _ _ _ _ _).mpr ?_
  rw [advanced]
  refine (write_inside terms address bytes guest (by omega)).mono ?_ ?_
  · rintro _ after ⟨begins, rfl⟩
    refine ⟨rfl, ?_, rfl, rfl, ?_, ?_, rfl⟩
    · rintro ⟨same, ends⟩
      cases same
      omega
    · intro other addressable away
      rw [Memory.byte_overwrite _ _ _ _ address.inRange addressable]
      split
      · rw [List.getElem?_eq_none (by omega), Option.getD_none]
      · rfl
    · intro other within
      rw [Memory.byte_overwrite _ _ _ _ address.inRange (by omega), lastWritten?, lastWritten?,
        Option.none_or, written?]
      by_cases reached : offset.toNat ≤ other
      · rw [if_pos (by omega), if_pos ⟨admitted, reached⟩]
        congr 2
        omega
      · rw [if_neg (by omega), if_neg fun both => reached both.2, Option.getD_none]
  · rintro _ after ⟨behind, rfl, rfl⟩
    have nothing : bytes.length = 0 := by omega
    cases List.length_eq_zero_iff.mp nothing
    have last : offset = view.length := by
      rw [nothing] at most
      omega
    subst last
    exact ⟨rfl, ⟨rfl, by omega⟩, rfl⟩

/-- A use that the view does not admit is refused before anything is read or
written. -/
theorem refused_ends (terms : Terms) (use : Use) (guest : Instance σ)
    (refused : ¬ view.Admits use) :
    Ends (view.perform terms use) guest (fun _ _ => False)
      (fun fault after => view.Refuses guest.memory use fault ∧ after = guest) := by
  have checked : view.check use.offset (view.count use) =
      .error (.outsideView use.offset (use.offset + view.count use) view.length) := by
    rw [check_eq]
    exact if_neg refused
  cases use with
  | read offset length =>
    refine (ends_bind _ _ _ _ _).mpr ((ends_bind _ _ _ _ _).mpr ?_)
    dsimp only [Use.offset, count] at checked
    rw [checked]
    exact ⟨.outside refused, rfl⟩
  | write bytes offset =>
    refine (ends_bind _ _ _ _ _).mpr ((ends_bind _ _ _ _ _).mpr ?_)
    dsimp only [Use.offset, count] at checked
    rw [checked]
    exact ⟨.outside refused, rfl⟩

/-- What a use does, from any guest in whose memory the view lies. -/
theorem perform_ends (terms : Terms) (use : Use) (guest : Instance σ)
    (lies : view.Lies guest.memory) :
    Ends (view.perform terms use) guest
      (fun answer after => view.Admits use ∧ ¬ view.MeetsEnd guest.memory use ∧
        view.Answers guest.memory [] use answer ∧ view.Confines [use] guest after)
      (fun fault after => view.Refuses guest.memory use fault ∧ after = guest) := by
  by_cases admitted : view.Admits use
  · cases use with
    | read offset length =>
      refine (read_ends terms offset length guest lies admitted).mono ?_ fun _ _ => False.elim
      rintro answer after ⟨rfl, answers⟩
      exact ⟨admitted, fun meets => (nomatch meets.1), answers, confines_same _ fun _ => rfl⟩
    | write bytes offset =>
      refine (write_ends terms bytes offset guest lies admitted).mono ?_ ?_
      · rintro answer after ⟨rfl, apart, confines⟩
        exact ⟨admitted, apart, .write, confines⟩
      · rintro fault after ⟨rfl, meets, rfl⟩
        exact ⟨.atEnd admitted meets, rfl⟩
  · refine (refused_ends terms use guest admitted).mono (fun _ _ => False.elim) ?_
    exact fun _ _ refused => refused

/-- So a use is confined whatever comes of it. -/
theorem perform_confines (terms : Terms) (use : Use) (guest : Instance σ)
    (lies : view.Lies guest.memory) :
    view.Confines [use] guest (outcome (view.perform terms use) guest).2 := by
  rcases (perform_ends terms use guest lies).outcome with
    ⟨_, _, _, _, _, confines⟩ | ⟨fault, _, refused, same⟩
  · exact confines
  · rw [same]
    refine confines_same guest fun place => ?_
    cases refused with
    | outside refused => exact written?_of_not_admits refused place
    | atEnd _ meets =>
      rw [meets.1, written?, List.getElem?_nil, ite_self]

/-- And so is every run of them. -/
theorem after_confines (terms : Terms) (uses : List Use) (guest : Instance σ)
    (lies : view.Lies guest.memory) : view.Confines uses guest (view.after terms uses guest) := by
  induction uses generalizing guest with
  | nil => exact confines_nil guest
  | cons use rest inductionHypothesis =>
    have first := perform_confines terms use guest lies
    exact first.append (inductionHypothesis _ (first.lies lies))

/-- What is read now was written last, or lay there from the beginning. -/
theorem Answers.since {earlier : List Use} {use : Use} {answer : Option Bytes}
    {before middle : Instance σ} (admitted : view.Admits use)
    (answers : view.Answers middle.memory [] use answer)
    (confines : view.Confines earlier before middle) :
    view.Answers before.memory earlier use answer := by
  cases answers with
  | write => exact .write
  | read asked found =>
    refine .read asked fun index within => ?_
    obtain ⟨least, _, most⟩ := admitted
    dsimp only [Use.offset] at least most
    rw [found index within, lastWritten?, Option.getD_none]
    exact confines.inside _ (by omega)

/-- A use of a view succeeds if its range lies inside the view, and only then,
except that an empty write at the end of memory is refused too.  A use that
fails changes nothing, and whatever was done with the view before, only bytes
inside it were changed, to what was written there last, which is what a read
answers with. -/
theorem uses_confined (terms : Terms) (guest : Instance σ) (lies : view.Lies guest.memory)
    (earlier : List Use) :
    view.Confines earlier guest (view.after terms earlier guest) ∧
      ∀ use, Ends (view.perform terms use) (view.after terms earlier guest)
        (fun answer _ => view.Admits use ∧ ¬ view.MeetsEnd guest.memory use ∧
          view.Answers guest.memory earlier use answer)
        (fun fault after => view.Refuses guest.memory use fault ∧
          after = view.after terms earlier guest) := by
  have confines := after_confines terms earlier guest lies
  have size_eq : (view.after terms earlier guest).memory.size = guest.memory.size := by
    rw [Memory.size, confines.pages_eq, Memory.size]
  refine ⟨confines, fun use => ?_⟩
  refine (perform_ends terms use _ (confines.lies lies)).mono ?_ ?_
  · rintro answer _ ⟨admitted, apart, answers, _⟩
    refine ⟨admitted, fun meets => apart ⟨meets.1, ?_⟩, answers.since admitted confines⟩
    rw [size_eq]
    exact meets.2
  · rintro fault _ ⟨refused, same⟩
    refine ⟨?_, same⟩
    cases refused with
    | outside refused => exact .outside refused
    | atEnd admitted meets =>
      refine .atEnd admitted ⟨meets.1, ?_⟩
      rw [← size_eq]
      exact meets.2

/-- Writes over each other in a view of eight bytes, some of them not inside it. -/
def overlapping : List Use :=
  [.write [1, 2, 3, 4] 2, .write [9, 9] 3, .write [5] 8, .write [7] (-1), .write [] 8]

/-- Read as a whole, a view in the middle of memory shows what was written there
last, and the byte behind it is what it was. -/
theorem uses_confined_overlapping :
    View.Lies ⟨Address.ofWord 4096, 8⟩ Instance.untouched.memory ∧
      Ends (View.perform ⟨Address.ofWord 4096, 8⟩ ⟨false, none⟩ (.read 0 none))
        (View.after ⟨Address.ofWord 4096, 8⟩ ⟨false, none⟩ overlapping Instance.untouched)
        (fun answer _ => answer = some [0, 0, 1, 9, 9, 4, 0, 0]) (fun _ _ => False) ∧
      (View.after ⟨Address.ofWord 4096, 8⟩ ⟨false, none⟩ overlapping
        Instance.untouched).memory.byte 4104 = 0 := by
  have lies : View.Lies ⟨Address.ofWord 4096, 8⟩ Instance.untouched.memory :=
    ⟨by decide, by decide⟩
  obtain ⟨confines, ends⟩ := uses_confined ⟨false, none⟩ Instance.untouched lies overlapping
  refine ⟨lies, (ends (.read 0 none)).mono ?_ ?_, ?_⟩
  · rintro answer _ ⟨_, _, answers⟩
    cases answers with
    | @read _ _ bytes asked found =>
      have eight : bytes.length = 8 := Int.ofNat_inj.mp asked
      have last : ∀ index : Fin 8, (View.lastWritten? ⟨Address.ofWord 4096, 8⟩ (0 + index.val)
          overlapping).getD (Instance.untouched.memory.byte (4096 + (0 + index.val))) =
            [0, 0, 1, 9, 9, 4, 0, 0][index.val] := by
        decide +kernel
      refine congrArg some (List.ext_getElem eight fun index within _ => ?_)
      exact (found index within).trans (last ⟨index, eight ▸ within⟩)
  · rintro fault _ ⟨refused, _⟩
    cases refused with
    | outside refused => exact refused (by decide)
    | atEnd _ meets => exact nomatch meets.1
  · exact confines.outside 4104 (by decide) (by decide)

/-- The view that ends with memory admits an empty write at its end, which is
refused. -/
theorem empty_end_refused :
    ¬ ∀ (terms : Terms) (view : View) (guest : Instance PolicyState) (use : Use),
      view.Lies guest.memory → view.Admits use →
        Ends (view.perform terms use) guest (fun _ _ => True) (fun _ _ => False) := by
  intro allowed
  have lies : View.Lies ⟨Address.ofWord 4360, 126712⟩ Instance.untouched.memory :=
    ⟨by decide, by decide⟩
  have told := allowed ⟨false, none⟩ _ _ (.write [] 126712) lies (by decide)
  have refused := perform_ends ⟨false, none⟩ (.write [] 126712) Instance.untouched lies
  obtain ⟨_, _, _, _, _, apart, _⟩ := ((told.and refused).mono (fun _ _ both => both)
    fun _ _ both => both.1).returns
  exact apart ⟨rfl, by decide⟩

end View
end Region
end PolicyHost
