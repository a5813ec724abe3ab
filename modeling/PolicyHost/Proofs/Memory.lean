import PolicyHost.Guest.Memory

namespace PolicyHost

/-!
# Memory as a row of bytes

The tree under a memory is an economy.  What it stands for is the function
from addresses to bytes, and the theorems here say what the three traversals
mean for that function: a write changes the addresses it covers and no other,
a run of bytes is the bytes at its addresses, and the search for a terminator
finds the text in front of the first zero, wherever the chunks begin.

Addresses have 32 bits.  A memory of at most `mostPages` pages ends there.
-/

namespace Cells

/-- A write gives back what lies past the stretch. -/
theorem fill_rest (depth : Nat) (cells : Cells) (start : Nat) (bytes : Bytes)
    (inside : start < 2 ^ depth) :
    (fill depth cells start bytes).2 = bytes.drop (2 ^ depth - start) := by
  induction depth generalizing cells start bytes with
  | zero =>
    have first : start = 0 := by simpa using inside
    subst first
    cases bytes <;> rfl
  | succ depth inductionHypothesis =>
    have positive : 0 < 2 ^ depth := Nat.two_pow_pos depth
    have double : 2 ^ (depth + 1) = 2 ^ depth + 2 ^ depth := by rw [Nat.pow_succ]; omega
    cases bytes with
    | nil => simp [fill]
    | cons b rest =>
      by_cases low : start < 2 ^ depth
      · simp only [fill, if_pos low]
        rw [inductionHypothesis _ 0 _ positive, inductionHypothesis _ start _ low, List.drop_drop]
        congr 1
        omega
      · simp only [fill, if_neg low]
        rw [inductionHypothesis _ (start - 2 ^ depth) _ (by omega)]
        congr 1
        omega

/-- A write changes exactly the addresses it covers. -/
theorem get_fill (depth : Nat) (cells : Cells) (start : Nat) (bytes : Bytes) (address : Nat)
    (inside : start < 2 ^ depth) (within : address < 2 ^ depth) :
    get depth (fill depth cells start bytes).1 address =
      if start ≤ address then bytes[address - start]?.getD (get depth cells address)
      else get depth cells address := by
  induction depth generalizing cells start bytes address with
  | zero =>
    have first : start = 0 := by simpa using inside
    have only : address = 0 := by simpa using within
    subst first only
    cases bytes <;> rfl
  | succ depth inductionHypothesis =>
    have positive : 0 < 2 ^ depth := Nat.two_pow_pos depth
    have double : 2 ^ (depth + 1) = 2 ^ depth + 2 ^ depth := by rw [Nat.pow_succ]; omega
    cases bytes with
    | nil => simp [fill]
    | cons b rest =>
      by_cases low : start < 2 ^ depth
      · simp only [fill, if_pos low]
        by_cases lower : address < 2 ^ depth
        · simp only [get, if_pos lower, Cells.lower]
          exact inductionHypothesis _ start _ address low lower
        · simp only [get, if_neg lower, Cells.upper]
          rw [inductionHypothesis _ 0 _ (address - 2 ^ depth) positive (by omega),
            fill_rest depth _ start _ low, List.getElem?_drop, if_pos (Nat.zero_le _),
            if_pos (by omega)]
          congr 2
          omega
      · simp only [fill, if_neg low]
        by_cases lower : address < 2 ^ depth
        · simp only [get, if_pos lower, Cells.lower]
          rw [if_neg (by omega)]
        · simp only [get, if_neg lower, Cells.upper]
          rw [inductionHypothesis _ (start - 2 ^ depth) _ (address - 2 ^ depth) (by omega)
            (by omega)]
          have place : address - 2 ^ depth - (start - 2 ^ depth) = address - start := by omega
          have order : start - 2 ^ depth ≤ address - 2 ^ depth ↔ start ≤ address := by omega
          simp only [place, order]

/-- A run in the lower half of a tree. -/
theorem map_get_lower (depth : Nat) (cells : Cells) (first count : Nat)
    (bounded : first + count ≤ 2 ^ depth) :
    (List.range' first count).map (get depth cells.lower) =
      (List.range' first count).map (get (depth + 1) cells) := by
  apply List.map_congr_left
  intro address member
  have below : address < 2 ^ depth := by
    have := List.mem_range'_1.mp member
    omega
  simp only [get, if_pos below]

/-- A run in the upper half of a tree. -/
theorem map_get_upper (depth : Nat) (cells : Cells) (first count : Nat)
    (bounded : 2 ^ depth ≤ first) :
    (List.range' (first - 2 ^ depth) count).map (get depth cells.upper) =
      (List.range' first count).map (get (depth + 1) cells) := by
  have shift : List.range' first count =
      (List.range' (first - 2 ^ depth) count).map (2 ^ depth + ·) := by
    rw [List.map_add_range']
    congr 1
    omega
  rw [shift, List.map_map]
  apply List.map_congr_left
  intro address _
  have above : ¬ 2 ^ depth + address < 2 ^ depth := by omega
  simp only [Function.comp_apply, get, if_neg above, Nat.add_sub_cancel_left]

/-- A run of bytes is the bytes at its addresses, in order. -/
theorem collect_eq_map (depth : Nat) (cells : Cells) (start stop : Nat) (after : Bytes)
    (within : stop ≤ 2 ^ depth) :
    collect depth cells start stop after =
      (List.range' start (stop - start)).map (get depth cells) ++ after := by
  induction depth generalizing cells start stop after with
  | zero =>
    by_cases nonempty : start < stop
    · have first : start = 0 := by simp at within; omega
      have one : stop = 1 := by simp at within; omega
      subst first one
      rfl
    · have nothing : stop - start = 0 := by omega
      simp [collect, if_neg nonempty, nothing]
  | succ depth inductionHypothesis =>
    have double : 2 ^ (depth + 1) = 2 ^ depth + 2 ^ depth := by rw [Nat.pow_succ]; omega
    by_cases nothing : stop ≤ start
    · have zero : stop - start = 0 := by omega
      simp [collect, if_pos nothing, zero]
    · simp only [collect, if_neg nothing]
      -- The upper half is collected first, in front of what comes after it.
      by_cases high : 2 ^ depth < stop
      · rw [if_pos high, inductionHypothesis _ _ _ _ (by omega : stop - 2 ^ depth ≤ 2 ^ depth)]
        by_cases low : start < 2 ^ depth
        · rw [if_pos low, inductionHypothesis _ _ _ _ (Nat.min_le_right _ _),
            Nat.min_eq_right (Nat.le_of_lt high), map_get_lower depth cells _ _ (by omega),
            ← List.append_assoc]
          have clipped : start - 2 ^ depth = 2 ^ depth - 2 ^ depth := by omega
          rw [clipped, map_get_upper depth cells _ _ (Nat.le_refl _), ← List.map_append]
          have joined : List.range' start (stop - start) =
              List.range' start (2 ^ depth - start) ++
                List.range' (2 ^ depth) (stop - 2 ^ depth - (2 ^ depth - 2 ^ depth)) := by
            have middle : 2 ^ depth = start + 1 * (2 ^ depth - start) := by omega
            rw [show stop - start = (2 ^ depth - start) +
                (stop - 2 ^ depth - (2 ^ depth - 2 ^ depth)) by omega,
              ← List.range'_append, ← middle]
          rw [joined]
        · rw [if_neg low, map_get_upper depth cells _ _ (by omega)]
          congr 3
          omega
      · rw [if_neg high, if_pos (by omega), inductionHypothesis _ _ _ _ (Nat.min_le_right _ _),
          Nat.min_eq_left (by omega), map_get_lower depth cells _ _ (by omega)]

end Cells

namespace Memory

theorem size_le_of_pages (memory : Memory) (bounded : memory.pages ≤ mostPages) :
    memory.size ≤ 2 ^ 32 := by
  simp only [size, mostPages, pageSize] at *
  omega

@[simp] theorem overwrite_pages (memory : Memory) (start : Nat) (bytes : Bytes) :
    (memory.overwrite start bytes).pages = memory.pages := rfl

@[simp] theorem overwrite_size (memory : Memory) (start : Nat) (bytes : Bytes) :
    (memory.overwrite start bytes).size = memory.size := rfl

@[simp] theorem byte_pages (memory : Memory) (pages address : Nat) :
    ({ memory with pages } : Memory).byte address = memory.byte address := rfl

@[simp] theorem bytes_pages (memory : Memory) (pages start count : Nat) :
    ({ memory with pages } : Memory).bytes start count = memory.bytes start count := rfl

/-- A memory that was grown has the pages that were asked for, and they are
within what addresses allow. -/
theorem grow?_some (memory : Memory) (extra : Nat) (grown : Memory)
    (success : memory.grow? extra = some grown) :
    grown = { memory with pages := memory.pages + extra } ∧
      memory.pages + extra ≤ mostPages := by
  unfold grow? at success
  by_cases bounded : memory.pages + extra ≤ memory.bound
  · rw [if_pos bounded] at success
    cases success
    refine ⟨rfl, Nat.le_trans bounded ?_⟩
    unfold bound
    split
    · exact Nat.le_refl _
    · exact Nat.min_le_right _ _
  · rw [if_neg bounded] at success
    cases success

/-- A write changes the addresses it covers. -/
theorem byte_overwrite (memory : Memory) (start : Nat) (bytes : Bytes) (address : Nat)
    (starts : start < 2 ^ 32) (within : address < 2 ^ 32) :
    (memory.overwrite start bytes).byte address =
      if start ≤ address then bytes[address - start]?.getD (memory.byte address)
      else memory.byte address :=
  Cells.get_fill 32 memory.cells start bytes address starts within

/-- A write changes nothing in front of it. -/
theorem byte_overwrite_of_lt (memory : Memory) (start : Nat) (bytes : Bytes) (address : Nat)
    (starts : start < 2 ^ 32) (before : address < start) :
    (memory.overwrite start bytes).byte address = memory.byte address := by
  rw [byte_overwrite memory start bytes address starts (Nat.lt_trans before starts),
    if_neg (by omega)]

theorem bytes_eq_map (memory : Memory) (start count : Nat) (within : start + count ≤ 2 ^ 32) :
    memory.bytes start count = (List.range' start count).map memory.byte := by
  simp only [bytes]
  rw [Cells.collect_eq_map 32 memory.cells start (start + count) [] within, List.append_nil,
    Nat.add_sub_cancel_left]
  rfl

/-- A run of bytes is as long as was asked for. -/
theorem bytes_length (memory : Memory) (start count : Nat) (within : start + count ≤ 2 ^ 32) :
    (memory.bytes start count).length = count := by
  rw [bytes_eq_map memory start count within, List.length_map, List.length_range']

/-- A run is a shorter run and what follows it. -/
theorem bytes_append (memory : Memory) (start first second : Nat)
    (within : start + (first + second) ≤ 2 ^ 32) :
    memory.bytes start (first + second) =
      memory.bytes start first ++ memory.bytes (start + first) second := by
  rw [bytes_eq_map memory start _ within, bytes_eq_map memory start first (by omega),
    bytes_eq_map memory (start + first) second (by omega), ← List.map_append,
    List.range'_append_1]

/-- What was written is there. -/
theorem bytes_overwrite (memory : Memory) (start : Nat) (bytes : Bytes)
    (starts : start < 2 ^ 32) (within : start + bytes.length ≤ 2 ^ 32) :
    (memory.overwrite start bytes).bytes start bytes.length = bytes := by
  rw [bytes_eq_map _ start bytes.length within]
  apply List.ext_getElem
  · rw [List.length_map, List.length_range']
  · intro index _ inside
    rw [List.getElem_map, List.getElem_range', Nat.one_mul,
      byte_overwrite memory start bytes _ starts (by omega), if_pos (by omega),
      Nat.add_sub_cancel_left, List.getElem?_eq_getElem inside, Option.getD_some]

/-- The search for a terminator finds the text in front of it, whatever
chunks it has read before. -/
theorem untilZeroFrom_text (memory : Memory) (position : Nat) (text : Bytes)
    (chunks : List Bytes) (inside : position + text.length < memory.size)
    (addressable : memory.size ≤ 2 ^ 32)
    (stored : memory.bytes position (text.length + 1) = text ++ [0])
    (nonzero : 0 ∉ text) :
    memory.untilZeroFrom position chunks = some (chunks.reverse.flatten ++ text) := by
  induction remaining : text.length using Nat.strongRecOn generalizing position text chunks with
  | _ length inductionHypothesis =>
    subst remaining
    rw [untilZeroFrom, if_pos (by omega)]
    by_cases found : text.length < chunkSize
    · -- The terminator is in this chunk, which goes on for `more` bytes after it.
      have more : ∃ more, min (position + chunkSize) memory.size - position =
          text.length + 1 + more := Nat.exists_eq_add_of_le (by omega)
      rcases more with ⟨more, count⟩
      have chunk : memory.bytes position (min (position + chunkSize) memory.size - position) =
          text ++ 0 :: memory.bytes (position + (text.length + 1)) more := by
        rw [count, bytes_append _ _ _ _ (by omega), stored, List.append_assoc]
        rfl
      have cut : (text ++ 0 :: memory.bytes (position + (text.length + 1)) more).takeWhile
          (· != 0) = text := by
        rw [List.takeWhile_append_of_pos, List.takeWhile_cons]
        · simp
        · intro byte member
          simp only [bne_iff_ne, ne_eq]
          intro zero
          exact nonzero (zero ▸ member)
      simp only [chunk, cut]
      simp
    · -- The whole chunk is text.
      have whole : min (position + chunkSize) memory.size - position = chunkSize := by omega
      have stop : min (position + chunkSize) memory.size = position + chunkSize := by omega
      have split : text = text.take chunkSize ++ text.drop chunkSize :=
        (List.take_append_drop chunkSize text).symm
      have taken : (text.take chunkSize).length = chunkSize := by
        rw [List.length_take]
        omega
      have both : memory.bytes position chunkSize = text.take chunkSize ∧
          memory.bytes (position + chunkSize) (text.length - chunkSize + 1) =
            text.drop chunkSize ++ [0] := by
        have pieces := stored
        rw [show text.length + 1 = chunkSize + (text.length - chunkSize + 1) by omega,
          bytes_append _ _ _ _ (by omega)] at pieces
        conv at pieces => rhs; rw [split, List.append_assoc]
        exact List.append_inj pieces (by rw [bytes_length _ _ _ (by omega), taken])
      have none : (text.take chunkSize).contains 0 = false := by
        apply Bool.eq_false_iff.mpr
        intro zero
        exact nonzero (List.mem_of_mem_take (List.contains_iff_mem.mp zero))
      have dropped : (text.drop chunkSize).length = text.length - chunkSize := List.length_drop ..
      have positive : 0 < chunkSize := by decide
      dsimp only
      rw [whole, stop, both.1, none, if_neg Bool.false_ne_true]
      rw [inductionHypothesis (text.length - chunkSize) (by omega) (position + chunkSize)
        (text.drop chunkSize) _ (by omega) (by rw [dropped]; exact both.2)
        (fun zero => nonzero (List.mem_of_mem_drop zero)) dropped]
      simp only [List.reverse_cons, List.flatten_append, List.flatten_cons, List.flatten_nil,
        List.append_nil, List.append_assoc, List.take_append_drop]

/-- Where nothing terminates a text, none is found. -/
theorem untilZeroFrom_endless (memory : Memory) (position : Nat) (chunks : List Bytes)
    (addressable : memory.size ≤ 2 ^ 32)
    (nonzero : 0 ∉ memory.bytes position (memory.size - position)) :
    memory.untilZeroFrom position chunks = none := by
  induction remaining : memory.size - position using Nat.strongRecOn generalizing position chunks with
  | _ rest inductionHypothesis =>
    subst remaining
    have positive : 0 < chunkSize := by decide
    rw [untilZeroFrom]
    split
    · rename_i inside
      generalize stopEq : min (position + chunkSize) memory.size = stop
      have later : position < stop ∧ stop ≤ memory.size := by omega
      have parts := bytes_append memory position (stop - position) (memory.size - stop) (by omega)
      rw [show stop - position + (memory.size - stop) = memory.size - position by omega,
        show position + (stop - position) = stop by omega] at parts
      rw [parts, List.mem_append, not_or] at nonzero
      have none : (memory.bytes position (stop - position)).contains 0 = false := by
        simpa using nonzero.1
      dsimp only
      rw [none, if_neg Bool.false_ne_true]
      exact inductionHypothesis (memory.size - stop) (by omega) stop _ nonzero.2 rfl
    · rfl

/-- A terminated text is read up to its terminator. -/
theorem untilZero_text (memory : Memory) (start : Nat) (text : Bytes)
    (inside : start + text.length < memory.size) (bounded : memory.pages ≤ mostPages)
    (stored : memory.bytes start (text.length + 1) = text ++ [0]) (nonzero : 0 ∉ text) :
    memory.untilZero start = some text :=
  untilZeroFrom_text memory start text [] inside (size_le_of_pages memory bounded) stored nonzero

end Memory
end PolicyHost
