import PolicyHost.Command.Screen

namespace PolicyHost

/-!
# Texts that fit on a line

A text without line feeds and tabulators that is no wider than its line is laid out
as it is, with its blanks.  In a table whose columns have room for all their cells,
each row is one line.
-/

namespace Paragraph

theorem foldl_width (chars : List Char) (cells : Nat) :
    chars.foldl (fun cells c => cells + CellWidth.ofChar c) cells = cells + width chars := by
  induction chars generalizing cells with
  | nil => rfl
  | cons c rest inductionHypothesis =>
    unfold width
    rw [List.foldl_cons, List.foldl_cons, inductionHypothesis, inductionHypothesis,
      Nat.zero_add, Nat.add_assoc]

theorem width_append (first second : List Char) :
    width (first ++ second) = width first + width second := by
  unfold width
  rw [List.foldl_append, foldl_width]
  rfl

theorem width_trimEnd_le (chars : List Char) : width (trimEnd chars) ≤ width chars := by
  obtain ⟨blanks, whole⟩ : ∃ blanks, trimEnd chars ++ blanks = chars := by
    refine ⟨(chars.reverse.takeWhile Characters.isBlank).reverse, ?_⟩
    rw [trimEnd, ← List.reverse_append, List.takeWhile_append_dropWhile, List.reverse_reverse]
  have widths := width_append (trimEnd chars) blanks
  rw [whole] at widths
  omega

theorem splitFrom_of_not_mem {separator : Char} {chars : List Char} (absent : separator ∉ chars)
    (part : List Char) : splitFrom separator part chars = [part.reverse ++ chars] := by
  induction chars generalizing part with
  | nil => simp [splitFrom]
  | cons c rest inductionHypothesis =>
    have parts := not_or.mp (mt List.mem_cons.mpr absent)
    rw [splitFrom.eq_def]
    dsimp only
    rw [if_neg (Ne.symm parts.1), inductionHypothesis parts.2]
    simp

theorem split_of_not_mem {separator : Char} {chars : List Char} (absent : separator ∉ chars) :
    split separator chars = [chars] :=
  splitFrom_of_not_mem absent []

/-- Words with their blanks make up the text, unless it is blank. -/
theorem wordsFrom_flatten (place : Place) (word chars : List Char) :
    (place = .before ∧ wordsFrom place word chars = []) ∨
      (wordsFrom place word chars).flatten = word.reverse ++ chars := by
  induction chars generalizing place word with
  | nil =>
    cases place with
    | before => exact .inl ⟨rfl, rfl⟩
    | inside | after => exact .inr (by simp [wordsFrom.eq_def])
  | cons c rest inductionHypothesis =>
    rw [wordsFrom.eq_def]
    cases blank : Characters.isBlank c with
    | true =>
      cases place with
      | before => simpa [blank] using inductionHypothesis .before (c :: word)
      | inside => simpa [blank] using inductionHypothesis .after (c :: word)
      | after => simpa [blank] using inductionHypothesis .after (c :: word)
    | false =>
      cases place with
      | before =>
        right
        simpa [blank] using inductionHypothesis .inside (c :: word)
      | inside => simpa [blank] using inductionHypothesis .inside (c :: word)
      | after => simpa [blank] using inductionHypothesis .inside [c]

theorem fill_fits {limit : Nat} (overflow : Overflow) (line : List Char) (taken : Nat)
    (words : List (List Char)) (fits : taken + width words.flatten ≤ limit) :
    fill limit overflow [line] taken words = [line ++ words.flatten] := by
  induction words generalizing line taken with
  | nil => simp [fill]
  | cons word rest inductionHypothesis =>
    rw [List.flatten_cons, width_append] at fits
    have trimmed := width_trimEnd_le word
    rw [fill.eq_def]
    dsimp only
    rw [if_pos (by omega), inductionHypothesis _ _ (by omega), List.flatten_cons,
      List.append_assoc]

theorem fill_words {limit : Nat} (overflow : Overflow) (line : List Char)
    (fits : width line ≤ limit) :
    fill limit overflow [] 0 (words line) = [] ∨ fill limit overflow [] 0 (words line) = [line] := by
  obtain ⟨_, none⟩ | whole := wordsFrom_flatten .before [] line
  · rw [words, none]
    exact .inl rfl
  · have whole : (words line).flatten = line := whole
    cases found : words line with
    | nil => exact .inl rfl
    | cons word rest =>
      rw [found, List.flatten_cons] at whole
      rw [← whole, width_append] at fits
      have trimmed := width_trimEnd_le word
      rw [fill.eq_def]
      dsimp only
      rw [if_pos (by omega)]
      rw [fill_fits overflow _ _ _ (by omega), whole]
      exact .inr rfl

theorem width_cons (c : Char) (rest : List Char) :
    width (c :: rest) = CellWidth.ofChar c + width rest := by
  have cells := width_append [c] rest
  rwa [List.singleton_append, show width [c] = CellWidth.ofChar c from Nat.zero_add _] at cells

theorem width_eq_length {chars : List Char} (single : ∀ c ∈ chars, CellWidth.ofChar c = 1) :
    width chars = chars.length := by
  induction chars with
  | nil => rfl
  | cons c rest inductionHypothesis =>
    have parts := List.forall_mem_cons.mp single
    rw [width_cons, parts.1, inductionHypothesis parts.2, List.length_cons, Nat.add_comm]

theorem length_le_width {chars : List Char} (visible : ∀ c ∈ chars, 0 < CellWidth.ofChar c) :
    chars.length ≤ width chars := by
  induction chars with
  | nil => exact Nat.le_refl _
  | cons c rest inductionHypothesis =>
    have parts := List.forall_mem_cons.mp visible
    have others := inductionHypothesis parts.2
    rw [width_cons, List.length_cons]
    omega

/-- What can stand on one line of so many cells. -/
structure Fits (limit : Nat) (text : List Char) : Prop where
  feedless : '\n' ∉ text
  tabless : '\t' ∉ text
  narrow : width text ≤ limit
  short : text.length ≤ limit

theorem lines_of_fits {limit : Nat} {text : List Char} (fits : Fits limit text)
    (overflow : Overflow) : lines limit overflow text = [text] := by
  have expanded : expandTabs text = text := by
    rw [expandTabs, split_of_not_mem fits.tabless]
    rfl
  have untrimmed : trimExcess limit text = text := by
    rw [trimExcess, Nat.sub_eq_zero_of_le fits.short]
    simp
  have whole : truncate limit overflow (trimExcess limit text) = text := by
    rw [untrimmed]
    exact if_pos fits.narrow
  unfold lines
  rw [split_of_not_mem fits.feedless, List.flatMap_singleton, expanded]
  dsimp only
  obtain filled | filled := fill_words overflow text fits.narrow
  · rw [filled]
    dsimp only
    rw [List.map_singleton, whole]
  · rw [filled]
    dsimp only
    rw [List.map_singleton, whole]

theorem naturalWidth_of_not_mem {text : List Char} (feedless : '\n' ∉ text) :
    naturalWidth text = width text := by
  rw [naturalWidth, split_of_not_mem feedless]
  simp

end Paragraph

namespace Table

open Paragraph

def cell (column : Column) (width : Nat) (text : List Char) : List Char :=
  ' ' :: (if column.flushRight then padLeft (width - padding) text
    else padRight (width - padding) text) ++ [' ']

theorem cellLines_of_fits {column : Column} {width : Nat} {text : List Char}
    (fits : Fits (width - padding) text) :
    cellLines column width text = [cell column width text] := by
  unfold cellLines
  dsimp only
  rw [lines_of_fits fits]
  rfl

/-- A row of two columns is one line if they have room for its cells. -/
theorem rowLines_pair (border : Char) (a b : Column) {m n : Nat} {x y : List Char}
    (first : Fits (m - padding) x) (second : Fits (n - padding) y) :
    rowLines border [a, b] [m, n] [x, y] =
      [border.toString ++ (String.ofList (cell a m x) ++ border.toString ++
        String.ofList (cell b n y)) ++ border.toString] := by
  have cells : cellsOf [a, b] [m, n] [x, y] = [(m, [cell a m x]), (n, [cell b n y])] := by
    simp [cellsOf, cellLines_of_fits first, cellLines_of_fits second]
  unfold rowLines
  rw [cells]
  rfl

end Table

theorem Screen.ofLines_append (first second : List String) :
    ofLines (first ++ second) = ofLines first ++ ofLines second := by
  simp [ofLines]

end PolicyHost
