import Mathlib.Data.List.TakeWhile
import PolicyHost.Proofs.Listing

namespace PolicyHost

/-!
# Notices

A notice is a text in a style: the style's tag, the text with its own tags
escaped, and the tag that closes the style.  Whatever the text, a notice shows.

Escaping leaves no tag in a text that is read as one.  A tag with `k`
backslashes before it gets `2 * k + 1` of them, and an odd number makes a tag
ordinary text.  Nothing becomes a tag that was none: between two opening
brackets, escaping only adds backslashes at the end.  The closing tag is read
as a tag and finds its style open, or is shown as text itself.
-/

namespace Markup

/-! ## Backslashes -/

/-- How many backslashes a text ends with. -/
def trailing (chars : List Char) : Nat :=
  (chars.reverse.takeWhile (· == '\\')).length

/-- Nothing but backslashes. -/
def Slashes (chars : List Char) : Prop :=
  ∀ c ∈ chars, c = '\\'

theorem trailing_append (before chars : List Char) (apart : trailing before = 0) :
    trailing (before ++ chars) = trailing chars := by
  unfold trailing at *
  rw [List.reverse_append, List.takeWhile_append]
  split_ifs with whole
  · rw [List.length_append, apart, ← whole, Nat.add_zero]
  · rfl

theorem trailing_backslashes (chars : List Char) (count : Nat) :
    trailing (chars ++ backslashes count) = trailing chars + count := by
  unfold trailing backslashes
  have all : ∀ c ∈ List.replicate count '\\', (c == '\\') = true := by
    intro c member
    rw [List.eq_of_mem_replicate member]
    rfl
  rw [List.reverse_append, List.reverse_replicate, List.takeWhile_append_of_pos all,
    List.length_append, List.length_replicate, Nat.add_comm]

theorem trailing_eq (read : List Char) :
    read.length - ((read.reverse.dropWhile (· == '\\')).reverse).length = trailing read := by
  have parts := congrArg List.length
    (List.takeWhile_append_dropWhile (p := (· == '\\')) (l := read.reverse))
  rw [List.length_append, List.length_reverse] at parts
  unfold trailing
  rw [List.length_reverse]
  omega

theorem stripped_append (read : List Char) :
    (read.reverse.dropWhile (· == '\\')).reverse ++ backslashes (trailing read) = read := by
  have slashes : read.reverse.takeWhile (· == '\\') = backslashes (trailing read) := by
    apply List.eq_replicate_of_mem
    intro c member
    have slash := List.mem_takeWhile_imp (p := fun c => c == '\\') member
    exact beq_iff_eq.mp slash
  have parts := congrArg List.reverse
    (List.takeWhile_append_dropWhile (p := (· == '\\')) (l := read.reverse))
  rw [slashes, List.reverse_append, List.reverse_reverse] at parts
  unfold backslashes at *
  rwa [List.reverse_replicate] at parts

/-! ## Tags -/

/-- What follows an opening bracket begins with a tag. -/
structure Tagged (part name after : List Char) : Prop where
  parts : part = name ++ ']' :: after
  begins : ∃ c rest, name = c :: rest ∧ beginsTag c = true ∧ ']' ∉ rest

theorem Tagged.tag?_eq {part name after : List Char} (tagged : Tagged part name after) :
    tag? part = some (name, after) := by
  obtain ⟨rfl, c, rest, rfl, begins, unclosed⟩ := tagged
  have all : ∀ d ∈ rest, (d != ']') = true := by
    intro d member
    exact bne_iff_ne.mpr fun same => unclosed (same ▸ member)
  have closed : (rest ++ ']' :: after).contains ']' = true := by simp
  rw [List.cons_append, tag?, begins, closed, List.takeWhile_append_of_pos all,
    List.dropWhile_append_of_pos all]
  simp

theorem tagged_of_tag? {part name after : List Char} (found : tag? part = some (name, after)) :
    Tagged part name after := by
  unfold tag? at found
  split at found
  · rename_i c rest
    split at found
    · rename_i holds
      obtain ⟨begins, closed⟩ := Bool.and_eq_true_iff.mp holds
      cases found
      refine ⟨?_, c, _, rfl, begins, fun member => ?_⟩
      · have nonempty : rest.dropWhile (· != ']') ≠ [] := by
          intro nothing
          have free := List.dropWhile_eq_nil_iff.mp nothing ']' (List.contains_iff_mem.mp closed)
          exact absurd free (by decide)
        have first := List.head_dropWhile_not (· != ']') nonempty
        obtain ⟨d, others, same⟩ := List.exists_cons_of_ne_nil nonempty
        have bracket : d = ']' := by simpa [same] using first
        have whole := List.takeWhile_append_dropWhile (p := (· != ']')) (l := rest)
        rw [same, bracket] at whole
        rw [same, bracket, List.cons_append, List.drop_one, List.tail_cons, whole]
      · exact absurd (List.mem_takeWhile_imp member) (by decide)
    · exact nomatch found
  · exact nomatch found

/-- Backslashes at the end make no tag. -/
theorem tag?_append_slashes {part slashes : List Char} (untagged : tag? part = none)
    (only : Slashes slashes) : tag? (part ++ slashes) = none := by
  have free : slashes.contains ']' = false := by
    refine Bool.eq_false_iff.mpr fun holds => ?_
    exact absurd (only ']' (List.contains_iff_mem.mp holds)) (by decide)
  cases part with
  | nil =>
    cases slashes with
    | nil => rfl
    | cons c rest =>
      rw [only c List.mem_cons_self]
      rfl
  | cons c rest =>
    have same : (rest ++ slashes).contains ']' = rest.contains ']' := by
      rw [List.contains_append, free, Bool.or_false]
    unfold tag? at untagged ⊢
    rw [List.cons_append]
    dsimp only at untagged ⊢
    rw [same]
    split_ifs at untagged with holds
    exact if_neg holds

/-! ## Escaped text -/

/-- After what was read, every tag that is met has an odd number of backslashes before it. -/
inductive Fenced : List Char → List (List Char) → Prop
  | done {read : List Char} : Fenced read []
  | text {read part : List Char} {parts : List (List Char)} :
    tag? part = none → Fenced (read ++ '[' :: part) parts → Fenced read (part :: parts)
  | tag {read part name after : List Char} {parts : List (List Char)} :
    tag? part = some (name, after) → trailing read % 2 = 1 → Fenced after parts →
      Fenced read (part :: parts)

def escapedPiece : Piece → List Char
  | .text chars => chars
  | .tag escapes name => backslashes (2 * escapes + 1) ++ bracketed name

def resumed : List Char → List (List Char) → List Char
  | _, [] => []
  | read, part :: parts =>
    match tag? part with
    | none => '[' :: part ++ resumed (read ++ '[' :: part) parts
    | some (name, after) =>
      backslashes (trailing read + 1) ++ '[' :: (name ++ ']' :: after) ++ resumed after parts

theorem flatMap_assemble (read : List Char) (parts : List (List Char)) :
    (assemble read parts).flatMap escapedPiece = read ++ resumed read parts := by
  induction parts generalizing read with
  | nil => simp [assemble, resumed, escapedPiece]
  | cons part parts inductionHypothesis =>
    unfold assemble resumed
    cases found : tag? part with
    | none => simp [inductionHypothesis]
    | some tag =>
      obtain ⟨name, after⟩ := tag
      have count : 2 * trailing read + 1 = trailing read + (trailing read + 1) := by omega
      have slashes : backslashes (trailing read + (trailing read + 1)) =
          backslashes (trailing read) ++ backslashes (trailing read + 1) :=
        List.replicate_add _ _ _
      dsimp only
      rw [List.flatMap_cons, List.flatMap_cons, inductionHypothesis, escapedPiece, escapedPiece,
        trailing_eq, count, slashes]
      calc
        _ = ((read.reverse.dropWhile (· == '\\')).reverse ++ backslashes (trailing read)) ++
            (backslashes (trailing read + 1) ++ '[' :: (name ++ ']' :: after) ++
              resumed after parts) := by simp [bracketed]
        _ = _ := by rw [stripped_append]

theorem cut_part (part chars : List Char) :
    ∃ first rest, cut [] chars = first :: rest ∧ cut part chars = (part.reverse ++ first) :: rest := by
  induction chars generalizing part with
  | nil => exact ⟨[], [], rfl, by simp [cut]⟩
  | cons c chars inductionHypothesis =>
    by_cases bracket : c = '['
    · subst bracket
      exact ⟨[], cut [] chars, rfl, by simp [cut]⟩
    · have plain : '[' ∉ [c] := by simpa using Ne.symm bracket
      have own := cut_append [] [c] chars plain
      have other := cut_append part [c] chars plain
      obtain ⟨first, rest, begins, later⟩ := inductionHypothesis [c]
      obtain ⟨first', rest', begins', later'⟩ := inductionHypothesis (c :: part)
      rw [begins] at begins'
      cases begins'
      refine ⟨[c] ++ first, rest, ?_, ?_⟩
      · simpa using own.trans later
      · simpa using other.trans later'

/-- Text without brackets goes before the first part. -/
theorem cut_plain_append {chars rest first : List Char} {parts : List (List Char)}
    (plain : '[' ∉ chars) (cuts : cut [] rest = first :: parts) :
    cut [] (chars ++ rest) = (chars ++ first) :: parts := by
  obtain ⟨first', parts', same, later⟩ := cut_part chars.reverse rest
  rw [cuts] at same
  cases same
  rw [cut_append [] chars rest plain, List.append_nil, later, List.reverse_reverse]

theorem cut_bracket_append (part chars last : List Char) (plain : '[' ∉ last) :
    cut part (chars ++ '[' :: last) = cut part chars ++ [last] := by
  induction chars generalizing part with
  | nil =>
    change part.reverse :: cut [] last = _
    rw [cut_of_plain last plain]
    rfl
  | cons c chars inductionHypothesis =>
    by_cases bracket : c = '['
    · subst bracket
      change part.reverse :: cut [] (chars ++ '[' :: last) = _
      rw [inductionHypothesis]
      rfl
    · have free : '[' ∉ [c] := by simpa using Ne.symm bracket
      have longer := cut_append part [c] (chars ++ '[' :: last) free
      have shorter := cut_append part [c] chars free
      simp only [List.singleton_append, List.reverse_singleton] at longer shorter
      rw [List.cons_append, longer, shorter, inductionHypothesis]

/-- No part holds an opening bracket. -/
theorem plain_of_mem_cut (chars : List Char) :
    ∀ part ∈ cut [] chars, '[' ∉ part := by
  induction chars with
  | nil => simp [cut]
  | cons c chars inductionHypothesis =>
    by_cases bracket : c = '['
    · subst bracket
      change ∀ part ∈ [] :: cut [] chars, '[' ∉ part
      rw [List.forall_mem_cons]
      exact ⟨List.not_mem_nil, inductionHypothesis⟩
    · have plain : '[' ∉ [c] := by simpa using Ne.symm bracket
      obtain ⟨first, rest, cuts, _⟩ := cut_part [] chars
      rw [cuts, List.forall_mem_cons] at inductionHypothesis
      have whole := cut_plain_append plain cuts
      rw [List.singleton_append] at whole
      rw [whole, List.forall_mem_cons]
      refine ⟨?_, inductionHypothesis.2⟩
      rw [List.mem_append]
      exact not_or.mpr ⟨plain, inductionHypothesis.1⟩

theorem slashes_plain {chars : List Char} (only : Slashes chars) : '[' ∉ chars := by
  intro member
  exact absurd (only _ member) (by decide)

theorem slashes_backslashes (count : Nat) : Slashes (backslashes count) :=
  fun _ member => List.eq_of_mem_replicate member

/-- Read again, the rest of an escaped text begins with backslashes alone, and no tag in it is
one. -/
theorem resumed_fenced (parts : List (List Char)) (plain : ∀ part ∈ parts, '[' ∉ part)
    {tail : List Char} (only : Slashes tail) (before read : List Char)
    (apart : trailing before = 0) :
    ∃ first rest, cut [] (resumed read parts ++ tail) = first :: rest ∧ Slashes first ∧
      Fenced (before ++ read ++ first) rest := by
  -- By parts: what was read so far is carried along, for the backslashes that end it.
  induction parts generalizing before read with
  | nil => exact ⟨tail, [], cut_of_plain tail (slashes_plain only), only, .done⟩
  | cons part parts inductionHypothesis =>
    obtain ⟨free, others⟩ := List.forall_mem_cons.mp plain
    unfold resumed
    cases found : tag? part with
    | none =>
      obtain ⟨first, rest, cuts, slashes, fenced⟩ :=
        inductionHypothesis others before (read ++ '[' :: part) apart
      refine ⟨[], (part ++ first) :: rest, ?_, nofun, ?_⟩
      · simp only [List.cons_append, List.append_assoc]
        change [] :: cut [] _ = _
        rw [cut_plain_append free cuts]
      · refine .text (tag?_append_slashes found slashes) ?_
        simpa using fenced
    | some tag =>
      obtain ⟨name, after⟩ := tag
      have tagged := tagged_of_tag? found
      obtain ⟨first, rest, cuts, slashes, fenced⟩ := inductionHypothesis others [] after rfl
      refine ⟨backslashes (trailing read + 1), (name ++ ']' :: (after ++ first)) :: rest, ?_,
        slashes_backslashes _, ?_⟩
      · have inside : cut [] ('[' :: (name ++ ']' :: after) ++ (resumed after parts ++ tail)) =
            [] :: (name ++ ']' :: (after ++ first)) :: rest := by
          rw [← tagged.parts, List.cons_append]
          change [] :: cut [] _ = _
          rw [cut_plain_append free cuts, tagged.parts]
          simp
        have whole := cut_plain_append
          (slashes_plain (slashes_backslashes (trailing read + 1))) inside
        simpa using whole
      · refine .tag (Tagged.tag?_eq ⟨rfl, tagged.begins⟩) ?_ (by simpa using fenced)
        rw [trailing_backslashes, trailing_append before read apart]
        omega

theorem escape_toList (text : String) : ∃ tail, Slashes tail ∧
    (escape text).toList = (pieces text.toList).flatMap escapedPiece ++ tail := by
  unfold escape
  dsimp only
  split
  · refine ⟨[], List.forall_mem_nil _, ?_⟩
    rw [String.toList_ofList, List.append_nil]
    rfl
  · refine ⟨['\\'], fun c member => List.mem_singleton.mp member, ?_⟩
    rw [String.toList_ofList]
    rfl
  · refine ⟨[], List.forall_mem_nil _, ?_⟩
    rw [String.toList_ofList, List.append_nil]
    rfl

theorem escape_fenced (text : String) {before : List Char} (plain : '[' ∉ before)
    (apart : trailing before = 0) :
    ∃ first rest, cut [] (before ++ (escape text).toList) = (before ++ first) :: rest ∧
      Fenced (before ++ first) rest := by
  obtain ⟨tail, only, escaped⟩ := escape_toList text
  obtain ⟨read, parts, cuts, _⟩ := cut_part [] text.toList
  have free := plain_of_mem_cut text.toList
  rw [cuts, List.forall_mem_cons] at free
  obtain ⟨first, rest, again, _, fenced⟩ := resumed_fenced parts free.2 only before read apart
  have written : (escape text).toList = read ++ (resumed read parts ++ tail) := by
    rw [escaped]
    unfold pieces
    rw [cuts]
    dsimp only
    rw [flatMap_assemble, List.append_assoc]
  have whole := cut_plain_append plain (cut_plain_append free.1 again)
  refine ⟨read ++ first, rest, ?_, ?_⟩
  · rw [written, whole]
  · rwa [← List.append_assoc]

/-! ## Showing -/

variable {terminal : Terminal}

theorem showPieces_fenced {read : List Char} {parts : List (List Char)} (fenced : Fenced read parts)
    {closing name after : List Char} (closes : tag? closing = some (name, after))
    {open_ : List Style} (closable : (apply terminal name open_).isSome = true) :
    (showPieces terminal open_ (assemble read (parts ++ [closing]))).isSome = true := by
  induction fenced with
  | done =>
    rw [List.nil_append, assemble, closes]
    simp only [assemble, showPieces, Option.isSome_map]
    split_ifs
    · rfl
    · obtain ⟨left, applied⟩ := Option.isSome_iff_exists.mp closable
      rw [applied]
      rfl
  | text found _ inductionHypothesis =>
    rw [List.cons_append, assemble, found]
    exact inductionHypothesis
  | tag found odd _ inductionHypothesis =>
    rw [List.cons_append, assemble, found]
    dsimp only
    rw [trailing_eq, showPieces, showPieces, if_pos odd, Option.isSome_map, Option.isSome_map]
    exact inductionHypothesis

/-- The name of a style that is a single word. -/
structure Simple (style : List Char) : Prop where
  begins : ∃ c rest, style = c :: rest ∧ beginsTag c = true ∧ c ≠ '/'
  plain : '[' ∉ style ∧ ']' ∉ style ∧ '=' ∉ style
  trimmed : Characters.trim Characters.isBlank style = style

theorem simple_red : Simple "red".toList :=
  ⟨⟨'r', ['e', 'd'], rfl, rfl, by decide⟩, by decide, by decide⟩

theorem simple_dim : Simple "dim".toList :=
  ⟨⟨'d', ['i', 'm'], rfl, rfl, by decide⟩, by decide, by decide⟩

namespace Simple

variable {style : List Char}

theorem takeWhile_eq (simple : Simple style) : style.takeWhile (· != '=') = style := by
  refine List.takeWhile_eq_self_iff.mpr fun c member => ?_
  exact bne_iff_ne.mpr fun same => simple.plain.2.2 (same ▸ member)

theorem dropWhile_eq (simple : Simple style) : style.dropWhile (· != '=') = [] := by
  refine List.dropWhile_eq_nil_iff.mpr fun c member => ?_
  exact bne_iff_ne.mpr fun same => simple.plain.2.2 (same ▸ member)

theorem apply_open (simple : Simple style) :
    apply terminal style [] = some [⟨styleName style, []⟩] := by
  have whole := simple.takeWhile_eq
  have nothing := simple.dropWhile_eq
  obtain ⟨c, rest, rfl, _, other⟩ := simple.begins
  unfold apply
  rw [whole, nothing]
  split
  · rename_i slash
    exact absurd (List.cons.inj slash).1 other
  · rfl

theorem apply_close (simple : Simple style) :
    apply terminal ('/' :: style) [⟨styleName style, []⟩] = some [] := by
  obtain ⟨c, rest, same, _, _⟩ := simple.begins
  have filled : style.isEmpty = false := by rw [same]; rfl
  have slashed : ('/' :: style).takeWhile (· != '=') = '/' :: style := by
    rw [List.takeWhile_cons_of_pos (by decide), simple.takeWhile_eq]
  have found : takeOut (styleName style) [⟨styleName style, []⟩] = some (⟨styleName style, []⟩, []) := by
    simp [takeOut]
  unfold apply
  rw [slashed]
  simp [simple.trimmed, filled, found, Style.closes]

theorem opens (simple : Simple style) (after : List Char) :
    tag? (style ++ ']' :: after) = some (style, after) := by
  obtain ⟨c, rest, same, begins, _⟩ := simple.begins
  refine Tagged.tag?_eq ⟨rfl, c, rest, same, begins, fun member => simple.plain.2.1 ?_⟩
  rw [same]
  exact List.mem_cons_of_mem c member

theorem closes (simple : Simple style) :
    tag? ('/' :: style ++ [']']) = some ('/' :: style, []) :=
  Tagged.tag?_eq ⟨rfl, '/', style, rfl, rfl, simple.plain.2.1⟩

end Simple

theorem shown_notice {style before : List Char} (simple : Simple style) (plain : '[' ∉ before)
    (apart : trailing before = 0) (text : String) {notice : String}
    (written : notice.toList = '[' :: (style ++ ']' :: before) ++ (escape text).toList ++
      '[' :: ('/' :: style ++ [']'])) :
    (shown terminal notice).isSome = true := by
  obtain ⟨first, rest, cuts, fenced⟩ := escape_fenced text plain apart
  have closing : '[' ∉ '/' :: style ++ [']'] := by
    simp [simple.plain.1]
  have opening : '[' ∉ style ++ [']'] := by
    simp [simple.plain.1]
  have parts : cut [] notice.toList =
      [] :: (style ++ ']' :: (before ++ first)) :: (rest ++ ['/' :: style ++ [']']]) := by
    have inside : cut [] (style ++ [']'] ++ (before ++ (escape text).toList) ++
        '[' :: ('/' :: style ++ [']'])) =
        (style ++ ']' :: (before ++ first)) :: (rest ++ ['/' :: style ++ [']']]) := by
      rw [cut_bracket_append [] _ _ closing, cut_plain_append opening cuts]
      simp
    have split : notice.toList = '[' :: (style ++ [']'] ++ (before ++ (escape text).toList) ++
        '[' :: ('/' :: style ++ [']'])) := by
      rw [written]
      simp
    rw [split]
    change [] :: cut [] _ = _
    rw [inside]
  unfold shown pieces
  rw [parts]
  dsimp only
  rw [Option.isSome_map, assemble, simple.opens]
  dsimp only
  rw [showPieces, showPieces, Option.isSome_map]
  have even : ¬ (([] : List Char).length -
      ((([] : List Char).reverse.dropWhile (· == '\\')).reverse).length) % 2 = 1 := by decide
  rw [if_neg even, simple.apply_open]
  dsimp only
  rw [Option.isSome_map]
  refine showPieces_fenced fenced simple.closes ?_
  rw [simple.apply_close]
  rfl

theorem shown_red (before : String) (plain : '[' ∉ before.toList)
    (apart : trailing before.toList = 0) (text : String) :
    (shown terminal ("[red]" ++ before ++ escape text ++ "[/red]")).isSome = true :=
  shown_notice simple_red plain apart text (by simp)

theorem shown_dimmed (text : String) :
    (shown terminal ("[dim]" ++ escape text ++ "[/dim]")).isSome = true :=
  @shown_notice _ _ [] simple_dim (by decide) (by decide) text _ (by simp)

end Markup

namespace Command.Outcome

variable {terminal : Terminal}

/-- A command whose items all show ends as it was meant to. -/
theorem printing_eq (exitCode : Nat) {items : List Screen.Item}
    (shows : ∀ item ∈ items, (item.shown terminal).isSome = true) :
    printing terminal exitCode items =
      { exitCode, output := (Screen.print terminal items).1 } := by
  unfold printing
  dsimp only
  rw [(Screen.print_complete terminal items).mpr shows, if_pos rfl]

/-- An outcome that tells what is wrong, with nothing left to pass on. -/
structure Told (outcome : Outcome) : Prop where
  exitCode : outcome.exitCode = 1
  raised : outcome.raised = none

theorem printing_told {items : List Screen.Item}
    (shows : ∀ item ∈ items, (item.shown terminal).isSome = true) : Told (printing terminal 1 items) := by
  rw [printing_eq 1 shows]
  exact ⟨rfl, rfl⟩

theorem printingJson_told (document : Value) : Told (printingJson terminal 1 document) := by
  apply printing_told
  intro item member
  rw [List.mem_singleton.mp member]
  rfl

/-- Every report is printed. -/
theorem failing_told (report : Report) (json debug : Bool) :
    Told (failing terminal report json debug) := by
  have text : ((Screen.Item.text
      ("[red]" ++ Markup.escape report.text ++ "[/red]")).shown terminal).isSome = true := by
    unfold Screen.Item.shown
    rw [Option.isSome_map]
    have shows := @Markup.shown_red terminal "" (by decide) (by decide) report.text
    rwa [String.append_empty] at shows
  have literal : ((Screen.Item.text
      ("[dim]" ++ Markup.escape report.literal ++ "[/dim]")).shown terminal).isSome = true := by
    unfold Screen.Item.shown
    rw [Option.isSome_map]
    exact Markup.shown_dimmed report.literal
  unfold failing
  split_ifs
  · exact printingJson_told _
  · exact printingJson_told _
  · apply printing_told
    simp only [List.forall_mem_cons, List.singleton_append]
    exact ⟨text, literal, nofun⟩
  · apply printing_told
    simp only [List.forall_mem_cons]
    exact ⟨text, nofun⟩

/-- So is every refusal. -/
theorem refusing_told (message : String) (json : Bool) : Told (refusing terminal message json) := by
  unfold refusing
  split_ifs
  · exact printingJson_told _
  · apply printing_told
    intro item member
    rw [List.mem_singleton.mp member]
    unfold Screen.Item.shown
    rw [Option.isSome_map]
    have shows := @Markup.shown_red terminal "Error: " (by decide) (by decide) message
    rwa [show "[red]" ++ "Error: " = "[red]Error: " from rfl] at shows

end Command.Outcome

end PolicyHost
