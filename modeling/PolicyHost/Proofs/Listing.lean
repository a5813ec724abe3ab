import PolicyHost.Command
import PolicyHost.Proofs.Admission
import PolicyHost.Proofs.Layout

namespace PolicyHost

/-!
# Listing entrypoints

The command that lists entrypoints looks each of them up again by its name, and
prints what it finds as a document or as a table.  In the table a name may hold
style tags by accident, or the names of characters between colons, and one that is
too wide is cut off.  Names that hold none of these and fit are shown as they are.
-/

variable {σ : Type}

/-- Nothing is replaced where there is no colon. -/
def Terminal.Literal (terminal : Terminal) : Prop :=
  ∀ chars : List Char, ':' ∉ chars → terminal.replace chars = chars

namespace Markup

variable (terminal : Terminal)

theorem cut_append (part chars rest : List Char) (plain : '[' ∉ chars) :
    cut part (chars ++ rest) = cut (chars.reverse ++ part) rest := by
  induction chars generalizing part with
  | nil => rfl
  | cons c others inductionHypothesis =>
    simp only [List.mem_cons, not_or] at plain
    have kept : cut part (c :: (others ++ rest)) = cut (c :: part) (others ++ rest) := by
      rw [cut.eq_def]
      split
      · rename_i same
        cases same
      · rename_i same
        cases same
        exact absurd rfl plain.1
      · rename_i same
        cases same
        rfl
    rw [List.cons_append, kept, inductionHypothesis _ plain.2]
    simp

theorem cut_of_plain (chars : List Char) (plain : '[' ∉ chars) : cut [] chars = [chars] := by
  have whole := cut_append [] chars [] plain
  simpa [cut] using whole

/-- A text without brackets shows as one piece. -/
theorem shown_of_plain (text : String) (plain : '[' ∉ text.toList) :
    shown terminal text =
      some ((terminal.replace (unescape text.toList)).filter fun c => !isSilent c) := by
  unfold shown pieces
  rw [cut_of_plain _ plain]
  simp [assemble, showPieces]

theorem unescape_of_plain (chars : List Char) (plain : '[' ∉ chars) : unescape chars = chars := by
  induction chars with
  | nil => rfl
  | cons c rest inductionHypothesis =>
    have parts := not_or.mp (mt List.mem_cons.mpr plain)
    rw [unescape.eq_def]
    split
    · rename_i same
      cases same
      exact absurd (List.mem_cons_self ..) parts.2
    · rename_i same
      cases same
      rw [inductionHypothesis parts.2]
    · rename_i same
      cases same

/-- A text that a place of so many cells shows as it is. -/
structure Legible (limit : Nat) (text : String) : Prop where
  visible : ∀ c ∈ text.toList, 0 < CellWidth.ofChar c
  untagged : '[' ∉ text.toList
  uncoded : ':' ∉ text.toList
  narrow : Paragraph.width text.toList ≤ limit

variable {limit : Nat} {text : String}

theorem Legible.fits (legible : Legible limit text) : Paragraph.Fits limit text.toList where
  feedless member := absurd (legible.visible _ member) (by decide)
  tabless member := absurd (legible.visible _ member) (by decide)
  narrow := legible.narrow
  short := (Paragraph.length_le_width legible.visible).trans legible.narrow

theorem not_isSilent {c : Char} (visible : 0 < CellWidth.ofChar c) : isSilent c = false := by
  unfold isSilent
  simp only [Bool.or_eq_false_iff, beq_eq_false_iff_ne]
  refine ⟨⟨⟨⟨?_, ?_⟩, ?_⟩, ?_⟩, ?_⟩
  all_goals
    rintro rfl
    exact absurd visible (by decide)

variable {terminal}

theorem Legible.shown (legible : Legible limit text) (literal : terminal.Literal) :
    shown terminal text = some text.toList := by
  rw [shown_of_plain _ _ legible.untagged, unescape_of_plain _ legible.untagged,
    literal _ legible.uncoded]
  congr 1
  rw [List.filter_eq_self]
  intro c member
  rw [not_isSilent (legible.visible c member)]
  rfl

/-- However many backslashes stand before it, a tag that closes a style has
something to close. -/
theorem showPieces_dim (first second : List Char) (escapes : Nat) :
    (showPieces terminal [] [.text first, .tag 0 ['d', 'i', 'm'], .text second,
      .tag escapes ['/', 'd', 'i', 'm'], .text []]).isSome = true := by
  have opened : apply terminal ['d', 'i', 'm'] [] = some [⟨styleName ['d', 'i', 'm'], []⟩] := by
    rfl
  have closed : apply terminal ['/', 'd', 'i', 'm'] [⟨styleName ['d', 'i', 'm'], []⟩] =
      some [] := by
    have name : Characters.trim Characters.isBlank ['d', 'i', 'm'] = ['d', 'i', 'm'] := by decide
    have cut : (['/', 'd', 'i', 'm'].takeWhile (· != '=')) = ['/', 'd', 'i', 'm'] := by decide
    unfold apply
    rw [cut]
    simp [name, takeOut, Style.closes]
  simp only [showPieces, Option.isSome_map, opened, Nat.zero_mod, Nat.zero_ne_one, if_false]
  split
  · rfl
  · rw [closed]
    rfl

/-- A text in a style that is closed again shows. -/
theorem shown_dim (content : String) (plain : '[' ∉ content.toList) :
    (shown terminal ("[dim]" ++ content ++ "[/dim]")).isSome = true := by
  have free : '[' ∉ "dim]".toList ++ content.toList := by simp [plain]
  have cuts : cut [] ("[dim]" ++ content ++ "[/dim]").toList =
      [[], "dim]".toList ++ content.toList, "/dim]".toList] := by
    have characters : ("[dim]" ++ content ++ "[/dim]").toList =
        '[' :: (("dim]".toList ++ content.toList) ++ '[' :: "/dim]".toList) := by simp
    rw [characters]
    change [] :: cut [] _ = _
    rw [cut_append _ _ _ free]
    change [] :: (List.reverse _) :: cut [] "/dim]".toList = _
    rw [cut_of_plain _ (by decide), List.append_nil, List.reverse_reverse]
  have opens : tag? ("dim]".toList ++ content.toList) = some (['d', 'i', 'm'], content.toList) := by
    rfl
  have closes : tag? "/dim]".toList = some (['/', 'd', 'i', 'm'], []) := by rfl
  unfold shown pieces
  rw [cuts]
  dsimp only
  rw [assemble, opens]
  dsimp only
  rw [assemble, closes]
  dsimp only
  rw [Option.isSome_map]
  exact showPieces_dim _ _ _

end Markup

/-- A number is written with digits and a sign. -/
theorem mem_toString {n : Int} {c : Char} (member : c ∈ (toString n).toList) :
    c = '-' ∨ c.isDigit = true := by
  have digits : ∀ m : Nat, c ∈ m.repr.toList → c.isDigit = true := by
    intro m member
    rw [Nat.toList_repr] at member
    exact Nat.isDigit_of_mem_toDigits (by decide) (by decide) member
  cases n with
  | ofNat m => exact .inr (digits m member)
  | negSucc m =>
    change c ∈ ("-" ++ (m + 1).repr).toList at member
    rw [String.toList_append, List.mem_append] at member
    obtain sign | digit := member
    · exact .inl (List.mem_singleton.mp sign)
    · exact .inr (digits _ digit)

theorem not_mem_toString (n : Int) {c : Char} (sign : c ≠ '-') (digit : c.isDigit = false) :
    c ∉ (toString n).toList := by
  intro member
  obtain rfl | found := mem_toString member
  · exact sign rfl
  · exact Bool.false_ne_true (digit.symm.trans found)

theorem ofChar_of_mem_toString {n : Int} {c : Char} (member : c ∈ (toString n).toList) :
    CellWidth.ofChar c = 1 := by
  obtain rfl | digit := mem_toString member
  · decide
  · simp only [Char.isDigit, Bool.and_eq_true, decide_eq_true_eq] at digit
    have low : 0x30 ≤ c.toNat := digit.1
    have high : c.toNat ≤ 0x39 := digit.2
    unfold CellWidth.ofChar
    simp only [Bool.or_eq_true, Bool.and_eq_true, decide_eq_true_eq]
    rw [if_pos (by omega), if_neg (by omega)]

/-- A number is legible where its digits and its sign have room. -/
theorem legible_toString {n : Int} {limit : Nat} (short : (toString n).length ≤ limit) :
    Markup.Legible limit (toString n) where
  visible c member := by rw [ofChar_of_mem_toString member]; decide
  untagged := not_mem_toString n (by decide) (by decide)
  uncoded := not_mem_toString n (by decide) (by decide)
  narrow := by
    rw [Paragraph.width_eq_length fun c => ofChar_of_mem_toString, String.length_toList]
    exact short

namespace Table

variable {terminal : Terminal}

theorem showRow_isSome (cells : List String) :
    (showRow terminal cells).isSome = true ↔
      ∀ cell ∈ cells, (Markup.shown terminal cell).isSome = true := by
  induction cells with
  | nil => simp [showRow]
  | cons cell rest inductionHypothesis =>
    rw [showRow, List.forall_mem_cons, ← inductionHypothesis]
    cases Markup.shown terminal cell <;> cases showRow terminal rest <;> simp

theorem showRows_isSome (rows : List (List String)) :
    (showRows terminal rows).isSome = true ↔
      ∀ row ∈ rows, (showRow terminal row).isSome = true := by
  induction rows with
  | nil => simp [showRows]
  | cons row rest inductionHypothesis =>
    rw [showRows, List.forall_mem_cons, ← inductionHypothesis]
    cases showRow terminal row <;> cases showRows terminal rest <;> simp

theorem lines_isSome (table : Table) :
    (table.lines terminal).isSome = true ↔
      (showRow terminal (table.columns.map (·.title))).isSome = true ∧
        (showRows terminal table.rows).isSome = true := by
  unfold lines
  cases showRow terminal (table.columns.map (·.title)) <;>
    cases showRows terminal table.rows <;> simp

end Table

theorem Screen.print_complete (terminal : Terminal) (items : List Screen.Item) :
    (Screen.print terminal items).2 = true ↔
      ∀ item ∈ items, (item.shown terminal).isSome = true := by
  induction items with
  | nil => simp [print]
  | cons item rest inductionHypothesis =>
    rw [List.forall_mem_cons, ← inductionHypothesis, print]
    cases item.shown terminal <;> simp

/-- The largest of some numbers and another one. -/
theorem le_foldl_max (numbers : List Nat) (least : Nat) :
    least ≤ numbers.foldl max least ∧ ∀ n ∈ numbers, n ≤ numbers.foldl max least := by
  induction numbers generalizing least with
  | nil => exact ⟨Nat.le_refl _, nofun⟩
  | cons n rest inductionHypothesis =>
    obtain ⟨above, all⟩ := inductionHypothesis (max least n)
    refine ⟨Nat.le_trans (Nat.le_max_left ..) above, List.forall_mem_cons.mpr ⟨?_, all⟩⟩
    exact Nat.le_trans (Nat.le_max_right ..) above

theorem foldl_max_le {numbers : List Nat} {least limit : Nat} (start : least ≤ limit)
    (all : ∀ n ∈ numbers, n ≤ limit) : numbers.foldl max least ≤ limit := by
  induction numbers generalizing least with
  | nil => exact start
  | cons n rest inductionHypothesis =>
    have parts := List.forall_mem_cons.mp all
    exact inductionHypothesis (Nat.max_le.mpr ⟨start, parts.1⟩) parts.2

namespace Command

variable {terminal : Terminal}

theorem Outcome.printing_exitCode (items : List Screen.Item) :
    (Outcome.printing terminal 0 items).exitCode = 0 ↔
      ∀ item ∈ items, (item.shown terminal).isSome = true := by
  rw [← Screen.print_complete]
  unfold printing
  dsimp only
  split
  · rename_i complete
    simp [complete]
  · rename_i stopped
    simp [stopped, pass]

theorem identifiers_known (host : Host σ) (names : List String)
    (known : ∀ name ∈ names, (host.published name).isSome = true) :
    identifiers host names = .ok (names.filterMap fun name =>
      (host.published name).map fun id => (name, id)) := by
  induction names with
  | nil => rfl
  | cons name rest inductionHypothesis =>
    have parts := List.forall_mem_cons.mp known
    obtain ⟨id, published⟩ := Option.isSome_iff_exists.mp parts.1
    rw [identifiers, Host.resolve_eq, published]
    dsimp only
    rw [inductionHypothesis parts.2]
    simp [published]

/-- The first of the names that cannot be looked up is reported. -/
theorem identifiers_unknown (host : Host σ) (names : List String)
    (unknown : ∃ name ∈ names, host.published name = none) :
    ∃ name ∈ names, identifiers host names =
      .error (.report (Report.unknownEntrypoint (normalizePath name)
        (host.entrypoints.map (·.1)))) := by
  induction names with
  | nil =>
    obtain ⟨name, member, _⟩ := unknown
    exact nomatch member
  | cons first rest inductionHypothesis =>
    rw [identifiers, Host.resolve_eq]
    cases published : host.published first with
    | none => exact ⟨first, List.mem_cons_self .., rfl⟩
    | some id =>
      have later : ∃ name ∈ rest, host.published name = none := by
        obtain ⟨name, member, missing⟩ := unknown
        obtain rfl | member := List.mem_cons.mp member
        · exact nomatch published.symm.trans missing
        · exact ⟨name, member, missing⟩
      obtain ⟨name, member, failed⟩ := inductionHypothesis later
      refine ⟨name, List.mem_cons_of_mem _ member, ?_⟩
      dsimp only
      rw [failed]

/-- What is listed of a host: its names in order, each with the identifier that it is
looked up as. -/
def listing (host : Host σ) : List (String × Int) :=
  (sorted (host.entrypoints.map (·.1))).filterMap fun name =>
    (host.published name).map fun id => (name, id)

theorem sorted_perm (names : List String) : (sorted names).Perm names :=
  List.mergeSort_perm names _

/-- If every name is looked up as its own identifier, the table itself is listed. -/
theorem listing_perm (host : Host σ)
    (own : ∀ e ∈ host.entrypoints, host.published e.1 = some e.2) :
    (listing host).Perm host.entrypoints := by
  have unsorted := (sorted_perm (host.entrypoints.map (·.1))).filterMap fun name =>
    (host.published name).map fun id => (name, id)
  rw [List.filterMap_map] at unsorted
  have all : host.entrypoints.filterMap
      ((fun name => (host.published name).map fun id => (name, id)) ∘ (·.1)) =
        host.entrypoints := by
    refine (List.filterMap_congr fun e member => ?_).trans List.filterMap_some
    simp [own e member]
  rwa [all] at unsorted

/-- If every name is looked up as something, it is listed as that. -/
theorem listing_names (host : Host σ)
    (known : ∀ e ∈ host.entrypoints, (host.published e.1).isSome = true) :
    (listing host).map (·.1) = sorted (host.entrypoints.map (·.1)) := by
  unfold listing
  rw [List.map_filterMap]
  refine (List.filterMap_congr fun name member => ?_).trans List.filterMap_some
  obtain ⟨e, listed, rfl⟩ := List.mem_map.mp ((sorted_perm _).mem_iff.mp member)
  obtain ⟨id, published⟩ := Option.isSome_iff_exists.mp (known e listed)
  simp [published]

/-! ## The table -/

theorem minor_shown (terminal : Terminal) (minor : Int) : ∃ lines,
    (Screen.Item.text ("[dim]ABI minor version: " ++ toString minor ++ "[/dim]")).shown terminal =
      some (Screen.ofLines lines) := by
  have content : "[dim]ABI minor version: " ++ toString minor ++ "[/dim]" =
      "[dim]" ++ ("ABI minor version: " ++ toString minor) ++ "[/dim]" := by
    rw [← String.append_assoc]
    rfl
  have plain : '[' ∉ ("ABI minor version: " ++ toString minor).toList := by
    rw [String.toList_append, List.mem_append]
    exact not_or.mpr ⟨by decide, not_mem_toString minor (by decide) (by decide)⟩
  have styled : (Markup.shown terminal ("[dim]" ++ _ ++ "[/dim]")).isSome = true :=
    Markup.shown_dim _ plain
  obtain ⟨chars, shown⟩ := Option.isSome_iff_exists.mp styled
  rw [Screen.Item.shown, content, shown]
  exact ⟨_, rfl⟩

theorem entrypointTable_printed {rows : List (String × Int)} (minor : Int)
    (untagged : ∀ row ∈ rows, '[' ∉ row.1.toList) :
    (Outcome.printing terminal 0 [.table (entrypointTable rows),
      .text ("[dim]ABI minor version: " ++ toString minor ++ "[/dim]")]).exitCode = 0 := by
  have plain : ∀ cells : List String, (∀ cell ∈ cells, '[' ∉ cell.toList) →
      (Table.showRow terminal cells).isSome = true := by
    intro cells untagged
    rw [Table.showRow_isSome]
    intro cell member
    rw [Markup.shown_of_plain terminal cell (untagged cell member)]
    rfl
  obtain ⟨_, told⟩ := minor_shown terminal minor
  rw [Outcome.printing_exitCode]
  refine List.forall_mem_cons.mpr ⟨?_, List.forall_mem_singleton.mpr (by rw [told]; rfl)⟩
  unfold Screen.Item.shown
  rw [Option.isSome_map, Table.lines_isSome, Table.showRows_isSome]
  refine ⟨plain ["ID", "Entrypoint"] (by decide), ?_⟩
  intro cells member
  obtain ⟨row, listed, rfl⟩ := List.mem_map.mp member
  apply plain
  exact List.forall_mem_cons.mpr ⟨not_mem_toString row.2 (by decide) (by decide),
    List.forall_mem_singleton.mpr (untagged row listed)⟩

/-- The cells of the widest name, the title among them. -/
def nameWidth (rows : List (String × Int)) : Nat :=
  (rows.map fun row => Paragraph.width row.1.toList).foldl max 10

/-- The line of an entrypoint in a table with so many cells for a name. -/
def entryLine (cells : Nat) (row : String × Int) : String :=
  "│ " ++ String.ofList (Paragraph.padRight 4 (toString row.2).toList) ++ " │ " ++
    String.ofList (Paragraph.padRight cells row.1.toList) ++ " │"

/-- An entrypoint that its line in the table can show. -/
structure Tabular (terminal : Terminal) (row : String × Int) : Prop where
  name : Markup.Legible (terminal.columns - 11) row.1
  id : (toString row.2).length ≤ 4

theorem showRows_entrypoints (literal : terminal.Literal) {rows : List (String × Int)}
    (tabular : ∀ row ∈ rows, Tabular terminal row) :
    Table.showRows terminal (entrypointTable rows).rows =
      some (rows.map fun row => [(toString row.2).toList, row.1.toList]) := by
  unfold entrypointTable
  induction rows with
  | nil => rfl
  | cons row rest inductionHypothesis =>
    have parts := List.forall_mem_cons.mp tabular
    have id := (legible_toString parts.1.id).shown literal
    have name := parts.1.name.shown literal
    rw [List.map_cons, Table.showRows, inductionHypothesis parts.2, Table.showRow, id,
      Table.showRow, name]
    rfl

/-- The columns are as wide as what they hold. -/
theorem widths_entrypoints {rows : List (String × Int)} (room : 21 ≤ terminal.columns)
    (tabular : ∀ row ∈ rows, Tabular terminal row) :
    Table.widths terminal.columns (entrypointTable rows).columns
      (["ID".toList, "Entrypoint".toList] ::
        rows.map fun row => [(toString row.2).toList, row.1.toList]) =
      [6, nameWidth rows + 2] := by
  have bound : nameWidth rows ≤ terminal.columns - 11 := by
    refine foldl_max_le (by omega) fun n member => ?_
    obtain ⟨row, listed, rfl⟩ := List.mem_map.mp member
    exact (tabular row listed).name.narrow
  have content : (((["ID".toList, "Entrypoint".toList] ::
      rows.map fun row => [(toString row.2).toList, row.1.toList]).map fun row =>
        Paragraph.naturalWidth (row.getD 1 [])).foldl max 0) = nameWidth rows := by
    have names : ∀ row ∈ rows,
        Paragraph.naturalWidth row.1.toList = Paragraph.width row.1.toList := fun row listed =>
      Paragraph.naturalWidth_of_not_mem (tabular row listed).name.fits.feedless
    rw [List.map_cons, List.foldl_cons, List.map_map]
    have same : rows.map ((fun row : List (List Char) => Paragraph.naturalWidth (row.getD 1 [])) ∘
        fun row => [(toString row.2).toList, row.1.toList]) =
          rows.map fun row => Paragraph.width row.1.toList :=
      List.map_congr_left names
    rw [same]
    rfl
  have natural : Table.naturalWidths (terminal.columns - 3) (entrypointTable rows).columns
      (["ID".toList, "Entrypoint".toList] ::
        rows.map fun row => [(toString row.2).toList, row.1.toList]) =
      [6, nameWidth rows + 2] := by
    unfold Table.naturalWidths Table.columnWidth entrypointTable
    simp only [List.mapIdx_cons, List.mapIdx_nil, content, Table.padding]
    rw [Nat.min_eq_right (by omega), Nat.min_eq_right (by omega)]
  unfold Table.widths
  dsimp only
  rw [show (entrypointTable rows).columns.length + 1 = 3 from rfl, natural, if_pos]
  simp only [Table.total, List.foldr_cons, List.foldr_nil]
  omega

theorem rowLines_entrypoint {rows : List (String × Int)} {row : String × Int}
    (tabular : Tabular terminal row) (member : row ∈ rows) :
    Table.rowLines '│' (entrypointTable rows).columns [6, nameWidth rows + 2]
      [(toString row.2).toList, row.1.toList] = [entryLine (nameWidth rows) row] := by
  have narrow : Paragraph.width row.1.toList ≤ nameWidth rows :=
    (le_foldl_max _ 10).2 _ (List.mem_map.mpr ⟨row, member, rfl⟩)
  have name : Paragraph.Fits (nameWidth rows + 2 - Table.padding) row.1.toList :=
    { tabular.name.fits with
      narrow := narrow
      short := (Paragraph.length_le_width tabular.name.visible).trans narrow }
  have id : Paragraph.Fits (6 - Table.padding) (toString row.2).toList :=
    (legible_toString tabular.id).fits
  unfold entrypointTable
  rw [Table.rowLines_pair _ _ _ id name]
  congr 1
  apply String.toList_inj.mp
  simp [entryLine, Table.cell, Table.padding]

/-- Each entrypoint has its line in the table, in the order they are listed in. -/
theorem entrypointTable_lines (literal : terminal.Literal) (room : 21 ≤ terminal.columns)
    {rows : List (String × Int)} (tabular : ∀ row ∈ rows, Tabular terminal row) :
    ∃ before after, (entrypointTable rows).lines terminal =
      some (before ++ rows.map (entryLine (nameWidth rows)) ++ after) := by
  have titles : Table.showRow terminal ((entrypointTable rows).columns.map (·.title)) =
      some ["ID".toList, "Entrypoint".toList] := by
    have visible (text : String) (shows : text.toList.all (0 < CellWidth.ofChar ·)) :
        ∀ c ∈ text.toList, 0 < CellWidth.ofChar c := by
      simpa using shows
    have id : Markup.Legible 4 "ID" := ⟨visible _ (by decide), by decide, by decide, by decide⟩
    have name : Markup.Legible 10 "Entrypoint" :=
      ⟨visible _ (by decide), by decide, by decide, by decide⟩
    unfold entrypointTable
    rw [List.map_cons, List.map_cons, Table.showRow, id.shown literal, Table.showRow,
      name.shown literal]
    rfl
  have entries : (rows.map fun row => [(toString row.2).toList, row.1.toList]).flatMap
      (Table.rowLines '│' (entrypointTable rows).columns [6, nameWidth rows + 2]) =
      rows.map (entryLine (nameWidth rows)) := by
    rw [List.flatMap_map, List.flatMap_congr fun row member =>
      rowLines_entrypoint (tabular row member) member, List.map_eq_flatMap]
  unfold Table.lines
  rw [titles, showRows_entrypoints literal tabular]
  dsimp only
  rw [widths_entrypoints room tabular, entries]
  exact ⟨_, _, rfl⟩

theorem entrypointTable_output (literal : terminal.Literal) (room : 21 ≤ terminal.columns)
    (minor : Int) {rows : List (String × Int)} (tabular : ∀ row ∈ rows, Tabular terminal row) :
    ∃ before after, (Outcome.printing terminal 0 [.table (entrypointTable rows),
      .text ("[dim]ABI minor version: " ++ toString minor ++ "[/dim]")]).output =
        Screen.ofLines (before ++ rows.map (entryLine (nameWidth rows)) ++ after) := by
  obtain ⟨before, after, lines⟩ := entrypointTable_lines literal room tabular
  obtain ⟨told, shown⟩ := minor_shown terminal minor
  have table : (Screen.Item.table (entrypointTable rows)).shown terminal =
      some (Screen.ofLines (before ++ rows.map (entryLine (nameWidth rows)) ++ after)) := by
    rw [Screen.Item.shown, lines]
    rfl
  unfold Outcome.printing
  rw [Screen.print, table]
  dsimp only
  rw [Screen.print, shown]
  refine ⟨before, after ++ told, ?_⟩
  simp [Screen.print, Screen.ofLines_append, String.append_assoc]

/-- The document that tells the entrypoints of a host. -/
def entrypointDocument (minor : Int) (rows : List (String × Int)) : Value :=
  Value.object [("abi_minor_version", .int minor),
    ("entrypoints", Value.object (rows.map fun row => (row.1, .int row.2)))]

variable (around : Surroundings)

/-- What the command does for a bundle from which a host can be built. -/
structure Lists (engine : Engine σ) (file : File) (host : Host σ) : Prop where
  /-- If every name can be looked up, the document of all of them is printed. -/
  document : (∀ e ∈ host.entrypoints, (host.published e.1).isSome = true) →
    entrypoints around engine file true = .printingJson around.terminal 0
        (entrypointDocument host.minor (listing host)) ∧
      (entrypoints around engine file true).exitCode = 0
  /-- Or a table is, if no name can be taken for a tag. -/
  printed : (∀ e ∈ host.entrypoints, (host.published e.1).isSome = true) →
    (∀ e ∈ host.entrypoints, '[' ∉ e.1.toList) →
      (entrypoints around engine file false).exitCode = 0
  /-- It has a line for each entrypoint, if they fit. -/
  shown : (∀ e ∈ host.entrypoints, (host.published e.1).isSome = true) →
    around.terminal.Literal → 21 ≤ around.terminal.columns →
    (∀ row ∈ listing host, Tabular around.terminal row) →
      ∃ before after, (entrypoints around engine file false).output =
        Screen.ofLines (before ++ (listing host).map (entryLine (nameWidth (listing host))) ++ after)
  /-- If some name cannot be looked up, nothing is printed, and one that cannot is
  passed on as unknown. -/
  stops : (∃ e ∈ host.entrypoints, host.published e.1 = none) → ∀ json,
    ∃ e ∈ host.entrypoints, entrypoints around engine file json =
      .pass (.report (Report.unknownEntrypoint (normalizePath e.1)
        (host.entrypoints.map (·.1))))

theorem entrypoints_lists (engine : Engine σ) (file : File) (host : Host σ)
    (built : (readBundle around file).bind (buildHost engine {}) = .ok host) :
    Lists around engine file host := by
  have names : ∀ name, name ∈ sorted (host.entrypoints.map (·.1)) ↔
      ∃ e ∈ host.entrypoints, e.1 = name := by
    intro name
    rw [(sorted_perm _).mem_iff, List.mem_map]
  have identified : (∀ e ∈ host.entrypoints, (host.published e.1).isSome = true) →
      identifiers host (sorted (host.entrypoints.map (·.1))) = .ok (listing host) := by
    intro known
    apply identifiers_known
    intro name member
    obtain ⟨e, listed, rfl⟩ := (names name).mp member
    exact known e listed
  have tabled : (∀ e ∈ host.entrypoints, (host.published e.1).isSome = true) →
      entrypoints around engine file false = .printing around.terminal 0
        [.table (entrypointTable (listing host)),
          .text ("[dim]ABI minor version: " ++ toString host.minor ++ "[/dim]")] := by
    intro known
    unfold entrypoints
    rw [built]
    dsimp only
    rw [identified known]
    rfl
  constructor
  case document =>
    intro known
    unfold entrypoints
    rw [built]
    dsimp only
    rw [identified known]
    dsimp only
    rw [if_pos rfl]
    refine ⟨rfl, ?_⟩
    unfold Outcome.printingJson
    rw [Outcome.printing_exitCode]
    simp [Screen.Item.shown]
  case printed =>
    intro known untagged
    rw [tabled known]
    apply entrypointTable_printed
    intro row member
    have name : row.1 ∈ sorted (host.entrypoints.map (·.1)) := by
      rw [← listing_names host known]
      exact List.mem_map.mpr ⟨row, member, rfl⟩
    obtain ⟨e, listed, same⟩ := (names row.1).mp name
    rw [← same]
    exact untagged e listed
  case shown =>
    intro known literal room tabular
    rw [tabled known]
    exact entrypointTable_output literal room host.minor tabular
  case stops =>
    intro unknown json
    obtain ⟨e, member, missing⟩ := unknown
    obtain ⟨name, listed, failed⟩ := identifiers_unknown host
      (sorted (host.entrypoints.map (·.1))) ⟨e.1, (names e.1).mpr ⟨e, member, rfl⟩, missing⟩
    obtain ⟨found, among, rfl⟩ := (names name).mp listed
    refine ⟨found, among, ?_⟩
    unfold entrypoints
    rw [built]
    dsimp only
    rw [failed]

end Command
end PolicyHost
