import PolicyHost.Command.Markup
import PolicyHost.Command.Paragraph

namespace PolicyHost

/-!
# Tables on a terminal

A table has a heavy border around its head and a light one around its rows.
Its columns are as wide as their widest cells, with a space on each side.  If
that is more than the terminal has, the widest columns give way first.
-/

/-- A column: its title, its width if that is fixed, and whether its cells are
flush right. -/
structure Column where
  title : String
  fixed : Option Nat := none
  flushRight : Bool := false
deriving DecidableEq, Repr

structure Table where
  columns : List Column
  rows : List (List String)
deriving DecidableEq, Repr

namespace Table

/-- The spaces beside the content of a cell. -/
def padding : Nat := 2

variable (terminal : Terminal)

/-- The cells of a row as they show, unless a tag closes nothing. -/
def showRow : List String → Option (List (List Char))
  | [] => some []
  | cell :: rest =>
    match Markup.shown terminal cell, showRow rest with
    | some shown, some others => some (shown :: others)
    | _, _ => none

def showRows : List (List String) → Option (List (List (List Char)))
  | [] => some []
  | row :: rest =>
    match showRow terminal row, showRows rest with
    | some shown, some others => some (shown :: others)
    | _, _ => none

/-- The width a column takes among rows, the title among them. -/
def columnWidth (limit : Nat) (index : Nat) (column : Column)
    (rows : List (List (List Char))) : Nat :=
  let content := match column.fixed with
    | some n => n
    | none => (rows.map fun row => Paragraph.naturalWidth (row.getD index [])).foldl max 0
  min limit (content + padding)

def naturalWidths (limit : Nat) (columns : List Column) (rows : List (List (List Char))) :
    List Nat :=
  columns.mapIdx fun i c => columnWidth limit i c rows

/-- A quotient rounded to the nearest number, and to an even one from the
middle. -/
def roundedQuotient (a b : Nat) : Nat :=
  let quotient := a / b
  let twice := 2 * (a % b)
  if twice < b then quotient
  else if b < twice then quotient + 1
  else quotient + quotient % 2

def reduce (most : Nat) : Nat → Nat → List (Nat × Bool) → List Nat
  | _, _, [] => []
  | amount, count, (width, marked) :: rest =>
    if marked && 0 < count then
      let taken := min most (roundedQuotient amount count)
      (width - taken) :: reduce most (amount - taken) (count - 1) rest
    else width :: reduce most amount count rest

/-- The width of all columns together. -/
def total (widths : List Nat) : Nat := widths.foldr (· + ·) 0

/-- Narrow the widest of the columns that may give way, until all fit. -/
def collapse (limit : Nat) (flexible : List Bool) : Nat → List Nat → List Nat
  | 0, widths => widths
  | budget + 1, widths =>
    let excess := total widths - limit
    let able := (widths.zip flexible).filterMap fun e => if e.2 then some e.1 else none
    let widest := able.foldl max 0
    let second := (able.filter (· != widest)).foldl max 0
    let marked := (widths.zip flexible).map fun e => (e.1, e.2 && e.1 == widest)
    if excess = 0 || able.isEmpty || widest = second then widths
    else
      collapse limit flexible budget
        (reduce (min excess (widest - second)) excess (marked.countP (·.2)) marked)

def widths (limit : Nat) (columns : List Column) (rows : List (List (List Char))) : List Nat :=
  let room := limit - (columns.length + 1)
  let natural := naturalWidths room columns rows
  if total natural ≤ room then natural
  else collapse room (columns.map fun c => c.fixed.isNone) (total natural) natural

def cellLines (column : Column) (width : Nat) (text : List Char) : List (List Char) :=
  let inner := width - padding
  (Paragraph.lines inner .ellipsis text).map fun line =>
    let line := if column.flushRight then Paragraph.padLeft inner line
      else Paragraph.padRight inner line
    ' ' :: line ++ [' ']

def cellsOf (columns : List Column) (widths : List Nat) (row : List (List Char)) :
    List (Nat × List (List Char)) :=
  (columns.zip widths).mapIdx fun i e => (e.2, cellLines e.1 e.2 (row.getD i []))

/-- A row between borders.  Its cells are made equally high. -/
def rowLines (border : Char) (columns : List Column) (widths : List Nat)
    (row : List (List Char)) : List String :=
  let cells := cellsOf columns widths row
  let height := (cells.map fun c => c.2.length).foldl max 1
  (List.range height).map fun i =>
    let parts := cells.map fun c =>
      String.ofList ((c.2[i]?).getD (List.replicate c.1 ' '))
    border.toString ++ border.toString.intercalate parts ++ border.toString

/-- A border line, from its left end, its line, its crossings and its right
end. -/
def borderLine (left line cross right : Char) (widths : List Nat) : String :=
  left.toString ++
    cross.toString.intercalate (widths.map fun n => String.ofList (List.replicate n line)) ++
    right.toString

/-- The lines of a table in a terminal, unless a tag in it closes nothing. -/
def lines (table : Table) : Option (List String) :=
  match showRow terminal (table.columns.map (·.title)), showRows terminal table.rows with
  | some titles, some rows =>
    let widths := widths terminal.columns table.columns (titles :: rows)
    some ([borderLine '┏' '━' '┳' '┓' widths] ++ rowLines '┃' table.columns widths titles ++
      [borderLine '┡' '━' '╇' '┩' widths] ++
      rows.flatMap (rowLines '│' table.columns widths) ++
      [borderLine '└' '─' '┴' '┘' widths])
  | _, _ => none

end Table
end PolicyHost
