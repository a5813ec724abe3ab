import PolicyHost.Text.Characters

namespace PolicyHost
namespace Yaml

/-!
# Places in a YAML text

What a character means in YAML depends on where it stands: on the column it
begins at, on what was read on the same line, on whether it follows a break.
A cursor is the text that is left together with the place where it begins.

There are five line breaks.  A carriage return with a line feed is one break,
and all but the two Unicode separators are read as a line feed.
-/

/-- Why a text is not read.  Besides malformed YAML there are scalars whose
type says more than their text can hold, and documents too deep to be read. -/
inductive Failure where
  | malformed
  /-- A number, date or character that cannot be. -/
  | impossible
  /-- A number that is too large to be counted with. -/
  | boundless
  /-- A word that is no truth value. -/
  | unknownWord
  /-- A number without any characters. -/
  | emptyNumber
  /-- A text that is no point in time. -/
  | noMoment
  /-- More collections inside each other than there is room for. -/
  | exhausted
deriving DecidableEq, Repr

/-- A character that ends a line. -/
def isBreak (c : Char) : Bool :=
  c == '\n' || c == '\r' || c == '\x85' || c == '\u2028' || c == '\u2029'

/-- A space or a tab. -/
def isBlank (c : Char) : Bool := c == ' ' || c == '\t'

/-- A character that a YAML text may have at all. -/
def isAllowed (c : Char) : Bool :=
  let n := c.toNat
  n == 0x09 || n == 0x0A || n == 0x0D || (0x20 ≤ n && n ≤ 0x7E) || n == 0x85 ||
    (0xA0 ≤ n && n ≤ 0xD7FF) || (0xE000 ≤ n && n ≤ 0xFFFD) || 0x10000 ≤ n

def isNameChar (c : Char) : Bool := c.isAlphanum || c == '-' || c == '_'

def byteOrderMark : Char := '\uFEFF'

structure Cursor where
  rest : List Char
  index : Nat := 0
  line : Nat := 0
  column : Nat := 0

namespace Cursor

/-- The next character. -/
def peek (cursor : Cursor) : Option Char := cursor.rest.head?

/-- Whether the next character is of a class. -/
def sees (cursor : Cursor) (p : Char → Bool) : Bool :=
  match cursor.rest with
  | c :: _ => p c
  | [] => false

/-- Move past one character.  A byte order mark takes no column. -/
def next (cursor : Cursor) : Cursor :=
  match cursor.rest with
  | [] => cursor
  | c :: rest =>
    let moved := { cursor with rest, index := cursor.index + 1 }
    if isBreak c && !(c == '\r' && rest.head? == some '\n') then
      { moved with line := cursor.line + 1, column := 0 }
    else if c == byteOrderMark then moved
    else { moved with column := cursor.column + 1 }

/-- Move past several characters. -/
def skip : Nat → Cursor → Cursor
  | 0, cursor => cursor
  | n + 1, cursor => skip n cursor.next

/-- Take the characters of a class. -/
def span (cursor : Cursor) (p : Char → Bool) : List Char × Cursor :=
  let run := cursor.rest.takeWhile p
  (run, cursor.skip run.length)

/-- Move past the characters of a class. -/
def dropWhile (cursor : Cursor) (p : Char → Bool) : Cursor := (cursor.span p).2

def dropSpaces (cursor : Cursor) : Cursor := cursor.dropWhile (· == ' ')

/-- Whether nothing or white space comes `ahead` characters on. -/
def endsAt (cursor : Cursor) (ahead : Nat) : Bool :=
  match cursor.rest.drop ahead with
  | c :: _ => isBlank c || isBreak c
  | [] => true

/-- Whether nothing, a space or a break comes next, but no tab. -/
def endsHeader (cursor : Cursor) : Bool :=
  match cursor.rest with
  | c :: _ => c == ' ' || isBreak c
  | [] => true

/-- Whether three characters that separate documents come next. -/
def seesSeparator (cursor : Cursor) : Bool :=
  let three := String.ofList (cursor.rest.take 3)
  (three == "---" || three == "...") && cursor.endsAt 3

/-- Move past a line break, and tell how it is read. -/
def lineBreak? (cursor : Cursor) : Option (Char × Cursor) :=
  match cursor.rest with
  | '\r' :: '\n' :: _ => some ('\n', cursor.skip 2)
  | c :: _ =>
    if isBreak c then some (if c == '\u2028' || c == '\u2029' then c else '\n', cursor.next)
    else none
  | [] => none

/-- Move past the rest of a line, where only a comment may stand. -/
def dropLine (cursor : Cursor) : Except Failure Cursor :=
  let cursor := cursor.dropSpaces
  let cursor := if cursor.sees (· == '#') then cursor.dropWhile (fun c => !isBreak c) else cursor
  match cursor.lineBreak? with
  | some (_, cursor) => .ok cursor
  | none => if cursor.rest.isEmpty then .ok cursor else .error .malformed

/-- Move past the white space and the comments before the next token, and
tell whether a line ended there. -/
def toToken : Nat → Cursor → Cursor × Bool
  | 0, cursor => (cursor, false)
  | budget + 1, cursor =>
    let cursor := cursor.dropSpaces
    let cursor := if cursor.sees (· == '#') then cursor.dropWhile (fun c => !isBreak c) else cursor
    match cursor.lineBreak? with
    | some (_, cursor) => ((toToken budget cursor).1, true)
    | none => (cursor, false)

end Cursor
end Yaml
end PolicyHost
