import PolicyHost.Text.Unencodable
import PolicyHost.Yaml.Cursor

namespace PolicyHost
namespace Yaml

/-!
# Written scalars

The four ways to write a scalar: plain, in single or double quotes, and as a
block.  What they share is folding: a single line break between two lines of
text is read as a space, and of several breaks the first is dropped.
-/

namespace Written

/-- Folded breaks: a lone line feed becomes a space, and one that more breaks
follow is dropped. -/
def folded (first : Char) (more : List Char) : List Char :=
  if first != '\n' then first :: more
  else if more.isEmpty then [' ']
  else more

/-! ## Quoted scalars -/

/-- What an escape of one character stands for. -/
def escaped? : Char → Option Char
  | '0' => some '\x00'
  | 'a' => some '\x07'
  | 'b' => some '\x08'
  | 't' | '\t' => some '\t'
  | 'n' => some '\n'
  | 'v' => some '\x0B'
  | 'f' => some '\x0C'
  | 'r' => some '\r'
  | 'e' => some '\x1B'
  | ' ' => some ' '
  | '"' => some '"'
  | '\\' => some '\\'
  | '/' => some '/'
  | 'N' => some '\x85'
  | '_' => some '\xA0'
  | 'L' => some '\u2028'
  | 'P' => some '\u2029'
  | _ => none

/-- How many digits an escape of a code point has. -/
def escapeDigits? : Char → Option Nat
  | 'x' => some 2
  | 'u' => some 4
  | 'U' => some 8
  | _ => none

/-- A number that is a code point, be it half of a surrogate pair. -/
def codePoint (code : Nat) : Except Failure Nat :=
  if 0x80000000 ≤ code then .error .boundless
  else if 0x110000 ≤ code then .error .impossible
  else .ok code

def points (chars : List Char) : List Nat := chars.map Char.toNat

/-- The breaks between the lines of a quoted scalar.  Documents must not be
separated inside one. -/
def quotedBreaks : Nat → Cursor → Except Failure (List Char × Cursor)
  | 0, _ => .error .malformed
  | budget + 1, cursor =>
    if cursor.seesSeparator then .error .malformed
    else
      let cursor := cursor.dropWhile isBlank
      match cursor.lineBreak? with
      | none => .ok ([], cursor)
      | some (c, cursor) => do
        let (rest, cursor) ← quotedBreaks budget cursor
        return (c :: rest, cursor)

/-- The white space inside a quoted scalar: blanks on one line stay, and
around breaks they are dropped. -/
def quotedGap (cursor : Cursor) : Except Failure (List Char × Cursor) :=
  let (blanks, cursor) := cursor.span isBlank
  match cursor.lineBreak? with
  | some (first, cursor) => do
    let (more, cursor) ← quotedBreaks (cursor.rest.length + 1) cursor
    return (folded first more, cursor)
  | none => if cursor.rest.isEmpty then .error .malformed else .ok (blanks, cursor)

/-- What follows a backslash, in code points. -/
def escapeBody (cursor : Cursor) : Except Failure (List Nat × Cursor) :=
  match cursor.lineBreak? with
  | some (_, cursor) => do
    let (breaks, cursor) ← quotedBreaks (cursor.rest.length + 1) cursor
    return (points breaks, cursor)
  | none =>
    match cursor.rest with
    | [] => .error .malformed
    | c :: rest =>
      match escaped? c, escapeDigits? c with
      | some meant, _ => .ok ([meant.toNat], cursor.next)
      | none, some count =>
        let digits := rest.take count
        if digits.length = count && digits.all (fun d => (Characters.digit? d).isSome) then do
          return ([← codePoint (Characters.ofDigits 16 digits)], cursor.skip (count + 1))
        else .error .malformed
      | none, none => .error .malformed

/-- A quoted scalar from behind its opening quote, with the code points that
were read of it in reverse. -/
def quotedFrom (double : Bool) : Nat → List Nat → Cursor → Except Failure (HostText × Cursor)
  | 0, _, _ => .error .malformed
  | budget + 1, read, cursor =>
    match cursor.rest with
    | [] => .error .malformed
    | c :: rest =>
      if !double && c == '\'' && rest.head? == some '\'' then
        quotedFrom double budget ('\''.toNat :: read) (cursor.skip 2)
      else if c == (if double then '"' else '\'') then
        .ok (.ofPoints read.reverse, cursor.next)
      else if double && c == '\\' then do
        let (meant, cursor) ← escapeBody cursor.next
        quotedFrom double budget (meant.reverse ++ read) cursor
      else if isBlank c || isBreak c then do
        let (gap, cursor) ← quotedGap cursor
        quotedFrom double budget ((points gap).reverse ++ read) cursor
      else quotedFrom double budget (c.toNat :: read) cursor.next

def quoted (double : Bool) (cursor : Cursor) : Except Failure (HostText × Cursor) :=
  quotedFrom double (cursor.rest.length + 1) [] cursor.next

/-! ## Plain scalars -/

/-- Whether a plain scalar stops before a character.  In a flow collection
the marks of that collection stop it too. -/
def stopsPlain (inFlow : Bool) (c : Char) (rest : List Char) : Bool :=
  isBlank c || isBreak c || (inFlow && ",?[]\x7b\x7d".toList.contains c) ||
    (c == ':' &&
      match rest with
      | [] => true
      | d :: _ => isBlank d || isBreak d || (inFlow && ",[]\x7b\x7d".toList.contains d))

/-- A piece of a plain scalar without white space. -/
def plainRun (inFlow : Bool) : List Char → List Char
  | [] => []
  | c :: rest => if stopsPlain inFlow c rest then [] else c :: plainRun inFlow rest

/-- The further breaks between two lines of a plain scalar.  There are none
if documents are separated here. -/
def plainBreaks : Nat → Cursor → Option (List Char) × Cursor
  | 0, cursor => (none, cursor)
  | budget + 1, cursor =>
    if cursor.sees (· == ' ') then plainBreaks budget cursor.dropSpaces
    else
      match cursor.lineBreak? with
      | none => (some [], cursor)
      | some (c, cursor) =>
        if cursor.seesSeparator then (none, cursor)
        else
          let (rest, cursor) := plainBreaks budget cursor
          (rest.map (c :: ·), cursor)

/-- The white space after a piece of a plain scalar, which is empty if the
scalar is over, and whether a line ended in it. -/
def plainGap (cursor : Cursor) : List Char × Bool × Cursor :=
  let (spaces, cursor) := cursor.span (· == ' ')
  match cursor.lineBreak? with
  | none => (spaces, false, cursor)
  | some (first, cursor) =>
    if cursor.seesSeparator then ([], true, cursor)
    else
      match plainBreaks (cursor.rest.length + 1) cursor with
      | (none, cursor) => ([], true, cursor)
      | (some more, cursor) => (folded first more, true, cursor)

/-- A plain scalar: its text, whether a line ended after it, and the place
behind it.  `gap` is the white space before the next piece, and outside flow
collections every line begins at column `indent` at least. -/
def plainFrom (inFlow : Bool) (indent : Nat) :
    Nat → List Char → List Char → Bool → Cursor → String × Bool × Cursor
  | 0, read, _, ended, cursor => (String.ofList read.reverse, ended, cursor)
  | budget + 1, read, gap, ended, cursor =>
    let run := plainRun inFlow cursor.rest
    if cursor.sees (· == '#') || run.isEmpty then (String.ofList read.reverse, ended, cursor)
    else
      let read := run.reverse ++ gap.reverse ++ read
      let (gap, ended, cursor) := plainGap (cursor.skip run.length)
      if gap.isEmpty || cursor.sees (· == '#') || (!inFlow && cursor.column < indent) then
        (String.ofList read.reverse, ended, cursor)
      else plainFrom inFlow indent budget read gap ended cursor

def plain (inFlow : Bool) (indent : Nat) (cursor : Cursor) : String × Bool × Cursor :=
  plainFrom inFlow indent (cursor.rest.length + 1) [] [] false cursor

/-! ## Block scalars -/

/-- What becomes of the breaks at the end of a block scalar. -/
inductive Chomping where
  | strip
  | clip
  | keep
deriving DecidableEq, Repr

/-- The chomping that a sign asks for. -/
def chomping? : Char → Option Chomping
  | '+' => some .keep
  | '-' => some .strip
  | _ => none

/-- The indentation that a digit asks for. -/
def indentation? (c : Char) : Option Nat :=
  if '0' ≤ c && c ≤ '9' then some (c.toNat - 48) else none

/-- A sign and a digit after the mark of a block scalar, in either order and
both optional.  An indentation of zero is refused. -/
def blockHeader (cursor : Cursor) : Except Failure (Chomping × Option Nat × Cursor) := do
  let (chomping, indent, cursor) :=
    match cursor.peek.bind chomping?, cursor.peek.bind indentation? with
    | some chomping, _ =>
      match cursor.next.peek.bind indentation? with
      | some n => (chomping, some n, cursor.skip 2)
      | none => (chomping, none, cursor.next)
    | none, some n =>
      match cursor.next.peek.bind chomping? with
      | some chomping => (chomping, some n, cursor.skip 2)
      | none => (.clip, some n, cursor.next)
    | none, none => (.clip, none, cursor)
  if indent = some 0 || !cursor.endsHeader then .error .malformed
  else return (chomping, indent, ← cursor.dropLine)

/-- The breaks before the first line of text, and the largest column that
spaces reach there. -/
def leadingBreaks : Nat → Nat → Cursor → List Char × Nat × Cursor
  | 0, most, cursor => ([], most, cursor)
  | budget + 1, most, cursor =>
    if cursor.sees (· == ' ') then
      let cursor := cursor.dropSpaces
      leadingBreaks budget (max most cursor.column) cursor
    else
      match cursor.lineBreak? with
      | none => ([], most, cursor)
      | some (c, cursor) =>
        let (rest, most, cursor) := leadingBreaks budget most cursor
        (c :: rest, most, cursor)

/-- Move past the indentation of a line, and no further. -/
def dropIndent (indent : Nat) (cursor : Cursor) : Cursor :=
  cursor.skip (min (indent - cursor.column) (cursor.rest.takeWhile (· == ' ')).length)

/-- The breaks before the next line of text. -/
def blockBreaks (indent : Nat) : Nat → Cursor → List Char × Cursor
  | 0, cursor => ([], cursor)
  | budget + 1, cursor =>
    let cursor := dropIndent indent cursor
    match cursor.lineBreak? with
    | none => ([], cursor)
    | some (c, cursor) =>
      let (rest, cursor) := blockBreaks indent budget cursor
      (c :: rest, cursor)

/-- The lines of a block scalar.  `pending` is what comes between the lines
read so far and the next one.  The result is the text in reverse, the break
after the last line, and the breaks after that. -/
def blockLines (folds : Bool) (indent : Nat) :
    Nat → List Char → List Char → List Char → Cursor →
      List Char × List Char × List Char × Cursor
  | 0, read, last, breaks, cursor => (read, last, breaks, cursor)
  | budget + 1, read, last, breaks, cursor =>
    if cursor.column != indent || cursor.rest.isEmpty then (read, last, breaks, cursor)
    else
      let flush := !cursor.sees isBlank
      let (text, cursor) := cursor.span fun c => !isBreak c
      let read := text.reverse ++ breaks.reverse ++ read
      let (last, cursor) := match cursor.lineBreak? with
        | some (c, cursor) => ([c], cursor)
        | none => ([], cursor)
      let (breaks, cursor) := blockBreaks indent (cursor.rest.length + 1) cursor
      if cursor.column != indent || cursor.rest.isEmpty then (read, last, breaks, cursor)
      else
        let between :=
          if folds && last == ['\n'] && flush && !cursor.sees isBlank then
            if breaks.isEmpty then [' '] else []
          else last
        blockLines folds indent budget (between.reverse ++ read) last breaks cursor

/-- A block scalar from its mark.  Its lines are indented further than the
collection it stands in. -/
def block (folds : Bool) (parent : Int) (cursor : Cursor) : Except Failure (String × Cursor) := do
  let (chomping, given, cursor) ← blockHeader cursor.next
  let least := max (parent + 1).toNat 1
  let budget := cursor.rest.length + 1
  let (indent, breaks, cursor) := match given with
    | some n =>
      let indent := least + n - 1
      let (breaks, cursor) := blockBreaks indent budget cursor
      (indent, breaks, cursor)
    | none =>
      let (breaks, most, cursor) := leadingBreaks budget 0 cursor
      (max least most, breaks, cursor)
  let (read, last, breaks, cursor) := blockLines folds indent budget [] [] breaks cursor
  let tail := match chomping with
    | .strip => []
    | .clip => last
    | .keep => last ++ breaks
  return (String.ofList (read.reverse ++ tail), cursor)

end Written
end Yaml
end PolicyHost
