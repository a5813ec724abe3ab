import PolicyHost.Yaml.Token
import PolicyHost.Yaml.Written

namespace PolicyHost
namespace Yaml

/-!
# The layout of a YAML text

A text is cut into tokens from left to right.  Outside flow collections the
column of a token opens and closes block collections.  A key needs no mark of
its own, so every token that may begin one is remembered as a candidate until
a colon on the same line confirms it.  What a confirmed key adds is spliced
into the tokens at the end, which leaves the tokens read so far alone.
-/

structure Candidate where
  /-- How many tokens come before it. -/
  position : Nat
  /-- Whether nothing but a key can stand there. -/
  required : Bool
  index : Nat
  line : Nat
  column : Nat

structure Layout where
  cursor : Cursor
  /-- The tokens so far, the last one first. -/
  tokens : List Token := []
  count : Nat := 0
  /-- The positions of keys, and whether a mapping begins with them. -/
  keys : List (Nat × Bool) := []
  /-- How many flow collections are open. -/
  depth : Nat := 0
  /-- The column of the innermost block collection. -/
  indent : Int := -1
  /-- The columns of those around it. -/
  outer : List Int := []
  /-- Whether a key may begin here. -/
  keyAllowed : Bool := true
  /-- The candidate at each depth. -/
  candidates : List (Nat × Candidate) := []

namespace Layout

/-- How far a colon may be from the beginning of its key. -/
def longestKey : Nat := 1024

def emit (layout : Layout) (token : Token) : Layout :=
  { layout with tokens := token :: layout.tokens, count := layout.count + 1 }

def emitAt (layout : Layout) (read : Token × Cursor) : Layout :=
  { layout.emit read.1 with cursor := read.2 }

def inBlock (layout : Layout) : Bool := layout.depth == 0

/-- How many block collections end at a column, and which are left. -/
def ended (column : Int) : Int → List Int → Nat × Int × List Int
  | indent, next :: outer =>
    if column < indent then
      let (count, left) := ended column next outer
      (count + 1, left)
    else (0, indent, next :: outer)
  | indent, [] => (0, indent, [])

/-- End the block collections that are indented further than a column. -/
def unwind (layout : Layout) (column : Int) : Layout :=
  if layout.inBlock then
    let (count, indent, outer) := ended column layout.indent layout.outer
    { layout with
      tokens := List.replicate count .blockEnd ++ layout.tokens
      count := layout.count + count
      indent
      outer }
  else layout

/-- Indent to a column, if that is further than before. -/
def indentTo (layout : Layout) (column : Nat) : Bool × Layout :=
  if layout.indent < column then
    (true, { layout with indent := column, outer := layout.indent :: layout.outer })
  else (false, layout)

/-- Indent to the column of the cursor, with a token if a collection begins
there. -/
def begin_ (layout : Layout) (token : Token) : Layout :=
  match layout.indentTo layout.cursor.column with
  | (true, layout) => layout.emit token
  | (false, layout) => layout

/-- Give up the candidate at this depth.  A required one must not be given
up. -/
def forget (layout : Layout) : Except Failure Layout :=
  if layout.candidates.any fun c => c.1 == layout.depth && c.2.required then .error .malformed
  else
    .ok { layout with candidates := layout.candidates.filter fun c => c.1 != layout.depth }

/-- Remember the next token as a candidate. -/
def remember (layout : Layout) : Except Failure Layout :=
  if !layout.keyAllowed then .ok layout
  else do
    let layout ← layout.forget
    let cursor := layout.cursor
    let candidate : Candidate :=
      { position := layout.count
        required := layout.inBlock && layout.indent == cursor.column
        index := cursor.index
        line := cursor.line
        column := cursor.column }
    return { layout with candidates := (layout.depth, candidate) :: layout.candidates }

/-- Whether a colon at the cursor is too late for a candidate. -/
def isStale (cursor : Cursor) (candidate : Candidate) : Bool :=
  candidate.line != cursor.line || longestKey < cursor.index - candidate.index

/-- Give up the candidates for which a colon would be too late. -/
def forgetStale (layout : Layout) : Except Failure Layout :=
  let (stale, fresh) := layout.candidates.partition fun c => isStale layout.cursor c.2
  if stale.any fun c => c.2.required then .error .malformed
  else .ok { layout with candidates := fresh }

/-- End everything that is indented, and every key with it. -/
def reset (layout : Layout) : Except Failure Layout := do
  let layout ← (layout.unwind (-1)).forget
  return { layout with keyAllowed := false }

/-- Read a mark of one character. -/
def mark (layout : Layout) (token : Token) : Layout :=
  layout.emitAt (token, layout.cursor.next)

def keyToken (layout : Layout) (read : Except Failure (Token × Cursor)) :
    Except Failure Layout := do
  let layout ← layout.remember
  return { layout with keyAllowed := false }.emitAt (← read)

def openFlow (layout : Layout) (token : Token) : Except Failure Layout := do
  let layout ← layout.remember
  return { layout with depth := layout.depth + 1, keyAllowed := true }.mark token

def closeFlow (layout : Layout) (token : Token) : Except Failure Layout := do
  let layout ← layout.forget
  return { layout with depth := layout.depth - 1, keyAllowed := false }.mark token

/-- Read the dash or question mark before an entry of a block collection. -/
def entry (layout : Layout) (collection token : Token) (allowsKey : Bool) :
    Except Failure Layout := do
  if layout.inBlock && !layout.keyAllowed then .error .malformed
  else
    let layout := if layout.inBlock then layout.begin_ collection else layout
    let layout ← { layout with keyAllowed := allowsKey }.forget
    return layout.mark token

/-- Read a colon.  It confirms the candidate at this depth if there is one. -/
def colon (layout : Layout) : Except Failure Layout := do
  match layout.candidates.find? fun c => c.1 == layout.depth with
  | some (_, candidate) =>
    let layout :=
      { layout with
        candidates := layout.candidates.filter fun c => c.1 != layout.depth
        keyAllowed := false }
    let (begins, layout) :=
      if layout.inBlock then layout.indentTo candidate.column else (false, layout)
    return { layout with keys := (candidate.position, begins) :: layout.keys }.mark .value
  | none => layout.entry .blockMapping .value layout.inBlock

def plain (layout : Layout) : Except Failure Layout := do
  let layout ← layout.remember
  let (text, lineEnded, cursor) :=
    Written.plain (!layout.inBlock) (layout.indent + 1).toNat layout.cursor
  return { layout with keyAllowed := lineEnded }.emitAt (.scalar (.whole text) true, cursor)

def blockScalar (layout : Layout) (folds : Bool) : Except Failure Layout := do
  let layout ← { layout with keyAllowed := true }.forget
  let (text, cursor) ← Written.block folds layout.indent layout.cursor
  return layout.emitAt (.scalar (.whole text) false, cursor)

def quotedScalar (layout : Layout) (double : Bool) : Except Failure Layout :=
  layout.keyToken do
    let (text, cursor) ← Written.quoted double layout.cursor
    return (.scalar text false, cursor)

/-- Read a mark that separates documents. -/
def separator (layout : Layout) (token : Token) : Except Failure Layout := do
  return (← layout.reset).emitAt (token, layout.cursor.skip 3)

/-- Whether a character can begin a plain scalar.  Some marks can if no white
space follows them. -/
def beginsPlain (layout : Layout) (c : Char) : Bool :=
  !"-?:,[]\x7b\x7d#&*!|>'\"%@\x60".toList.contains c && !isBlank c && !isBreak c ||
    !layout.cursor.endsAt 1 && (c == '-' || (layout.inBlock && (c == '?' || c == ':')))

def readToken (layout : Layout) (c : Char) : Except Failure Layout :=
  let cursor := layout.cursor
  let spaced := cursor.endsAt 1
  if c == '%' && cursor.column == 0 then do
    return (← layout.reset).emitAt (← Token.directive cursor)
  else if c == '-' && cursor.column == 0 && cursor.seesSeparator then
    layout.separator .documentStart
  else if c == '.' && cursor.column == 0 && cursor.seesSeparator then
    layout.separator .documentEnd
  else if c == '[' then layout.openFlow .openSequence
  else if c == '\x7b' then layout.openFlow .openMapping
  else if c == ']' then layout.closeFlow .closeSequence
  else if c == '\x7d' then layout.closeFlow .closeMapping
  else if c == ',' then do
    return (← { layout with keyAllowed := true }.forget).mark .comma
  else if c == '-' && spaced then layout.entry .blockSequence .dash true
  else if c == '?' && (!layout.inBlock || spaced) then
    layout.entry .blockMapping .key layout.inBlock
  else if c == ':' && (!layout.inBlock || spaced) then layout.colon
  else if c == '*' then
    layout.keyToken (do let (name, cursor) ← Token.reference cursor; return (.alias name, cursor))
  else if c == '&' then
    layout.keyToken (do let (name, cursor) ← Token.reference cursor; return (.anchor name, cursor))
  else if c == '!' then layout.keyToken (Token.tagOf cursor)
  else if c == '|' && layout.inBlock then layout.blockScalar false
  else if c == '>' && layout.inBlock then layout.blockScalar true
  else if c == '\'' then layout.quotedScalar false
  else if c == '"' then layout.quotedScalar true
  else if layout.beginsPlain c then layout.plain
  else .error .malformed

/-- Read a token, and with it the space before it.  There is none at the end
of the text. -/
def readNext (layout : Layout) : Except Failure (Bool × Layout) := do
  let (cursor, lineEnded) := layout.cursor.toToken (layout.cursor.rest.length + 1)
  let layout :=
    { layout with cursor, keyAllowed := layout.keyAllowed || (lineEnded && layout.inBlock) }
  let layout := (← layout.forgetStale).unwind cursor.column
  match cursor.rest with
  | [] => return (false, ← layout.reset)
  | c :: _ => return (true, ← layout.readToken c)

/-- Read all tokens, up to the first that cannot be read. -/
def readAll : Nat → Layout → Layout × Option Failure
  | 0, layout => (layout, some .malformed)
  | budget + 1, layout =>
    match layout.readNext with
    | .ok (true, layout) => readAll budget layout
    | .ok (false, layout) => (layout, none)
    | .error failure => (layout, some failure)

/-- How many tokens are certain.  What a candidate may turn out to be decides
whether there is a token in front of it. -/
def certain (layout : Layout) : Nat :=
  layout.candidates.foldl (fun n c =>
    if isStale layout.cursor c.2 then n else min n c.2.position) layout.count

def splice : Nat → List (Nat × Bool) → List Token → List Token
  | _, _, [] => []
  | _, [], tokens => tokens
  | i, (position, begins) :: keys, token :: rest =>
    if position = i then
      (if begins then [.blockMapping, .key] else [.key]) ++ token :: splice (i + 1) keys rest
    else token :: splice (i + 1) ((position, begins) :: keys) rest

/-- The tokens of a text.  What comes before a place where it cannot be read
on is as good as in any other text. -/
def tokensOf (chars : List Char) : List Token :=
  if !chars.all isAllowed then [.broken .malformed]
  else
    let start : Cursor := { rest := chars }
    let cursor := if start.sees (· == byteOrderMark) then start.next else start
    let (layout, failure) := readAll (chars.length + 1) { cursor }
    let keys := layout.keys.mergeSort fun a b => a.1 ≤ b.1
    match failure with
    | none => splice 0 keys layout.tokens.reverse
    | some failure =>
      splice 0 keys (layout.tokens.reverse.take layout.certain) ++ [.broken failure]

end Layout
end Yaml
end PolicyHost
