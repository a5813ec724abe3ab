import PolicyHost.Text.Characters

namespace PolicyHost

/-- What a terminal is to the texts on it: how many cells its lines have, how
it shows characters among which names between colons may stand for others,
and whether it can read the parameters of a tag that names a handler. -/
structure Terminal where
  columns : Nat
  replace : List Char → List Char
  reads : List Char → Bool

namespace Markup

/-!
# Text with style tags

Text for a terminal may hold tags in square brackets that switch a style on
and off.  Without colour a tag shows as nothing.  A backslash before a tag
makes it ordinary text, and escaping puts one there.  Tags that begin with an
at sign name handlers, which have to be readable when they are switched off.

A tag cannot hold an opening bracket, so a text is cut at its opening
brackets: what follows one is either a tag and more text, or text.
-/

/-- A piece of a text: what stands between tags, or a tag with the number of
backslashes before it. -/
inductive Piece where
  | text (chars : List Char)
  | tag (escapes : Nat) (name : List Char)
deriving DecidableEq, Repr

/-- The parts of a text between its opening brackets, the part that is being
read given in reverse. -/
def cut : List Char → List Char → List (List Char)
  | part, [] => [part.reverse]
  | part, '[' :: rest => part.reverse :: cut [] rest
  | part, c :: rest => cut (c :: part) rest

def beginsTag (c : Char) : Bool :=
  c.isLower || c == '#' || c == '/' || c == '@'

/-- The tag at the beginning of what follows an opening bracket, and the text
after it. -/
def tag? : List Char → Option (List Char × List Char)
  | c :: rest =>
    if beginsTag c && rest.contains ']' then
      some (c :: rest.takeWhile (· != ']'), (rest.dropWhile (· != ']')).drop 1)
    else none
  | [] => none

/-- Put parts together to pieces, given the text read since the last tag. -/
def assemble (read : List Char) : List (List Char) → List Piece
  | [] => [.text read]
  | part :: parts =>
    match tag? part with
    | none => assemble (read ++ '[' :: part) parts
    | some (name, after) =>
      let text := (read.reverse.dropWhile (· == '\\')).reverse
      .text text :: .tag (read.length - text.length) name :: assemble after parts

def pieces (chars : List Char) : List Piece :=
  match cut [] chars with
  | [] => []
  | first :: parts => assemble first parts

def bracketed (name : List Char) : List Char := '[' :: name ++ [']']

def backslashes (count : Nat) : List Char := List.replicate count '\\'

/-- Make what would be a tag ordinary text.  A single backslash at the end is
doubled, for a tag may follow. -/
def escape (text : String) : String :=
  let escaped := (pieces text.toList).flatMap fun piece =>
    match piece with
    | .text chars => chars
    | .tag escapes name => backslashes (2 * escapes + 1) ++ bracketed name
  match escaped.reverse with
  | '\\' :: '\\' :: _ => String.ofList escaped
  | '\\' :: _ => String.ofList (escaped ++ ['\\'])
  | _ => String.ofList escaped

/-- Text in which a backslash before an opening bracket is dropped. -/
def unescape : List Char → List Char
  | '\\' :: '[' :: rest => '[' :: unescape rest
  | c :: rest => c :: unescape rest
  | [] => []

/-- The attributes of styles with their short names, in their order. -/
def attributes : List (String × List String) :=
  [("bold", ["b"]), ("dim", ["d"]), ("italic", ["i"]), ("underline", ["u"]), ("blink", []),
    ("blink2", []), ("reverse", ["r"]), ("conceal", ["c"]), ("strike", ["s"]),
    ("underline2", ["uu"]), ("frame", []), ("encircle", []), ("overline", ["o"])]

def attribute? (word : String) : Option String :=
  (attributes.find? fun a => a.1 == word || a.2.contains word).map (·.1)

def styleName (spelled : List Char) : String :=
  let lower := Characters.lowerAscii (String.ofList (Characters.trim Characters.isBlank spelled))
  let words := (lower.splitOn " ").filter fun w => !w.isEmpty
  let named := words.filterMap attribute?
  if named.length == words.length then
    " ".intercalate ((attributes.map (·.1)).filter named.contains)
  else lower

/-- A style that is switched on, with what follows an equals sign in its
tag. -/
structure Style where
  name : String
  parameters : List Char
deriving DecidableEq, Repr

def takeOut (name : String) : List Style → Option (Style × List Style)
  | [] => none
  | s :: open_ =>
    if s.name == name then some (s, open_)
    else (takeOut name open_).map fun found => (found.1, s :: found.2)

variable (terminal : Terminal)

/-- Whether a style can be switched off. -/
def Style.closes (style : Style) : Bool :=
  !style.name.startsWith "@" || style.parameters.isEmpty || terminal.reads style.parameters

/-- Apply a tag to the open styles.  A closing tag has to have something to
close. -/
def apply (name : List Char) (open_ : List Style) : Option (List Style) :=
  match name.takeWhile (· != '=') with
  | '/' :: rest =>
    let closed := Characters.trim Characters.isBlank rest
    let found := if closed.isEmpty then open_.head?.map fun s => (s, open_.drop 1)
      else takeOut (styleName closed) open_
    match found with
    | some (style, left) => if style.closes terminal then some left else none
    | none => none
  | opened => some (⟨styleName opened, (name.dropWhile (· != '=')).drop 1⟩ :: open_)

def showPieces (open_ : List Style) : List Piece → Option (List Char)
  | [] => some []
  | .text chars :: rest =>
    (showPieces open_ rest).map (terminal.replace (unescape chars) ++ ·)
  | .tag escapes name :: rest =>
    let before := backslashes (escapes / 2)
    if escapes % 2 = 1 then
      (showPieces open_ rest).map fun shown =>
        before ++ terminal.replace (bracketed name) ++ shown
    else
      match apply terminal name open_ with
      | some open_ => (showPieces open_ rest).map (before ++ ·)
      | none => none

/-- Control characters that are not shown. -/
def isSilent (c : Char) : Bool :=
  c == '\x07' || c == '\x08' || c == '\x0b' || c == '\x0c' || c == '\r'

/-- What a text shows, unless a tag in it closes nothing. -/
def shown (text : String) : Option (List Char) :=
  (showPieces terminal [] (pieces text.toList)).map (List.filter fun c => !isSilent c)

end Markup

namespace Terminal

/-- Whether parameters are the name of a handler, with or without an empty
pair of parentheses after it. -/
def isHandler (parameters : List Char) : Bool :=
  let name := parameters.takeWhile fun c => c.isAlphanum || c == '_' || c == '.'
  let rest := parameters.drop name.length
  rest.isEmpty || rest == ['(', ')']

/-- A wide terminal that knows no names of characters. -/
def plain : Terminal := ⟨400, id, isHandler⟩

end Terminal
end PolicyHost
