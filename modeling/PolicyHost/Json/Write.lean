import PolicyHost.Number.Decimal
import PolicyHost.Text.Characters
import PolicyHost.Value

namespace PolicyHost
namespace Json

/-!
# Writing JSON text

Values are written in two ways.  The compact form crosses the guest boundary
and the network: no spaces, characters beyond ASCII as they are, and a
refusal of values that have no document form or are nested too deeply.  The
indented form is for people and keeps to ASCII.
-/

/-- How many levels a value may have, its innermost scalar included. -/
def maxLevels : Nat := 255

/-- A character inside quotes. -/
def escapeChar (c : Char) : List Char :=
  match c with
  | '"' => ['\\', '"']
  | '\\' => ['\\', '\\']
  | '\n' => ['\\', 'n']
  | '\r' => ['\\', 'r']
  | '\t' => ['\\', 't']
  | '\x08' => ['\\', 'b']
  | '\x0c' => ['\\', 'f']
  | c =>
    if c.toNat < 0x20 then "\\u".toList ++ (Characters.padded 16 4 c.toNat).toList else [c]

def quoted (chars : List Char) : List Char :=
  '"' :: chars.flatMap escapeChar ++ ['"']

/-- How many digits an integer may have as a key. -/
def maxKeyDigits : Nat := 4300

/-- An integer in decimal. -/
def intChars (n : Int) : List Char := (toString n).toList

/-- A truth value. -/
def boolChars (b : Bool) : List Char := if b then "true".toList else "false".toList

def floatChars (x : Double) : List Char := (x.format Double.jsonLayout).toList

/-- Items with a character between them. -/
def joined (separator : Char) : List (List Char) → List Char
  | [] => []
  | [x] => x
  | x :: xs => x ++ separator :: joined separator xs

mutual

def keyChars : Value → Option (List Char)
  | .text s => some s.toList
  | .int n => if maxKeyDigits < (intChars n.natAbs).length then none else some (intChars n)
  | .bool b => some (boolChars b)
  | .null => some "None".toList
  | .float x => some (x.format Double.literalLayout).toList
  | .bytes b => Utf8.decode b
  | .tuple items => (keysChars items).map (joined ',')
  | _ => none

/-- The texts of the elements of a key. -/
def keysChars : List Value → Option (List (List Char))
  | [] => some []
  | x :: xs =>
    match keyChars x, keysChars xs with
    | some first, some rest => some (first :: rest)
    | _, _ => none

end

mutual

def compact : Nat → Value → Option (List Char)
  | 0, _ => none
  | _ + 1, .null => some "null".toList
  | _ + 1, .bool b => some (boolChars b)
  | _ + 1, .int n => some (intChars n)
  | _ + 1, .float x => some (floatChars x)
  | _ + 1, .text s => some (quoted s.toList)
  | _ + 1, .bytes b => (Utf8.decode b).map quoted
  | levels + 1, .list items | levels + 1, .tuple items | levels + 1, .set items =>
    (compactItems levels items).map fun texts => '[' :: joined ',' texts ++ [']']
  | levels + 1, .mapping entries =>
    (compactEntries levels entries).map fun texts => '\x7b' :: joined ',' texts ++ ['\x7d']
  | levels + 1, .record _ _ fields extras =>
    match compactFields levels fields, compactFields levels extras with
    | some first, some second => some ('\x7b' :: joined ',' (first ++ second) ++ ['\x7d'])
    | _, _ => none
  | _ + 1, .unencodable _ | _ + 1, .moment _ | _ + 1, .foreign _ => none
termination_by structural _ v => v

def compactItems (levels : Nat) : List Value → Option (List (List Char))
  | [] => some []
  | x :: xs =>
    match compact levels x, compactItems levels xs with
    | some first, some rest => some (first :: rest)
    | _, _ => none

def compactEntries (levels : Nat) : List (Value × Value) → Option (List (List Char))
  | [] => some []
  | (k, v) :: es =>
    match keyChars k, compact levels v, compactEntries levels es with
    | some key, some first, some rest => some ((quoted key ++ ':' :: first) :: rest)
    | _, _, _ => none

def compactFields (levels : Nat) : List (String × Value) → Option (List (List Char))
  | [] => some []
  | (n, v) :: fs =>
    match compact levels v, compactFields levels fs with
    | some first, some rest => some ((quoted n.toList ++ ':' :: first) :: rest)
    | _, _ => none

end

/-- The compact JSON text of a value. -/
def writeChars (value : Value) : Option (List Char) :=
  compact maxLevels value

/-- The compact JSON text of a value in UTF-8. -/
def write (value : Value) : Option Bytes :=
  (writeChars value).map Utf8.encodeChars

def unitEscape (unit : Nat) : List Char :=
  "\\u".toList ++ (Characters.padded 16 4 unit).toList

/-- A character inside quotes, in ASCII. -/
def escapeAscii (c : Char) : List Char :=
  let n := c.toNat
  if n < 0x7F then escapeChar c
  else if n < 0x10000 then unitEscape n
  else unitEscape (0xD800 + (n - 0x10000) / 0x400) ++ unitEscape (0xDC00 + (n - 0x10000) % 0x400)

def quotedAscii (text : String) : String :=
  String.ofList ('"' :: text.toList.flatMap escapeAscii ++ ['"'])

/-- A code point inside quotes, in ASCII. -/
def escapePoint (point : Nat) : List Char :=
  if isHalf point then unitEscape point else escapeAscii (Char.ofNat point)

/-- A text without a UTF-8 form in quotes, in ASCII. -/
def quotedPoints (text : Unencodable) : String :=
  String.ofList ('"' :: text.points.flatMap escapePoint ++ ['"'])

def newLine (depth : Nat) : String :=
  "\n" ++ String.ofList (List.replicate (2 * depth) ' ')

/-- Items on lines of their own between brackets. -/
def bracketed (opening closing : String) (depth : Nat) : List String → String
  | [] => opening ++ closing
  | items =>
    opening ++ newLine (depth + 1) ++ ("," ++ newLine (depth + 1)).intercalate items ++
      newLine depth ++ closing

def indentedLayout : Double.Layout :=
  { Double.literalLayout with nan := "NaN", infinity := "Infinity" }

/-- The text that stands for a mapping key in the indented form. -/
def indentedKey : Value → String
  | .text s => quotedAscii s
  | .unencodable t => quotedPoints t
  | .int n => quotedAscii (toString n)
  | .bool b => quotedAscii (if b then "true" else "false")
  | .null => quotedAscii "null"
  | .float x => quotedAscii (x.format indentedLayout)
  | _ => quotedAscii ""

mutual

def indented (depth : Nat) : Value → String
  | .null => "null"
  | .bool b => if b then "true" else "false"
  | .int n => toString n
  | .float x => x.format indentedLayout
  | .text s => quotedAscii s
  | .unencodable t => quotedPoints t
  | .list items | .tuple items | .set items =>
    bracketed "[" "]" depth (indentedItems (depth + 1) items)
  | .mapping entries => bracketed "\x7b" "\x7d" depth (indentedEntries (depth + 1) entries)
  | .bytes _ | .record _ _ _ _ | .moment _ | .foreign _ => "null"

def indentedItems (depth : Nat) : List Value → List String
  | [] => []
  | x :: xs => indented depth x :: indentedItems depth xs

def indentedEntries (depth : Nat) : List (Value × Value) → List String
  | [] => []
  | (k, v) :: es =>
    (indentedKey k ++ ": " ++ indented depth v) :: indentedEntries depth es

end

def writeIndented (value : Value) : String :=
  indented 0 value

end Json
end PolicyHost
