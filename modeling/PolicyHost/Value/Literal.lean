import PolicyHost.Number.Decimal
import PolicyHost.Text.Characters
import PolicyHost.Text.Printable
import PolicyHost.Value

namespace PolicyHost
namespace Literal

/-!
# Literals in messages

Messages show values as literals: text in quotes with escapes, numbers in
decimal, collections in their brackets.  The quote is a single one unless the
text has a single and no double quote, so that most texts need no escape.
-/

/-- The quote that a text is written with. -/
def quoteFor (chars : List Char) : Char :=
  if chars.contains '\'' && !chars.contains '"' then '"' else '\''

/-- One character of a quoted text. -/
def escape (quote c : Char) : String :=
  let n := c.toNat
  if c = quote || c = '\\' then String.ofList ['\\', c]
  else if c = '\n' then "\\n"
  else if c = '\r' then "\\r"
  else if c = '\t' then "\\t"
  else if Printable.isPrintable c then String.singleton c
  else if n < 0x100 then "\\x" ++ Characters.padded 16 2 n
  else if n < 0x10000 then "\\u" ++ Characters.padded 16 4 n
  else "\\U" ++ Characters.padded 16 8 n

def ofText (text : String) : String :=
  let chars := text.toList
  let quote := quoteFor chars
  String.singleton quote ++ String.join (chars.map (escape quote)) ++ String.singleton quote

/-- One code point of a quoted text. -/
def escapePoint (quote : Char) (point : Nat) : String :=
  if isHalf point then "\\u" ++ Characters.padded 16 4 point
  else escape quote (Char.ofNat point)

/-- A quoted text without a UTF-8 form. -/
def ofUnencodable (text : Unencodable) : String :=
  let quote := quoteFor (text.points.map Char.ofNat)
  String.singleton quote ++ String.join (text.points.map (escapePoint quote)) ++
    String.singleton quote

/-- One byte of a quoted byte string: ASCII as text, the rest in hexadecimal. -/
def escapeByte (quote : Char) (b : UInt8) : String :=
  if b < 0x7F then escape quote (Char.ofNat b.toNat)
  else "\\x" ++ Characters.padded 16 2 b.toNat

def ofBytes (bytes : Bytes) : String :=
  let quote := quoteFor (bytes.map fun b => Char.ofNat b.toNat)
  "b" ++ String.singleton quote ++ String.join (bytes.map (escapeByte quote)) ++
    String.singleton quote

/-- A truth value. -/
def ofBool (b : Bool) : String := if b then "True" else "False"

mutual

def ofValue : Value → String
  | .null => "None"
  | .bool b => ofBool b
  | .int n => toString n
  | .float x => x.format Double.literalLayout
  | .text s => ofText s
  | .unencodable t => ofUnencodable t
  | .bytes b => ofBytes b
  | .list items => "[" ++ ", ".intercalate (ofValues items) ++ "]"
  | .tuple [x] => "(" ++ ofValue x ++ ",)"
  | .tuple items => "(" ++ ", ".intercalate (ofValues items) ++ ")"
  | .set [] => "set()"
  | .set items => "\x7b" ++ ", ".intercalate (ofValues items) ++ "\x7d"
  | .mapping entries => "\x7b" ++ ", ".intercalate (ofEntries entries) ++ "\x7d"
  | .record _ name fields extras =>
    name ++ "(" ++ ", ".intercalate (ofFields fields ++ ofFields extras) ++ ")"
  | .moment literal => literal
  | .foreign name => "<" ++ name ++ " object>"

def ofValues : List Value → List String
  | [] => []
  | x :: xs => ofValue x :: ofValues xs

def ofEntries : List (Value × Value) → List String
  | [] => []
  | (k, v) :: es => (ofValue k ++ ": " ++ ofValue v) :: ofEntries es

def ofFields : List (String × Value) → List String
  | [] => []
  | (n, v) :: fs => (n ++ "=" ++ ofValue v) :: ofFields fs

end

def inSentence : Value → String
  | .text s => s
  | v => ofValue v

def alternatives (word : String) : List String → String
  | [] => ""
  | [x] => x
  | [x, y] => x ++ " " ++ word ++ " " ++ y
  | x :: rest => x ++ ", " ++ alternatives word rest

end Literal
end PolicyHost
