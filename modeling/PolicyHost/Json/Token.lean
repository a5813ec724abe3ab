import PolicyHost.Json.Document
import PolicyHost.Text.Characters

namespace PolicyHost
namespace Json

/-!
# Tokens of JSON text

A JSON text is cut into tokens one character at a time.  What stands between
punctuation, quotes and blanks is a bare word; whether a bare word is a
number or a name is settled when it is complete, since no two of them can
touch.
-/

inductive Token where
  | beginArray
  | endArray
  | beginObject
  | endObject
  | colon
  | comma
  | text (s : String)
  | bare (word : List Char)
deriving DecidableEq, Repr

/-- Where in a token the reader is, with what it has read of it in reverse. -/
inductive Scan where
  | between
  | bare (read : List Char)
  | text (read : List Char)
  | escape (read : List Char)
  | hex (read : List Char) (high : Option Nat) (value missing : Nat)
  | afterHigh (read : List Char) (high : Nat)
  | afterHighEscape (read : List Char) (high : Nat)
deriving DecidableEq, Repr

/-- White space between tokens. -/
def isGap (c : Char) : Bool :=
  c == ' ' || c == '\n' || c == '\t' || c == '\r'

/-- A character of a number or of a name such as `true`. -/
def isWordChar (c : Char) : Bool :=
  c.isAlphanum || c == '+' || c == '-' || c == '.'

def begin? (c : Char) : Option (Scan × List Token) :=
  if isGap c then some (.between, [])
  else if isWordChar c then some (.bare [c], [])
  else match c with
    | '[' => some (.between, [.beginArray])
    | ']' => some (.between, [.endArray])
    | '\x7b' => some (.between, [.beginObject])
    | '\x7d' => some (.between, [.endObject])
    | ':' => some (.between, [.colon])
    | ',' => some (.between, [.comma])
    | '"' => some (.text [], [])
    | _ => none

/-- A character inside quotes. -/
def inText (read : List Char) (c : Char) : Option (Scan × List Token) :=
  if c = '"' then some (.between, [.text (String.ofList read.reverse)])
  else if c = '\\' then some (.escape read, [])
  else if c.toNat < 0x20 then none
  else some (.text (c :: read), [])

def shortEscape? (c : Char) : Option Char :=
  match c with
  | '"' => some '"'
  | '\\' => some '\\'
  | '/' => some '/'
  | 'b' => some '\x08'
  | 'f' => some '\x0c'
  | 'n' => some '\n'
  | 'r' => some '\r'
  | 't' => some '\t'
  | _ => none

/-- The character after a backslash. -/
def inEscape (read : List Char) (c : Char) : Option (Scan × List Token) :=
  match shortEscape? c with
  | some d => some (.text (d :: read), [])
  | none => if c = 'u' then some (.hex read none 0 3, []) else none

/-- Whether a code unit is the first half of a surrogate pair. -/
def isHigh (unit : Nat) : Bool := 0xD800 ≤ unit && unit ≤ 0xDBFF

/-- Whether a code unit is the second half of a surrogate pair. -/
def isLow (unit : Nat) : Bool := 0xDC00 ≤ unit && unit ≤ 0xDFFF

def pairPoint (high low : Nat) : Nat := 0x10000 + (high - 0xD800) * 0x400 + (low - 0xDC00)

/-- A complete escape that names a code unit.  Half of a surrogate pair has to
be followed by the other half. -/
def endHex (read : List Char) (high : Option Nat) (unit : Nat) : Option (Scan × List Token) :=
  match high with
  | none =>
    if isHigh unit then some (.afterHigh read unit, [])
    else if isLow unit then none
    else some (.text (Char.ofNat unit :: read), [])
  | some h => if isLow unit then some (.text (Char.ofNat (pairPoint h unit) :: read), []) else none

def step : Scan → Char → Option (Scan × List Token)
  | .between, c => begin? c
  | .bare read, c =>
    if isWordChar c then some (.bare (c :: read), [])
    else (begin? c).map fun next => (next.1, .bare read.reverse :: next.2)
  | .text read, c => inText read c
  | .escape read, c => inEscape read c
  | .hex read high value missing, c =>
    match Characters.digit? c with
    | none => none
    | some d =>
      match missing with
      | 0 => endHex read high (value * 16 + d)
      | missing + 1 => some (.hex read high (value * 16 + d) missing, [])
  | .afterHigh read high, c =>
    if c = '\\' then some (.afterHighEscape read high, []) else none
  | .afterHighEscape read high, c =>
    if c = 'u' then some (.hex read (some high) 0 3, []) else none

/-- The tokens of the rest of a text, after those read so far in reverse. -/
def scanFrom : Scan → List Token → List Char → Option (List Token)
  | .between, tokens, [] => some tokens.reverse
  | .bare read, tokens, [] => some (.bare read.reverse :: tokens).reverse
  | _, _, [] => none
  | scan, tokens, c :: rest =>
    match step scan c with
    | none => none
    | some (next, more) => scanFrom next (more.reverse ++ tokens) rest

def scan (chars : List Char) : Option (List Token) :=
  scanFrom .between [] chars

/-- How many characters a number may have in front of its point or exponent, its sign
included. -/
def maxWhole : Nat := 4300

/-- The digits at the start of a text, of which there has to be one. -/
def digits? (chars : List Char) : Option (List Char × List Char) :=
  match chars.takeWhile Char.isDigit with
  | [] => none
  | digits => some (digits, chars.dropWhile Char.isDigit)

def exponent? : List Char → Option Int
  | [] => some 0
  | e :: rest =>
    if e = 'e' || e = 'E' then
      let (negative, rest) := match rest with
        | '-' :: r => (true, r)
        | '+' :: r => (false, r)
        | r => (false, r)
      match digits? rest with
      | some (digits, []) =>
        let n : Int := Characters.ofDigits 10 digits
        some (if negative then -n else n)
      | _ => none
    else none

/-- A number without its sign.  Zero is the only one that begins with a zero
digit, and a fraction or an exponent makes a double. -/
def unsigned? (negative : Bool) (chars : List Char) : Option Document :=
  match digits? chars with
  | none => none
  | some (whole, rest) =>
    if whole.head? == some '0' && whole.length != 1 then none
    else if maxWhole < whole.length + (if negative then 1 else 0) then none
    else match rest with
      | [] =>
        let n : Int := Characters.ofDigits 10 whole
        some (.int (if negative then -n else n))
      | '.' :: rest =>
        match digits? rest with
        | none => none
        | some (fraction, rest) =>
          (exponent? rest).map fun e =>
            .float (Double.ofDecimal negative (Characters.ofDigits 10 (whole ++ fraction))
              (e - fraction.length))
      | rest =>
        (exponent? rest).map fun e =>
          .float (Double.ofDecimal negative (Characters.ofDigits 10 whole) e)

def bareDocument? (word : List Char) : Option Document :=
  if word = "null".toList then some .null
  else if word = "true".toList then some (.bool true)
  else if word = "false".toList then some (.bool false)
  else if word = "NaN".toList then some (.float .nan)
  else if word = "Infinity".toList then some (.float (.infinite false))
  else if word = "-Infinity".toList then some (.float (.infinite true))
  else match word with
    | '-' :: rest => unsigned? true rest
    | rest => unsigned? false rest

end Json
end PolicyHost
