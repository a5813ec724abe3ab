import PolicyHost.Json.Token

namespace PolicyHost
namespace Json
namespace Data

/-!
# Reading data documents

The documents that people write, in data files and on command lines, are read
by other rules than those that cross the guest boundary.  Their texts are rows
of code points, and an escape may name half of a surrogate pair.  Each open
container takes a place on the stack of the reader, whether it holds anything
or not.  An integer has a bounded number of digits.

What is wrong first in a text is what ends its reading.
-/

/-- Why a document is not read. -/
inductive Flaw where
  /-- Bytes that are no text. -/
  | notText
  | malformed
  /-- An integer with more digits than one may have. -/
  | oversized (digits : Nat)
  /-- More containers inside each other than the stack has room for. -/
  | exhausted
deriving DecidableEq, Repr

/-- What is told about a document that is not read. -/
def Flaw.text : Flaw → String
  | notText => "<utf8>"
  | malformed => "<json>"
  | oversized digits =>
    "Exceeds the limit (4300 digits) for integer string conversion: value has " ++
      toString digits ++ " digits; use sys.set_int_max_str_digits() to increase the limit"
  | exhausted => ""

inductive Token where
  | beginArray
  | endArray
  | beginObject
  | endObject
  | colon
  | comma
  | text (t : HostText)
  | bare (word : List Char)
  | broken
deriving DecidableEq, Repr

/-- Where in a token the reader is, with what it has read of it in reverse. -/
inductive Scan where
  | between
  | bare (read : List Char)
  | text (read : List Nat)
  | escape (read : List Nat)
  | hex (read : List Nat) (high : Option Nat) (value missing : Nat)
  | afterHigh (read : List Nat) (high : Nat)
  | afterHighEscape (read : List Nat) (high : Nat)
deriving DecidableEq, Repr

def begin? (c : Char) : Option (Scan × List Token) :=
  if isGap c then some (.between, [])
  else if isWordChar c then some (.bare [c], [])
  else match c with
    | '[' => some (.between, [.beginArray])
    | ']' => some (.between, [.endArray])
    | '\x7b' => some (.between, [.beginObject])
    | '\x7d' => some (.between, [.endObject])
    | ':' => some (.between, [.colon])
    | ',' => some (.between, [.comma])
    | '"' => some (.text [], [])
    | _ => none

/-- A code point inside quotes. -/
def inText (read : List Nat) (point : Nat) : Option (Scan × List Token) :=
  if point = '"'.toNat then some (.between, [.text (.ofPoints read.reverse)])
  else if point = '\\'.toNat then some (.escape read, [])
  else if point < 0x20 then none
  else some (.text (point :: read), [])

/-- The code point after a backslash. -/
def inEscape (read : List Nat) (point : Nat) : Option (Scan × List Token) :=
  match shortEscape? (Char.ofNat point) with
  | some meant => some (.text (meant.toNat :: read), [])
  | none => if point = 'u'.toNat then some (.hex read none 0 3, []) else none

/-- A complete escape that names a code unit.  Only the two halves of a pair
that are both escaped, one right after the other, make one character. -/
def endHex (read : List Nat) (high : Option Nat) (unit : Nat) : Scan :=
  let single (read : List Nat) : Scan :=
    if isHigh unit then .afterHigh read unit else .text (unit :: read)
  match high with
  | none => single read
  | some h => if isLow unit then .text (pairPoint h unit :: read) else single (h :: read)

def step : Scan → Nat → Option (Scan × List Token)
  | .between, point => begin? (Char.ofNat point)
  | .bare read, point =>
    let c := Char.ofNat point
    if isWordChar c then some (.bare (c :: read), [])
    else match begin? c with
      | some (next, more) => some (next, .bare read.reverse :: more)
      | none => some (.between, [.bare read.reverse, .broken])
  | .text read, point => inText read point
  | .escape read, point => inEscape read point
  | .hex read high value missing, point =>
    match Characters.digit? (Char.ofNat point) with
    | none => none
    | some d =>
      match missing with
      | 0 => some (endHex read high (value * 16 + d), [])
      | missing + 1 => some (.hex read high (value * 16 + d) missing, [])
  | .afterHigh read high, point =>
    if point = '\\'.toNat then some (.afterHighEscape read high, [])
    else inText (high :: read) point
  | .afterHighEscape read high, point =>
    if point = 'u'.toNat then some (.hex read (some high) 0 3, [])
    else inEscape (high :: read) point

def scanFrom : Scan → List Nat → List Token
  | .between, [] => []
  | .bare read, [] => [.bare read.reverse]
  | _, [] => [.broken]
  | scan, point :: rest =>
    match step scan point with
    | none => [.broken]
    | some (next, more) => more ++ scanFrom next rest

/-! ## Values -/

/-- How many digits an integer may have. -/
def maxDigits : Nat := 4300

def integer (negative : Bool) (digits : List Char) : Except Flaw Int :=
  if maxDigits < digits.length then .error (.oversized digits.length)
  else
    let n : Int := Characters.ofDigits 10 digits
    .ok (if negative then -n else n)

/-- A number without its sign.  What stands before something that cannot
follow it counts as an integer, and may be too long for one. -/
def unsigned (negative : Bool) (chars : List Char) : Except Flaw Value :=
  match digits? chars with
  | none => .error .malformed
  | some (whole, rest) =>
    if whole.head? == some '0' && whole.length != 1 then .error .malformed
    else
      let spoiled : Except Flaw Value := (integer negative whole).bind fun _ => .error .malformed
      match rest with
      | [] => (integer negative whole).map .int
      | '.' :: rest =>
        match digits? rest with
        | none => spoiled
        | some (fraction, rest) =>
          match exponent? rest with
          | none => .error .malformed
          | some e =>
            .ok (.float (Double.ofDecimal negative (Characters.ofDigits 10 (whole ++ fraction))
              (e - fraction.length)))
      | rest =>
        match exponent? rest with
        | none => spoiled
        | some e => .ok (.float (Double.ofDecimal negative (Characters.ofDigits 10 whole) e))

def bareValue (word : List Char) : Except Flaw Value :=
  if word = "null".toList then .ok .null
  else if word = "true".toList then .ok (.bool true)
  else if word = "false".toList then .ok (.bool false)
  else if word = "NaN".toList then .ok (.float .nan)
  else if word = "Infinity".toList then .ok (.float (.infinite false))
  else if word = "-Infinity".toList then .ok (.float (.infinite true))
  else match word with
    | '-' :: rest => unsigned true rest
    | rest => unsigned false rest

/-- A container that has not been closed, with what it holds so far in
reverse.  An object is open at the member whose name is kept. -/
inductive Open where
  | array (done : List Value)
  | object (done : List (Value × Value)) (name : HostText)

inductive Expect where
  /-- A value. -/
  | value (stack : List Open)
  /-- The first element of an array, or its end. -/
  | firstElement (stack : List Open)
  /-- The name of a member after others. -/
  | name (stack : List Open) (done : List (Value × Value))
  /-- The name of the first member, or the end of the object. -/
  | firstName (stack : List Open)
  /-- The colon after a name. -/
  | colon (stack : List Open) (done : List (Value × Value)) (name : HostText)
  /-- What follows a complete value. -/
  | after (stack : List Open) (complete : Value)

def enter (room : Nat) (stack : List Open) (next : Expect) : Except Flaw Expect :=
  if stack.length < room then .ok next else .error .exhausted

def readValue (room : Nat) (stack : List Open) : Token → Except Flaw Expect
  | .beginArray => enter room stack (.firstElement stack)
  | .beginObject => enter room stack (.firstName stack)
  | .text t => .ok (.after stack (.ofText t))
  | .bare word => (bareValue word).map (.after stack)
  | _ => .error .malformed

def readToken (room : Nat) : Expect → Token → Except Flaw Expect
  | .value stack, token => readValue room stack token
  | .firstElement stack, .endArray => .ok (.after stack (.list []))
  | .firstElement stack, token => readValue room (.array [] :: stack) token
  | .firstName stack, .endObject => .ok (.after stack (.mapping []))
  | .firstName stack, .text name => .ok (.colon stack [] name)
  | .name stack done, .text name => .ok (.colon stack done name)
  | .colon stack done name, .colon => .ok (.value (.object done name :: stack))
  | .after (.array done :: stack) complete, .comma =>
    .ok (.value (.array (complete :: done) :: stack))
  | .after (.array done :: stack) complete, .endArray =>
    .ok (.after stack (.list (complete :: done).reverse))
  | .after (.object done name :: stack) complete, .comma =>
    .ok (.name stack ((.ofText name, complete) :: done))
  | .after (.object done name :: stack) complete, .endObject =>
    .ok (.after stack (Value.ofEntries ((.ofText name, complete) :: done).reverse))
  | _, _ => .error .malformed

def readTokens (room : Nat) : Expect → List Token → Except Flaw Value
  | .after [] complete, [] => .ok complete
  | _, [] => .error .malformed
  | expect, token :: rest =>
    match readToken room expect token with
    | .error flaw => .error flaw
    | .ok next => readTokens room next rest

/-- The value that code points denote, for a reader with so much room on its
stack. -/
def readPoints (room : Nat) (points : List Nat) : Except Flaw Value :=
  readTokens room (.value []) (scanFrom .between points)

def readText (room : Nat) (chars : List Char) : Except Flaw Value :=
  readPoints room (chars.map Char.toNat)

/-! ## Bytes -/

/-- The width and byte order of the code units a data file is written in. -/
inductive Units where
  | utf8
  | utf16 (bigEndian : Bool)
  | utf32 (bigEndian : Bool)
deriving DecidableEq, Repr

/-- How a data file is encoded, told by its byte order mark or else by where
its first four bytes are zero, and how many bytes the mark has. -/
def detectUnits (bytes : Bytes) : Units × Nat :=
  match bytes with
  | 0x00 :: 0x00 :: 0xFE :: 0xFF :: _ => (.utf32 true, 4)
  | 0xFF :: 0xFE :: 0x00 :: 0x00 :: _ => (.utf32 false, 4)
  | 0xFE :: 0xFF :: _ => (.utf16 true, 2)
  | 0xFF :: 0xFE :: _ => (.utf16 false, 2)
  | 0xEF :: 0xBB :: 0xBF :: _ => (.utf8, 3)
  | a :: b :: c :: d :: _ =>
    if a = 0 then (if b = 0 then .utf32 true else .utf16 true, 0)
    else if b = 0 then (if c = 0 && d = 0 then .utf32 false else .utf16 false, 0)
    else (.utf8, 0)
  | [a, b] => if a = 0 then (.utf16 true, 0) else if b = 0 then (.utf16 false, 0) else (.utf8, 0)
  | _ => (.utf8, 0)

/-- The code points of UTF-8 in which halves of pairs may stand as well, each
in the three bytes it would have.  `piece` is what was read since the last
half, in reverse. -/
def points8 (piece : Bytes) : Bytes → Option (List Nat)
  | [] => (Utf8.decode piece.reverse).map fun chars => chars.map Char.toNat
  | 0xED :: b :: c :: rest =>
    if 0xA0 ≤ b && b ≤ 0xBF && 0x80 ≤ c && c ≤ 0xBF then
      match Utf8.decode piece.reverse, points8 [] rest with
      | some before, some after =>
        let half := 0xD000 + (b.toNat - 0x80) * 64 + (c.toNat - 0x80)
        some (before.map Char.toNat ++ half :: after)
      | _, _ => none
    else points8 (0xED :: piece) (b :: c :: rest)
  | b :: rest => points8 (b :: piece) rest

def units16 (bigEndian : Bool) : Bytes → Option (List Nat)
  | [] => some []
  | [_] => none
  | a :: b :: rest =>
    (units16 bigEndian rest).map
      ((if bigEndian then a.toNat * 256 + b.toNat else b.toNat * 256 + a.toNat) :: ·)

/-- Code points of UTF-16 code units.  A half without the other half stays. -/
def joinPairs : List Nat → List Nat
  | [] => []
  | [a] => [a]
  | a :: b :: rest =>
    if isHigh a && isLow b then pairPoint a b :: joinPairs rest else a :: joinPairs (b :: rest)

def points32 (bigEndian : Bool) : Bytes → Option (List Nat)
  | [] => some []
  | a :: b :: c :: d :: rest =>
    let n := if bigEndian then ((a.toNat * 256 + b.toNat) * 256 + c.toNat) * 256 + d.toNat
      else ((d.toNat * 256 + c.toNat) * 256 + b.toNat) * 256 + a.toNat
    if 0x110000 ≤ n then none else (points32 bigEndian rest).map (n :: ·)
  | _ => none

/-- The code points of a data file, if its bytes are text. -/
def pointsOf (bytes : Bytes) : Option (List Nat) :=
  let (units, mark) := detectUnits bytes
  match units with
  | .utf8 => points8 [] (bytes.drop mark)
  | .utf16 bigEndian => (units16 bigEndian (bytes.drop mark)).map joinPairs
  | .utf32 bigEndian => points32 bigEndian (bytes.drop mark)

/-- The value that the bytes of a data file denote. -/
def read (room : Nat) (bytes : Bytes) : Except Flaw Value :=
  match pointsOf bytes with
  | none => .error .notText
  | some points => readPoints room points

/-- The room that a reader has by default. -/
def standardRoom : Nat := 970

end Data
end Json
end PolicyHost
