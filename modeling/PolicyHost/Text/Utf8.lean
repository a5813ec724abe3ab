namespace PolicyHost

/-- A byte string.  Documents, archives and guest buffers all travel as one. -/
abbrev Bytes := List UInt8

namespace Utf8

/-!
# UTF-8

Text enters the host as bytes in five places: documents read out of a guest,
archive members and their names, configuration files and HTTP bodies.  Members,
documents and files want exact text or a refusal, bodies want text at any
price, and in names no byte may be lost.  All readings share one byte
automaton, so they agree on what well-formed text is.

The automaton holds what the scalar value being read still needs.  The first
continuation byte has a narrower range after some lead bytes; that range is
what rules out overlong forms, surrogates and values past `10FFFF`.
-/

/-- A scalar value of which some bytes have been read.  The next byte has to
lie between `low` and `high`, and `missing` more have to follow it. -/
structure Pending where
  missing : Nat
  low : UInt8
  high : UInt8
  value : Nat
deriving DecidableEq

/-- What one byte does to the automaton. -/
inductive Reaction where
  | scalar (c : Char)
  | more (pending : Pending)
  | malformed
deriving DecidableEq

/-- Read a byte that begins a scalar value. -/
def lead (b : UInt8) : Reaction :=
  if b < 0x80 then .scalar (Char.ofNat b.toNat)
  else if b < 0xC2 then .malformed
  else if b < 0xE0 then .more ⟨0, 0x80, 0xBF, b.toNat - 0xC0⟩
  else if b < 0xF0 then
    .more ⟨1, if b = 0xE0 then 0xA0 else 0x80, if b = 0xED then 0x9F else 0xBF, b.toNat - 0xE0⟩
  else if b < 0xF5 then
    .more ⟨2, if b = 0xF0 then 0x90 else 0x80, if b = 0xF4 then 0x8F else 0xBF, b.toNat - 0xF0⟩
  else .malformed

/-- Read a byte that continues a scalar value. -/
def continuation (p : Pending) (b : UInt8) : Reaction :=
  if b < p.low || p.high < b then .malformed
  else
    let value := p.value * 64 + (b.toNat - 0x80)
    match p.missing with
    | 0 => .scalar (Char.ofNat value)
    | missing + 1 => .more ⟨missing, 0x80, 0xBF, value⟩

/-- Read one byte in the given state. -/
def react : Option Pending → UInt8 → Reaction
  | none, b => lead b
  | some p, b => continuation p b

/-- Strict reading from a state, with the text read so far in reverse. -/
def decodeFrom : Option Pending → List Char → Bytes → Option (List Char)
  | none, read, [] => some read.reverse
  | some _, _, [] => none
  | state, read, b :: rest =>
    match react state b with
    | .scalar c => decodeFrom none (c :: read) rest
    | .more p => decodeFrom (some p) read rest
    | .malformed => none

/-- The characters of well-formed UTF-8, and nothing for any other bytes. -/
def decode (bytes : Bytes) : Option (List Char) :=
  decodeFrom none [] bytes

/-- The text of well-formed UTF-8. -/
def decodeText (bytes : Bytes) : Option String :=
  (decode bytes).map String.ofList

/-- The character that stands for bytes that are not text. -/
def replacement : Char := '\uFFFD'

/-- Lenient reading from a state.  A malformed byte ends the scalar value in
progress, which is replaced as a whole, and is then read afresh. -/
def decodeLossyFrom : Option Pending → List Char → Bytes → List Char
  | none, read, [] => read.reverse
  | some _, read, [] => (replacement :: read).reverse
  | state, read, b :: rest =>
    match react state b with
    | .scalar c => decodeLossyFrom none (c :: read) rest
    | .more p => decodeLossyFrom (some p) read rest
    | .malformed =>
      match state with
      | none => decodeLossyFrom none (replacement :: read) rest
      | some _ =>
        match lead b with
        | .scalar c => decodeLossyFrom none (c :: replacement :: read) rest
        | .more p => decodeLossyFrom (some p) (replacement :: read) rest
        | .malformed => decodeLossyFrom none (replacement :: replacement :: read) rest

/-- Text for any bytes, with `replacement` where they are not UTF-8. -/
def decodeLossy (bytes : Bytes) : String :=
  String.ofList (decodeLossyFrom none [] bytes)

/-- The code point that stands for a byte that is not text: the second half of
a surrogate pair, which no text holds alone. -/
def escapePoint (b : UInt8) : Nat := 0xDC00 + b.toNat

/-- Reading from a state in which no byte is lost, with the bytes of the scalar
value in progress and the code points read so far in reverse. -/
def decodeEscapedFrom : Option Pending → Bytes → List Nat → Bytes → List Nat
  | _, held, read, [] => (held.map escapePoint ++ read).reverse
  | state, held, read, b :: rest =>
    match react state b with
    | .scalar c => decodeEscapedFrom none [] (c.toNat :: read) rest
    | .more p => decodeEscapedFrom (some p) (b :: held) read rest
    | .malformed =>
      let read := held.map escapePoint ++ read
      match lead b with
      | .scalar c => decodeEscapedFrom none [] (c.toNat :: read) rest
      | .more p => decodeEscapedFrom (some p) [b] read rest
      | .malformed => decodeEscapedFrom none [] (escapePoint b :: read) rest

/-- Code points for any bytes. -/
def decodeEscaped (bytes : Bytes) : List Nat :=
  decodeEscapedFrom none [] [] bytes

/-- The UTF-8 form of one character. -/
def encodeChar (c : Char) : Bytes :=
  let n := c.toNat
  if n < 0x80 then [n.toUInt8]
  else if n < 0x800 then [(0xC0 + n / 64).toUInt8, (0x80 + n % 64).toUInt8]
  else if n < 0x10000 then
    [(0xE0 + n / 4096).toUInt8, (0x80 + n / 64 % 64).toUInt8, (0x80 + n % 64).toUInt8]
  else
    [(0xF0 + n / 262144).toUInt8, (0x80 + n / 4096 % 64).toUInt8,
      (0x80 + n / 64 % 64).toUInt8, (0x80 + n % 64).toUInt8]

/-- The UTF-8 form of characters. -/
def encodeChars (chars : List Char) : Bytes :=
  chars.flatMap encodeChar

def encode (text : String) : Bytes :=
  encodeChars text.toList

end Utf8
end PolicyHost
