import PolicyHost.Text.Utf8

namespace PolicyHost
namespace Base64

/-!
# Bytes in base 64

Four characters stand for three bytes.  Characters outside the alphabet are
passed over, and equals signs that fill up a group of four end the text.
-/

/-- The value of a character of the alphabet. -/
def digit? (c : Char) : Option Nat :=
  if 'A' ≤ c && c ≤ 'Z' then some (c.toNat - 65)
  else if 'a' ≤ c && c ≤ 'z' then some (c.toNat - 71)
  else if '0' ≤ c && c ≤ '9' then some (c.toNat + 4)
  else if c == '+' then some 62
  else if c == '/' then some 63
  else none

/-- The byte that a digit completes, given the digit before it and its place
in the group. -/
def completed (place before digit : Nat) : Bytes :=
  match place with
  | 0 => []
  | 1 => [(before * 4 + digit / 16).toUInt8]
  | 2 => [(before * 16 + digit / 4).toUInt8]
  | _ => [(before * 64 + digit).toUInt8]

/-- Decode from a place inside a group, after some equals signs. -/
def decodeFrom (place before signs : Nat) : List Char → Option Bytes
  | [] => if place = 0 then some [] else none
  | '=' :: rest =>
    if 2 ≤ place then
      if 4 ≤ place + signs + 1 then some [] else decodeFrom place before (signs + 1) rest
    else decodeFrom place before signs rest
  | c :: rest =>
    match digit? c with
    | none => decodeFrom place before signs rest
    | some d =>
      (decodeFrom ((place + 1) % 4) d 0 rest).map (completed place before d ++ ·)

/-- The bytes a text stands for. -/
def decode (chars : List Char) : Option Bytes := decodeFrom 0 0 0 chars

end Base64
end PolicyHost
