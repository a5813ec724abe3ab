import PolicyHost.Text.Utf8

namespace PolicyHost

/-!
# Texts without a UTF-8 form

The text that a caller hands over is a row of code points, and half of a
surrogate pair may be one of them.  Such a text can be kept, compared and
shown, but no bytes stand for it.
-/

/-- Whether a code point is half of a surrogate pair. -/
def isHalf (point : Nat) : Bool := 0xD800 ≤ point && point ≤ 0xDFFF

/-- A text that holds half of a surrogate pair. -/
structure Unencodable where
  points : List Nat
  broken : points.any isHalf = true
deriving DecidableEq, Repr

namespace Unencodable

/-- What is shown of a text where only UTF-8 can be shown: each half is three
bytes that are none. -/
def lossy (text : Unencodable) : String :=
  String.ofList (text.points.flatMap fun point =>
    if isHalf point then List.replicate 3 Utf8.replacement else [Char.ofNat point])

end Unencodable

inductive HostText where
  | whole (text : String)
  | broken (text : Unencodable)
deriving DecidableEq, Repr

namespace HostText

instance : Inhabited HostText := ⟨whole ""⟩

def ofPoints (points : List Nat) : HostText :=
  if half : points.any isHalf = true then broken ⟨points, half⟩
  else whole (String.ofList (points.map Char.ofNat))

def isBroken : HostText → Bool
  | whole _ => false
  | broken _ => true

def points : HostText → List Nat
  | whole text => text.toList.map Char.toNat
  | broken text => text.points

def utf8? : HostText → Option Bytes
  | whole text => some (Utf8.encode text)
  | broken _ => none

end HostText
end PolicyHost
