import PolicyHost.Text.Characters

namespace PolicyHost
namespace Numeral

/-!
# Integers in text

An integer may be surrounded by blank space, may have a sign and the mark of
its base, and may have single underscores between its digits.  Its digits may
be those of any script, and in decimal there is a limit to their number.
-/

/-- The letter that marks a base. -/
def mark? : Nat → Option Char
  | 2 => some 'b'
  | 8 => some 'o'
  | 16 => some 'x'
  | _ => none

def splitSign : List Char → Bool × List Char
  | '-' :: rest => (true, rest)
  | '+' :: rest => (false, rest)
  | chars => (false, chars)

/-- The characters after the mark of a base, if it is there. -/
def dropMark (base : Nat) : List Char → List Char
  | '0' :: c :: rest =>
    if mark? base == some c.toLower then
      match rest with
      | '_' :: more => more
      | more => more
    else '0' :: c :: rest
  | chars => chars

/-- The value of digits, of which each may follow an underscore but the
first.  `started` tells whether a digit came last. -/
def value? (base : Nat) : Bool → Nat → List Char → Option Nat
  | started, n, [] => if started then some n else none
  | true, n, '_' :: rest => value? base false n rest
  | _, n, c :: rest =>
    match Characters.digit? c with
    | some d => if d < base then value? base true (n * base + d) rest else none
    | none => none

/-- How many digits a decimal integer may have. -/
def maxDigits : Nat := 4300

/-- Whether a numeral without its sign has more digits than it may have. -/
def isOversized (base : Nat) (digits : List Char) : Bool :=
  base == 10 && maxDigits < (digits.filter (· != '_')).length

/-- The integer a text stands for. -/
def int? (base : Nat) (chars : List Char) : Option Int :=
  let trimmed := Characters.trim Characters.isBlank (chars.map Characters.asciiDigit)
  let (negative, digits) := splitSign trimmed
  if isOversized base digits then none
  else
    (value? base false 0 (dropMark base digits)).map fun (n : Nat) =>
      if negative then -(n : Int) else n

end Numeral
end PolicyHost
