import PolicyHost.Number.Double

namespace PolicyHost
namespace Double

/-!
# Doubles as decimal text

A double is written with the fewest significant digits that read back as the
same double and, among those, with the digits nearest to its value; of two
equally near ones the even one is taken.  With `n` digits only the two
neighbours of the value can qualify, so the search tries both for each `n`
until one reads back.

Two notations of those digits are in use.  They differ in where plain
notation ends and in how an exponent is padded, and are one record each.
-/

/-- Significant digits and the power of ten of the last of them. -/
structure Shortest where
  digits : Nat
  exponent : Int
deriving DecidableEq, Repr

/-- `num / den * 10 ^ -exponent` as a quotient of natural numbers. -/
def scaleDown (num den : Nat) (exponent : Int) : Nat × Nat :=
  if 0 ≤ exponent then (num, den * 10 ^ exponent.toNat)
  else (num * 10 ^ (-exponent).toNat, den)

/-- The decimal exponent of the leading digit of `num / den`, for a positive
quotient.  The estimate from binary lengths is off by one at most, so a step
in either direction settles it. -/
def leadingExponent (num den : Nat) : Int :=
  let estimate : Int := ((num.log2 : Int) - den.log2) * 30103 / 100000
  let below (e : Int) : Bool := let (n, d) := scaleDown num den e; n < d
  let high := if below (estimate + 1) then estimate else estimate + 1
  if below high then high - 1 else high

/-- Try `count` digits, then one more, as long as the budget lasts. -/
def searchDigits (mantissa shift : Nat) (leading : Int) : Nat → Int → Shortest
  | 0, count => ⟨0, count⟩
  | budget + 1, count =>
    let exponent := leading - count + 1
    let (num, den) := scaleDown (units mantissa shift) unit exponent
    let low := num / den
    let readsBack (d : Nat) : Bool := ofDecimal false d exponent == .finite false mantissa shift
    let lowFits := readsBack low
    let highFits := readsBack (low + 1)
    if lowFits && highFits then
      ⟨if 2 * (num % den) < den || 2 * (num % den) = den && low % 2 = 0 then low else low + 1,
        exponent⟩
    else if lowFits then ⟨low, exponent⟩
    else if highFits then ⟨low + 1, exponent⟩
    else searchDigits mantissa shift leading budget (count + 1)

/-- The shortest digits of a positive finite double.  Seventeen always do. -/
def shortest (mantissa shift : Nat) : Shortest :=
  searchDigits mantissa shift (leadingExponent (units mantissa shift) unit) 18 1

structure Layout where
  /-- Least exponent of the leading digit that is written plainly. -/
  plainFrom : Int
  /-- Exponents of the leading digit from here on are written with `e`. -/
  plainBelow : Int
  /-- Least number of digits of an exponent. -/
  exponentDigits : Nat
  nan : String
  infinity : String

/-- The notation of JSON documents. -/
def jsonLayout : Layout :=
  ⟨-5, 16, 1, "NaN", "Infinity"⟩

/-- The notation of literals in messages. -/
def literalLayout : Layout :=
  ⟨-4, 16, 2, "nan", "inf"⟩

def zeros (n : Nat) : String :=
  String.ofList (List.replicate n '0')

/-- Digits with a decimal point after the first `before` of them, and always
at least one digit on either side. -/
def plain (digits : String) (before : Int) : String :=
  let count : Int := digits.length
  if before ≤ 0 then "0." ++ zeros (-before).toNat ++ digits
  else if before < count then
    String.ofList (digits.toList.take before.toNat) ++ "." ++
      String.ofList (digits.toList.drop before.toNat)
  else digits ++ zeros (before - count).toNat ++ ".0"

/-- Digits in exponent form. -/
def scientific (layout : Layout) (digits : String) (leading : Int) : String :=
  let fraction := String.ofList (digits.toList.drop 1)
  let head := String.ofList (digits.toList.take 1)
  let exponent := toString leading.natAbs
  head ++ (if fraction.isEmpty then "" else "." ++ fraction) ++ "e" ++
    (if leading < 0 then "-" else "+") ++
    zeros (layout.exponentDigits - exponent.length) ++ exponent

/-- A digit text without the zeros at its end. -/
def dropZeros (digits : String) : String :=
  String.ofList (digits.toList.reverse.dropWhile (· == '0')).reverse

/-- A double in the given notation. -/
def format (layout : Layout) : Double → String
  | .nan => layout.nan
  | .infinite negative => (if negative then "-" else "") ++ layout.infinity
  | .finite negative mantissa shift =>
    let sign := if negative then "-" else ""
    if mantissa = 0 then sign ++ "0.0"
    else
      let found := shortest mantissa shift
      let written := toString found.digits
      let digits := dropZeros written
      let leading := found.exponent + written.length - 1
      sign ++
        if layout.plainFrom ≤ leading && leading < layout.plainBelow then
          plain digits (leading + 1)
        else scientific layout digits leading

end Double
end PolicyHost
