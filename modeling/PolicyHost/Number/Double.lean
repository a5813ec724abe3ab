namespace PolicyHost

/-!
# Double precision numbers

Documents carry IEEE 754 doubles, and the host hardly computes with them: it
reads them from decimal text, writes them back, and compares them with
integers.  So a double is kept as the number it denotes rather than as a bit
pattern, and every operation here is exact arithmetic on natural numbers
followed by at most one rounding.
-/

/-- Powers of natural numbers are those of the core library everywhere, also
where algebra is imported, which has its own. -/
@[default_instance 20000]
instance (priority := 20000) powNat : Pow Nat Nat := instPowNat

/-- A double.  The finite ones are `mantissa * 2 ^ shift` units of
`2 ^ -1074`, the distance between the smallest two; there is one NaN. -/
inductive Double where
  | nan
  | infinite (negative : Bool)
  | finite (negative : Bool) (mantissa shift : Nat)
deriving DecidableEq, Repr, Inhabited

namespace Double

/-- The least mantissa of a normal number. -/
def hidden : Nat := 2 ^ 52

/-- The units in one: finite doubles are multiples of `1 / unit`. -/
def unit : Nat := 2 ^ 1074

/-- The largest shift of a finite double. -/
def maxShift : Nat := 2045

def zero : Double := .finite false 0 0

/-- Round half to even: `num / den` to the nearest natural number. -/
def roundQuotient (num den : Nat) : Nat :=
  let quotient := num / den
  let twice := 2 * (num % den)
  if den < twice || (twice = den && quotient % 2 = 1) then quotient + 1 else quotient

/-- The double nearest to `num / den`, with the given sign.  Ties go to the
even mantissa, and what rounds past the largest double is infinite. -/
def ofRatio (negative : Bool) (num den : Nat) : Double :=
  let units := num * unit
  let shift := (units / den).log2 - 52
  let mantissa := roundQuotient units (den * 2 ^ shift)
  let rounded := if mantissa = 2 * hidden then (hidden, shift + 1) else (mantissa, shift)
  if maxShift < rounded.2 then .infinite negative else .finite negative rounded.1 rounded.2

/-- The double nearest to an integer. -/
def ofInt (n : Int) : Double :=
  ofRatio (n < 0) n.natAbs 1

/-- The number of decimal digits of a positive number. -/
def decimalLength (n : Nat) : Nat :=
  (Nat.toDigits 10 n).length

/-- The double nearest to `digits * 10 ^ exponent`.  Exponents far outside
the range of doubles are settled by size alone, before any power is taken. -/
def ofDecimal (negative : Bool) (digits : Nat) (exponent : Int) : Double :=
  if digits = 0 then .finite negative 0 0
  else
    let magnitude := exponent + decimalLength digits
    if 400 < magnitude then .infinite negative
    else if magnitude < -400 then .finite negative 0 0
    else if 0 ≤ exponent then ofRatio negative (digits * 10 ^ exponent.toNat) 1
    else ofRatio negative digits (10 ^ (-exponent).toNat)

def ofBits (bits : Nat) : Double :=
  let negative := bits / 2 ^ 63 % 2 = 1
  let field := bits / 2 ^ 52 % 2048
  let fraction := bits % 2 ^ 52
  if field = 2047 then if fraction = 0 then .infinite negative else .nan
  else if field = 0 then .finite negative fraction 0
  else .finite negative (hidden + fraction) (field - 1)

def toBits : Double → Nat
  | .nan => 0x7FF8000000000000
  | .infinite negative => signBit negative + 2047 * 2 ^ 52
  | .finite negative mantissa shift =>
    if mantissa < hidden then signBit negative + mantissa
    else signBit negative + (shift + 1) * 2 ^ 52 + (mantissa - hidden)
where
  signBit (negative : Bool) : Nat := if negative then 2 ^ 63 else 0

/-- The magnitude of a finite double in units. -/
def units (mantissa shift : Nat) : Nat := mantissa * 2 ^ shift

/-- The integer a double equals, if there is one. -/
def toInt? : Double → Option Int
  | .finite negative mantissa shift =>
    let magnitude := units mantissa shift
    if magnitude % unit = 0 then
      let n : Int := magnitude / unit
      some (if negative then -n else n)
    else none
  | _ => none

/-- Numeric equality: zeros of both signs agree and NaN differs from all. -/
def same : Double → Double → Bool
  | .nan, _ | _, .nan => false
  | .infinite s, .infinite t => s == t
  | .finite s m a, .finite t n b => m == n && a == b && (s == t || m == 0)
  | _, _ => false

def negate : Double → Double
  | .nan => .nan
  | .infinite negative => .infinite !negative
  | .finite negative mantissa shift => .finite (!negative) mantissa shift

def signedUnits (negative : Bool) (mantissa shift : Nat) : Int :=
  if negative then -(units mantissa shift : Int) else units mantissa shift

/-- The double nearest to a sum.  A sum of zero is negative only if both
numbers are. -/
def add : Double → Double → Double
  | .nan, _ | _, .nan => .nan
  | .infinite s, .infinite t => if s = t then .infinite s else .nan
  | .infinite s, _ | _, .infinite s => .infinite s
  | .finite s m a, .finite t n b =>
    let sum := signedUnits s m a + signedUnits t n b
    ofRatio (if sum = 0 then s && t else sum < 0) sum.natAbs unit

/-- The double nearest to a product. -/
def mul : Double → Double → Double
  | .nan, _ | _, .nan => .nan
  | .infinite s, .infinite t => .infinite (s != t)
  | .infinite s, .finite t n _ | .finite t n _, .infinite s =>
    if n = 0 then .nan else .infinite (s != t)
  | .finite s m a, .finite t n b => ofRatio (s != t) (units m a * units n b) (unit * unit)

/-- Round to single precision and back: the double nearest among those whose
mantissa has 24 bits and whose unit is `2 ^ -149`. -/
def toSingle : Double → Double
  | .finite negative mantissa shift =>
    let magnitude := units mantissa shift
    let coarse := max (magnitude.log2 - 23) (1074 - 149)
    let rounded := roundQuotient magnitude (2 ^ coarse) * 2 ^ coarse
    if 2 ^ (1074 + 128) ≤ rounded then .infinite negative else ofRatio negative rounded unit
  | other => other

/-- The integer part of a finite double, toward zero. -/
def truncate? : Double → Option Int
  | .finite negative mantissa shift =>
    let n : Int := units mantissa shift / unit
    some (if negative then -n else n)
  | _ => none

end Double
end PolicyHost
