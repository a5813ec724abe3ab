import PolicyHost.Text.Unencodable
import PolicyHost.Yaml.Cursor

namespace PolicyHost
namespace Yaml

/-!
# Types of YAML nodes

Every node has a type.  A tag states it; without one, collections are what
they are written as, quoted scalars are text, and the type of a plain scalar
follows from its spelling.  The spellings are those of YAML 1.1: octal
numbers begin with a zero, numbers may be written to the base sixty, and
`yes` and `off` are truth values.
-/

inductive Tag where
  | null
  | bool
  | int
  | float
  | binary
  | timestamp
  | text
  | sequence
  | mapping
  | set
  | orderedMapping
  | pairs
  /-- The key that stands for another mapping's entries. -/
  | merge
  /-- The key that stands for a default value. -/
  | default
  /-- A type nobody defined. -/
  | unknown
deriving DecidableEq, Repr

namespace Tag

/-- Where the addresses of the standard types begin. -/
def standardHandle : String := "tag:yaml.org,2002:"

def ofAddress (address : String) : Tag :=
  let named : List (String × Tag) :=
    [("null", null), ("bool", bool), ("int", int), ("float", float), ("binary", binary),
      ("timestamp", timestamp), ("str", text), ("seq", sequence), ("map", mapping), ("set", set),
      ("omap", orderedMapping), ("pairs", pairs), ("merge", merge), ("value", default)]
  match named.find? fun n => standardHandle ++ n.1 == address with
  | some n => n.2
  | none => unknown

/-! ## Spellings -/

/-- Characters after an optional sign. -/
def unsigned : List Char → List Char
  | '+' :: rest => rest
  | '-' :: rest => rest
  | chars => chars

def isSpacedDigit (c : Char) : Bool := c.isDigit || c == '_'

/-- A spelling of a truth value. -/
def spellsBool (word : String) : Bool :=
  ["yes", "Yes", "YES", "no", "No", "NO", "true", "True", "TRUE", "false", "False", "FALSE",
    "on", "On", "ON", "off", "Off", "OFF"].contains word

def spellsNull (word : String) : Bool :=
  ["", "~", "null", "Null", "NULL"].contains word

/-- One digit or two, of which the first is below six, after a colon, several
times over.  The result is what comes after the last group. -/
def sixties? : List Char → Option (List Char)
  | ':' :: a :: b :: rest =>
    if '0' ≤ a && a ≤ '5' && b.isDigit then some ((sixties? rest).getD rest)
    else if a.isDigit then some ((sixties? (b :: rest)).getD (b :: rest))
    else none
  | ':' :: a :: [] => if a.isDigit then some [] else none
  | _ => none

/-- A nonempty run of a class. -/
def allOf (p : Char → Bool) (chars : List Char) : Bool := !chars.isEmpty && chars.all p

def spellsInt (chars : List Char) : Bool :=
  match unsigned chars with
  | ['0'] => true
  | '0' :: 'b' :: rest => allOf (fun c => c == '0' || c == '1' || c == '_') rest
  | '0' :: 'x' :: rest => allOf (fun c => (Characters.digit? c).isSome || c == '_') rest
  | '0' :: rest => rest.all fun c => ('0' ≤ c && c ≤ '7') || c == '_'
  | c :: rest =>
    c.isDigit &&
      match rest.dropWhile isSpacedDigit with
      | [] => true
      | more => sixties? more == some []
  | [] => false

def spellsExponent : List Char → Bool
  | [] => true
  | e :: sign :: digits =>
    (e == 'e' || e == 'E') && (sign == '+' || sign == '-') && allOf Char.isDigit digits
  | _ => false

/-- A spelling of a number with a point. -/
def spellsFloat (chars : List Char) : Bool :=
  let word := String.ofList chars
  let bare := String.ofList (unsigned chars)
  [".nan", ".NaN", ".NAN"].contains word || [".inf", ".Inf", ".INF"].contains bare ||
    (match chars with
      | '.' :: c :: rest => c.isDigit && spellsExponent (rest.dropWhile isSpacedDigit)
      | _ => false) ||
    match unsigned chars with
    | c :: rest =>
      c.isDigit &&
        match rest.dropWhile isSpacedDigit with
        | '.' :: fraction => spellsExponent (fraction.dropWhile isSpacedDigit)
        | more =>
          match sixties? more with
          | some ('.' :: fraction) => (fraction.dropWhile isSpacedDigit).isEmpty
          | _ => false
    | [] => false

/-- Some digits, as few and as many as given, and what follows them. -/
def digits? (least most : Nat) (chars : List Char) : Option (List Char × List Char) :=
  let run := (chars.takeWhile Char.isDigit).take most
  if run.length < least then none else some (run, chars.drop run.length)

def spellsDate (chars : List Char) : Bool :=
  match digits? 4 4 chars with
  | some (_, '-' :: rest) =>
    match digits? 2 2 rest with
    | some (_, '-' :: rest) => (digits? 2 2 rest).map (·.2) == some []
    | _ => false
  | _ => false

end Tag

/-- A point in time as it is spelled out.  Without a time of day it is a
date. -/
structure Moment where
  year : Nat
  month : Nat
  day : Nat
  /-- Hour, minute, second, and the digits of a fraction. -/
  time : Option (Nat × Nat × Nat × List Char) := none
  /-- The offset from universal time: whether it is negative, its hours and
  its minutes. -/
  offset : Option (Bool × Nat × Nat) := none
deriving DecidableEq, Repr

namespace Moment

/-- An offset from universal time at the end of a spelling, which may be
missing. -/
def offset? (chars : List Char) : Option (Option (Bool × Nat × Nat)) :=
  match chars.dropWhile isBlank with
  | [] => if chars.isEmpty then some none else none
  | ['Z'] => some (some (false, 0, 0))
  | sign :: rest =>
    if sign == '+' || sign == '-' then
      match Tag.digits? 1 2 rest with
      | some (hours, []) => some (some (sign == '-', Characters.ofDigits 10 hours, 0))
      | some (hours, ':' :: rest) =>
        match Tag.digits? 2 2 rest with
        | some (minutes, []) =>
          some (some (sign == '-', Characters.ofDigits 10 hours, Characters.ofDigits 10 minutes))
        | _ => none
      | _ => none
    else none

/-- The fraction of a second after a point. -/
def fraction : List Char → List Char × List Char
  | '.' :: rest => (rest.takeWhile Char.isDigit, rest.dropWhile Char.isDigit)
  | chars => ([], chars)

/-- What follows the day: nothing, or a time of day and an offset. -/
def withTime? (date : Moment) (chars : List Char) : Option Moment :=
  let time := match chars with
    | 'T' :: rest => some rest
    | 't' :: rest => some rest
    | c :: _ => if isBlank c then some (chars.dropWhile isBlank) else none
    | [] => none
  match chars with
  | [] => some date
  | _ => do
    let (hour, rest) ← Tag.digits? 1 2 (← time)
    let rest ← match rest with | ':' :: rest => some rest | _ => none
    let (minute, rest) ← Tag.digits? 2 2 rest
    let rest ← match rest with | ':' :: rest => some rest | _ => none
    let (second, rest) ← Tag.digits? 2 2 rest
    let (part, rest) := fraction rest
    let offset ← offset? rest
    let number := Characters.ofDigits 10
    return { date with time := some (number hour, number minute, number second, part), offset }

/-- The moment a text spells. -/
def ofChars? (chars : List Char) : Option Moment := do
  let (year, rest) ← Tag.digits? 4 4 chars
  let rest ← match rest with | '-' :: rest => some rest | _ => none
  let (month, rest) ← Tag.digits? 1 2 rest
  let rest ← match rest with | '-' :: rest => some rest | _ => none
  let (day, rest) ← Tag.digits? 1 2 rest
  let number := Characters.ofDigits 10
  withTime? { year := number year, month := number month, day := number day } rest

def daysIn (year month : Nat) : Nat :=
  if month = 2 then
    if year % 4 = 0 && (year % 100 != 0 || year % 400 = 0) then 29 else 28
  else if month = 4 || month = 6 || month = 9 || month = 11 then 30
  else 31

/-- Whether there is such a moment.  Years count from one, and an offset is
less than a day. -/
def exists_ (moment : Moment) : Bool :=
  1 ≤ moment.year && 1 ≤ moment.month && moment.month ≤ 12 && 1 ≤ moment.day &&
    moment.day ≤ daysIn moment.year moment.month &&
    (match moment.time with
      | some (hour, minute, second, _) => hour < 24 && minute < 60 && second < 60
      | none => true) &&
    match moment.offset with
    | some (_, hours, minutes) => hours * 60 + minutes < 24 * 60
    | none => true

def offsetLiteral : Option (Bool × Nat × Nat) → String
  | none => ""
  | some (negative, hours, minutes) =>
    let seconds := (hours * 60 + minutes) * 60
    let zone :=
      if seconds = 0 then "datetime.timezone.utc"
      else if negative then
        "datetime.timezone(datetime.timedelta(days=-1, seconds=" ++
          toString (86400 - seconds) ++ "))"
      else "datetime.timezone(datetime.timedelta(seconds=" ++ toString seconds ++ "))"
    ", tzinfo=" ++ zone

def literal (moment : Moment) : String :=
  let date := toString moment.year ++ ", " ++ toString moment.month ++ ", " ++ toString moment.day
  match moment.time with
  | none => "datetime.date(" ++ date ++ ")"
  | some (hour, minute, second, part) =>
    let micros := Characters.ofDigits 10 ((part ++ List.replicate 6 '0').take 6)
    "datetime.datetime(" ++ date ++ ", " ++ toString hour ++ ", " ++ toString minute ++
      (if second = 0 && micros = 0 then "" else ", " ++ toString second) ++
      (if micros = 0 then "" else ", " ++ toString micros) ++ offsetLiteral moment.offset ++ ")"

end Moment

namespace Tag

/-- The type that a spelling stands for. -/
def ofWord (text : String) : Tag :=
  let chars := text.toList
  if spellsNull text then null
  else if spellsBool text then bool
  else if spellsFloat chars then float
  else if spellsInt chars then int
  else if text == "<<" then merge
  else if text == "=" then default
  else if spellsDate chars then timestamp
  else
    match Moment.ofChars? chars with
    | some moment => if moment.time.isSome then timestamp else .text
    | none => .text

/-- The type of a plain scalar. -/
def ofSpelling : HostText → Tag
  | .whole word => ofWord word
  | .broken _ => .text

end Tag
end Yaml
end PolicyHost
