import PolicyHost.Schema.Fit

namespace PolicyHost
namespace Lenient

/-!
# Lenient checking of host values

Callers hand over ordinary values, and a value that plainly means the right
thing is converted: the text of a number, a boolean as zero or one, a tuple
for a list.  Nothing is converted to text except UTF-8 bytes.

The names in documents are checked leniently as well where they stand for
mapping keys.
-/

/-- A number in decimal without exponent or sign. -/
def isDigits (chars : List Char) : Bool :=
  !chars.isEmpty && chars.all Char.isDigit

/-- Remove single underscores between other characters. -/
def dropUnderscores (chars : List Char) : Option (List Char) :=
  if chars.head? == some '_' || chars.getLast? == some '_' then none
  else if (chars.zip chars.tail).any fun pair => pair == ('_', '_') then none
  else some (chars.filter (· != '_'))

/-- What is left of a numeral after its leading zeros, if there is anything
but zeros. -/
def dropZeros : List Char → Option (List Char)
  | '0' :: rest =>
    let dropped := '0' :: rest.takeWhile fun c => c == '0' || c == '_'
    match rest.dropWhile fun c => c == '0' || c == '_' with
    | [] => dropped.getLast?.map fun last => [last]
    | c :: more =>
      if '1' ≤ c && c ≤ '9' then some (c :: more)
      else if c == '.' then dropped.getLast?.map fun last => last :: c :: more
      else none
  | c :: rest => if ('1' ≤ c && c ≤ '9') || c == '-' then some (c :: rest) else none
  | [] => none

/-- A numeral without a fraction of zeros. -/
def dropFraction (chars : List Char) : List Char :=
  let fraction := chars.dropWhile (· != '.')
  if !fraction.isEmpty && fraction.tail.all (· == '0') then chars.takeWhile (· != '.') else chars

/-- The integer a text stands for. -/
def intOfChars (chars : List Char) : Except Complaint Int :=
  let trimmed := Characters.trim Characters.isSpace chars
  let unsigned := match trimmed with
    | '+' :: rest => rest
    | all => all
  match (dropZeros unsigned).bind fun digits => dropUnderscores (dropFraction digits) with
  | none => .error .unclearInt
  | some digits =>
    if 4300 < digits.length then .error .oversizedInt
    else
      let (negative, digits) := match digits with
        | '-' :: rest => (true, rest)
        | all => (false, all)
      if !isDigits digits || (digits.length != 1 && digits.head? == some '0') then
        .error .unclearInt
      else
        let n : Int := Characters.ofDigits 10 digits
        .ok (if negative then -n else n)

/-- The integer a double stands for. -/
def intOfFloat (x : Double) : Except Complaint Int :=
  match x with
  | .nan | .infinite _ => .error .notFinite
  | x =>
    match x.toInt? with
    | none => .error .fractional
    | some n => if n.natAbs < 2 ^ 63 then .ok n else .error .oversizedInt

/-- The boolean a text stands for. -/
def boolOfText (text : String) : Except Complaint Bool :=
  let word := Characters.lowerAscii text
  if ["0", "off", "f", "false", "n", "no"].contains word then .ok false
  else if ["1", "on", "t", "true", "y", "yes"].contains word then .ok true
  else .error .unclearBool

/-- A decimal numeral with an optional fraction and exponent, without its
sign. -/
def unsignedFloat? (negative : Bool) (chars : List Char) : Option Double :=
  let word := Characters.lowerAscii (String.ofList chars)
  if word == "inf" || word == "infinity" then some (.infinite negative)
  else if word == "nan" then some .nan
  else
    let whole := chars.takeWhile Char.isDigit
    let rest := chars.dropWhile Char.isDigit
    let (fraction, rest) := match rest with
      | '.' :: more => (more.takeWhile Char.isDigit, more.dropWhile Char.isDigit)
      | more => ([], more)
    let exponent : Option Int := match rest with
      | [] => some 0
      | e :: more =>
        if e == 'e' || e == 'E' then
          let (down, more) := match more with
            | '-' :: r => (true, r)
            | '+' :: r => (false, r)
            | r => (false, r)
          if isDigits more then
            let n : Int := Characters.ofDigits 10 more
            some (if down then -n else n)
          else none
        else none
    if whole.isEmpty && fraction.isEmpty then none
    else exponent.map fun e =>
      Double.ofDecimal negative (Characters.ofDigits 10 (whole ++ fraction)) (e - fraction.length)

/-- A decimal numeral. -/
def plainFloat? (chars : List Char) : Option Double :=
  match chars with
  | '-' :: rest => unsignedFloat? true rest
  | '+' :: rest => unsignedFloat? false rest
  | rest => unsignedFloat? false rest

/-- The double a text stands for. -/
def floatOfChars (chars : List Char) : Except Complaint Double :=
  match plainFloat? (Characters.trim Characters.isSpace chars) with
  | some x => .ok x
  | none =>
    match (dropUnderscores chars).bind plainFloat? with
    | some x => .ok x
    | none => .error .unclearFloat

/-- An outcome of a conversion. -/
def converted {α : Type} (toValue : α → Value) : Except Complaint α → Checked Value
  | .ok x => .fits (toValue x) .converted
  | .error complaint => .fails complaint

def checkBool : Value → Checked Value
  | .bool b => .fits (.bool b)
  | .int n =>
    if n = 0 then .fits (.bool false) .converted
    else if n = 1 then .fits (.bool true) .converted
    else if Schema.isWord n then .fails .unclearBool
    else .fails .notBool
  | .float x =>
    match intOfFloat x with
    | .ok 0 => .fits (.bool false) .converted
    | .ok 1 => .fits (.bool true) .converted
    | .ok _ => .fails .unclearBool
    | .error _ => .fails .notBool
  | .text s => converted .bool (boolOfText s)
  | .bytes b =>
    match Utf8.decodeText b with
    | some s => converted .bool (boolOfText s)
    | none => .fails .unclearBool
  | .unencodable _ => .fails .notUtf8
  | _ => .fails .notBool

def checkInt : Value → Checked Value
  | .int n => .fits (.int n)
  | .bool b => .fits (.int (if b then 1 else 0)) .converted
  | .float x => converted .int (intOfFloat x)
  | .text s => converted .int (intOfChars s.toList)
  | .bytes b =>
    match Utf8.decode b with
    | some chars => converted .int (intOfChars chars)
    | none => .fails .unclearInt
  | .unencodable _ => .fails .notUtf8
  | _ => .fails .notInt

def checkFloat : Value → Checked Value
  | .float x => .fits (.float x)
  | .bool b => .fits (.float (Double.ofInt (if b then 1 else 0))) .converted
  | .int n =>
    match Double.ofInt n with
    | .infinite _ => .fails .notFloat
    | x => .fits (.float x) .close
  | .text s => converted .float (floatOfChars s.toList)
  | .bytes b =>
    match Utf8.decode b with
    | some chars => converted .float (floatOfChars chars)
    | none => .fails .unclearFloat
  | .unencodable _ => .fails .notUtf8
  | _ => .fails .notFloat

def checkText : Value → Checked Value
  | .text s => .fits (.text s)
  | .unencodable t => .fits (.unencodable t)
  | .bytes b =>
    match Utf8.decodeText b with
    | some s => .fits (.text s) .converted
    | none => .fails .notUtf8
  | _ => .fails .notText

def checkBytes : Value → Checked Value
  | .bytes b => .fits (.bytes b)
  | .text s => .fits (.bytes (Utf8.encode s)) .converted
  | .unencodable _ => .fails .notUtf8
  | _ => .fails .notBytes

/-- The elements of a value that stands for a collection.  `own` tells which
kind of collection fits exactly. -/
def elements? (own : Value → Bool) (v : Value) : Option (Exactness × List Value) :=
  let exactness := if own v then .exact else .converted
  match v with
  | .list items | .tuple items | .set items => some (exactness, items)
  | _ => none

/-- How a key is shown in the place of an issue. -/
def keyStep : Value → String
  | .text s => s
  | .unencodable t => t.lossy
  | .bool b => if b then "1" else "0"
  | v => Literal.ofValue v

/-- The index of a value in the place of an issue. -/
def indexed {α : Type} (outcomes : List (Checked α)) : List (Checked α) :=
  outcomes.mapIdx fun i outcome => outcome.within (toString i)

def textEntries (entries : List (Value × Value)) : List (String × Value) :=
  entries.filterMap fun e =>
    match e.1 with
    | .text s => some (s, e.2)
    | _ => none

def valueOf? (entries : List (Value × Value)) (name : String) : Option Value :=
  ((textEntries entries).find? fun e => e.1 == name).map (·.2)

/-- Whether some key is a text without a UTF-8 form. -/
def hasUnencodableKey (entries : List (Value × Value)) : Bool :=
  entries.any fun e => e.1 matches .unencodable _

/-- The entries of a mapping that are not fields of a model. -/
def extraEntries (names : List String) (extras : Extras) (entries : List (Value × Value)) :
    Checked (List (String × Value)) :=
  (Checked.all (entries.map fun e =>
    match e.1 with
    | .text s =>
      if names.contains s then .fits []
      else match extras with
        | .ignore => .fits []
        | .forbid => (Checked.fails .extra).within s
        | .keep => .fits [(s, e.2)]
    | key => match extras with
      | .ignore => .fits []
      | _ => (Checked.fails .keyNotText).within (keyStep key))).mapValue List.flatten

mutual

def check : Schema → Value → Checked Value
  | .any, v => .fits v .close
  | .bool, v => checkBool v
  | .int, v => checkInt v
  | .float, v => checkFloat v
  | .text, v => checkText v
  | .bytes, v => checkBytes v
  | .null, .null => .fits .null
  | .null, _ => .fails .notNull
  | .identifier, _ => .fails .notIdentifier
  | .anyList, v =>
    match elements? (fun v => v matches .list _) v with
    | some (exactness, items) => .fits (.list items) exactness
    | none => .fails .notList
  | .anyMapping, .mapping entries => .fits (.mapping entries) .close
  | .anyMapping, _ => .fails .notMapping
  | .list item, v =>
    match elements? (fun v => v matches .list _) v with
    | some (exactness, items) =>
      (((Checked.all (indexed (items.map (check item)))).mapValue .list).unlessAny item).atMost
        exactness
    | none => .fails .notList
  | .set item, v =>
    match elements? (fun v => v matches .set _) v with
    | some (exactness, items) =>
      ((Checked.all (indexed (items.map (check item)))).mapValue Value.ofElements).atMost exactness
    | none => .fails .notSet
  | .sequence item, v =>
    match elements? (fun v => v matches .tuple _) v with
    | some (exactness, items) =>
      ((Checked.all (indexed (items.map (check item)))).mapValue .tuple).atMost exactness
    | none => .fails .notTuple
  | .tuple schemas, v =>
    match elements? (fun v => v matches .tuple _) v with
    | some (exactness, items) =>
      if schemas.length < items.length then .fails (.tooLong schemas.length items.length)
      else ((Checked.all (indexed (checkTuple schemas items))).mapValue .tuple).atMost exactness
    | none => .fails .notTuple
  | .mapping key value, .mapping entries =>
    (Checked.all (entries.map fun e =>
      Checked.both Prod.mk (((check key e.1).within "[key]").within (keyStep e.1))
        ((check value e.2).within (keyStep e.1)))).mapValue Value.ofEntries
  | .mapping _ _, _ => .fails .notMapping
  | .literal choices, v =>
    if v matches .unencodable _ && choices.any fun choice => choice matches .text _ then
      .fails .notUtf8
    else
      match Schema.literalFor choices v with
      | some choice => .fits choice
      | none => .fails (.notLiteral choices)
  | .choice _ orNull members, v =>
    if orNull && v matches .null then .fits .null
    else Checked.ofMembers (checkMembers members v)
  | .model name fields extras, .mapping entries =>
    -- Such a key ends the reading of a model that looks at all keys, whatever was found before.
    if extras != .ignore && hasUnencodableKey entries then .fails .notUtf8
    else
      let named := textEntries entries
      let names := fields.map (·.1)
      let given := (names.filter fun n => named.any fun e => e.1 == n).length
      Checked.atMost .converted <|
        Checked.both
          (fun found kept => Value.record .model name found kept)
          ((Checked.all (checkFields fields named)).withGiven given)
          (extraEntries names extras entries)
  | .model name _ _, _ => .fails (.notModel name)
  | .refined rule base, v => rule.applyTo (check base v)

/-- Check the elements of a tuple.  Elements that are not there are
missing. -/
def checkTuple : List Schema → List Value → List (Checked Value)
  | [], _ => []
  | s :: ss, v :: vs => check s v :: checkTuple ss vs
  | _ :: ss, [] => .fails .missing :: checkTuple ss []

def checkFields : List (String × Schema × Option Value) → List (String × Value) →
    List (Checked (String × Value))
  | [], _ => []
  | (name, schema, standard) :: rest, entries =>
    let outcome := match entries.find? fun e => e.1 == name with
      | some e => (check schema e.2).within name
      | none => match standard with
        | some v => .fits v
        | none => (Checked.fails .missing).within name
    outcome.mapValue (fun v => (name, v)) :: checkFields rest entries

def checkMembers : List Schema → Value → List (String × Checked Value)
  | [], _ => []
  | s :: ss, v => (s.label, check s v) :: checkMembers ss v

end

end Lenient
end PolicyHost
