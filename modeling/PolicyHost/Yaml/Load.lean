import PolicyHost.Number.Double
import PolicyHost.Text.Base64
import PolicyHost.Text.Numeral
import PolicyHost.Value
import PolicyHost.Yaml.Node

namespace PolicyHost
namespace Yaml

/-!
# Values of YAML documents

A node becomes a value according to its type.  A tag can ask for a type that
the text of a scalar does not spell, and then reading the scalar fails in a
way of its own.
-/

namespace Load

def intOf (base : Nat) (chars : List Char) : Except Failure Int :=
  match Numeral.int? base chars with
  | some n => .ok n
  | none => .error .impossible

/-- Split at colons. -/
def groups (chars : List Char) : List (List Char) :=
  (String.ofList chars).splitOn ":" |>.map String.toList

/-- An integer in the notations of YAML. -/
def int (text : String) : Except Failure Int := do
  let chars := text.toList.filter (· != '_')
  if chars.isEmpty then .error .emptyNumber
  else
    let (negative, chars) := Numeral.splitSign chars
    let n ← match chars with
      | ['0'] => .ok 0
      | '0' :: 'b' :: rest => intOf 2 rest
      | '0' :: 'x' :: rest => intOf 16 rest
      | '0' :: _ => intOf 8 chars
      | [] => .error .emptyNumber
      | _ =>
        if chars.contains ':' then
          (groups chars).foldlM (fun n group => do return n * 60 + (← intOf 10 group)) 0
        else intOf 10 chars
    return if negative then -n else n

/-- A double in decimal or by its name. -/
def double? (chars : List Char) : Option Double :=
  let trimmed := Characters.trim Characters.isBlank (chars.map Characters.asciiDigit)
  let (negative, chars) := Numeral.splitSign trimmed
  let word := String.ofList chars
  if word == "inf" || word == "infinity" then some (.infinite negative)
  else if word == "nan" then some .nan
  else
    let whole := chars.takeWhile Char.isDigit
    let (fraction, rest) := match chars.dropWhile Char.isDigit with
      | '.' :: rest => (rest.takeWhile Char.isDigit, rest.dropWhile Char.isDigit)
      | rest => ([], rest)
    let exponent? : Option Int := match rest with
      | [] => some 0
      | 'e' :: rest =>
        let (down, digits) := Numeral.splitSign rest
        if Tag.allOf Char.isDigit digits then
          let n : Int := Characters.ofDigits 10 digits
          some (if down then -n else n)
        else none
      | _ => none
    if whole.isEmpty && fraction.isEmpty then none
    else exponent?.map fun e =>
      Double.ofDecimal negative (Characters.ofDigits 10 (whole ++ fraction)) (e - fraction.length)

/-- The sum of groups to the base sixty, of which the first is worth `worth`
and the others follow it upwards. -/
def sixties (sum : Double) (worth : Nat) : List Double → Except Failure Double
  | [] => .ok sum
  | group :: rest =>
    match Double.ofInt worth with
    | .infinite _ => .error .boundless
    | factor => sixties (sum.add (group.mul factor)) (worth * 60) rest

/-- A number with a point and without a sign, in the notations of YAML. -/
def unsignedFloat (chars : List Char) : Except Failure Double :=
  if String.ofList chars == ".inf" then .ok (.infinite false)
  else if String.ofList chars == ".nan" then .ok .nan
  else if chars.contains ':' then
    match (groups chars).mapM double? with
    | none => .error .impossible
    | some found => sixties .zero 1 found.reverse
  else
    match double? chars with
    | none => .error .impossible
    | some x => .ok x

/-- A number with a point, in the notations of YAML. -/
def float (text : String) : Except Failure Double :=
  let chars := (text.toList.filter (· != '_')).map Char.toLower
  match chars with
  | [] => .error .emptyNumber
  | _ =>
    let (negative, chars) := Numeral.splitSign chars
    (unsignedFloat chars).map fun x => if negative then x.negate else x

/-- A truth value. -/
def bool (text : String) : Except Failure Bool :=
  let word := Characters.lowerAscii text
  if ["yes", "true", "on"].contains word then .ok true
  else if ["no", "false", "off"].contains word then .ok false
  else .error .unknownWord

/-- A point in time. -/
def moment (text : String) : Except Failure Value :=
  match Moment.ofChars? text.toList with
  | none => .error .noMoment
  | some found => if found.exists_ then .ok (.moment found.literal) else .error .impossible

/-- The value of a scalar whose text has a UTF-8 form. -/
def whole (tag : Tag) (text : String) : Except Failure Value :=
  match tag with
  | .null => .ok .null
  | .bool => (bool text).map .bool
  | .int => (int text).map .int
  | .float => (float text).map .float
  | .timestamp => moment text
  | .text => .ok (.text text)
  | .binary =>
    match text.toList.all fun c => c.toNat < 0x80, Base64.decode text.toList with
    | true, some b => .ok (.bytes b)
    | _, _ => .error .malformed
  | _ => .error .malformed

/-- The value of a scalar whose text has none.  Such a text spells nothing. -/
def broken (tag : Tag) (text : Unencodable) : Except Failure Value :=
  match tag with
  | .null => .ok .null
  | .bool => .error .unknownWord
  | .int | .float => .error .impossible
  | .timestamp => .error .noMoment
  | .text => .ok (.unencodable text)
  | _ => .error .malformed

def scalar (tag : Tag) : HostText → Except Failure Value
  | .whole text => whole tag text
  | .broken text => broken tag text

/-!
## Nodes

Collections are filled level by level, the root first.  So of several
failures in one document the one that lies least deep is reported, and of
those at one depth the first.
-/

/-- A result, or a failure and how many collections below it lies. -/
abbrev Outcome (α : Type) := Except (Nat × Failure) α

namespace Outcome

/-- A failure that lies no deeper. -/
def fails {α : Type} (failure : Failure) : Outcome α := .error (0, failure)

/-- What lies in a collection. -/
def within {α : Type} (outcome : Outcome α) : Outcome α :=
  outcome.mapError fun e => (e.1 + 1, e.2)

/-- Two results, or the failure that counts. -/
def both {α β : Type} : Outcome α → Outcome β → Outcome (α × β)
  | .ok a, .ok b => .ok (a, b)
  | .ok _, .error f => .error f
  | .error e, .ok _ => .error e
  | .error e, .error f => .error (if f.1 < e.1 then f else e)

/-- A list with one more element in front. -/
def cons {α : Type} (first : Outcome α) (rest : Outcome (List α)) : Outcome (List α) :=
  (both first rest).map fun found => found.1 :: found.2

def append {α : Type} (first second : Outcome (List α)) : Outcome (List α) :=
  (both first second).map fun found => found.1 ++ found.2

end Outcome

def tagOf : Node → Tag
  | .scalar tag _ => tag
  | .sequence tag _ => tag
  | .mapping tag _ => tag
  | .inside => .unknown

/-- The types that are collections.  No collection may be a key. -/
def isCollection (tag : Tag) : Bool :=
  [.sequence, .mapping, .set, .orderedMapping, .pairs].contains tag

mutual

/-- The text of a node that should be a scalar.  A mapping stands for its
default value. -/
def text? : Node → Option HostText
  | .scalar _ text => some text
  | .mapping _ items => defaultText? items
  | .sequence _ _ => none
  | .inside => none

def defaultText? : List (Node × Node) → Option HostText
  | [] => none
  | (k, v) :: rest => if tagOf k == .default then text? v else defaultText? rest

end

def scalarNode (tag : Tag) (node : Node) : Outcome Value :=
  match text? node with
  | some text => (scalar tag text).mapError fun failure => (0, failure)
  | none => .fails .malformed

/-- What a mapping holds: whether all it merges are mappings, the entries it
takes over from those, and its own. -/
structure Entries where
  mergeable : Bool
  taken : Outcome (List (Value × Value))
  own : Outcome (List (Value × Value))

namespace Entries

def empty : Entries := ⟨true, .ok [], .ok []⟩

/-- Something merged that is no mapping. -/
def unmergeable : Entries := ⟨false, .ok [], .ok []⟩

/-- All entries, those taken over first. -/
def all (entries : Entries) : Outcome (List (Value × Value)) :=
  if entries.mergeable then entries.taken.append entries.own else .fails .malformed

/-- Take over the entries of a mapping in front. -/
def merge (other entries : Entries) : Entries :=
  { entries with
    mergeable := other.mergeable && entries.mergeable
    taken := (other.taken.append other.own).append entries.taken }

/-- Take over the entries of a mapping at the end. -/
def mergeLast (other entries : Entries) : Entries :=
  { entries with
    mergeable := other.mergeable && entries.mergeable
    taken := entries.taken.append (other.taken.append other.own) }

end Entries

mutual

def value : Node → Outcome Value
  | .scalar tag text =>
    if isCollection tag then (Outcome.fails .malformed).within
    else scalarNode tag (.scalar tag text)
  | .sequence tag items =>
    match tag with
    | .sequence => (values items).within.map .list
    | .orderedMapping | .pairs => (pairs items).within.map .list
    | .mapping | .set => (Outcome.fails .malformed).within
    | _ => .fails .malformed
  | .mapping tag items =>
    match tag with
    | .mapping => (entries items).all.within.map Value.ofEntries
    | .set => (entries items).all.within.map fun found => Value.ofElements (found.map (·.1))
    | .sequence | .orderedMapping | .pairs => (Outcome.fails .malformed).within
    | tag => scalarNode tag (.mapping tag items)
  | .inside => .ok (.foreign "collection")

def values : List Node → Outcome (List Value)
  | [] => .ok []
  | node :: rest => (value node).cons (values rest)

def key : Node → Outcome Value
  | .scalar tag text =>
    if isCollection tag then .fails .malformed
    else scalarNode (if tag = .default then .text else tag) (.scalar tag text)
  | .sequence _ _ => .fails .malformed
  | .mapping tag items =>
    if isCollection tag then .fails .malformed
    else scalarNode (if tag = .default then .text else tag) (.mapping tag items)
  | .inside => .fails .malformed

def entries : List (Node × Node) → Entries
  | [] => .empty
  | (k, v) :: rest =>
    let others := entries rest
    if tagOf k = .merge then (merged v).merge others
    else
      { others with own := (Outcome.both (key k) (value v)).cons others.own }

/-- The entries of a mapping to take over, or of several of which the first
counts most. -/
def merged : Node → Entries
  | .mapping _ items => entries items
  | .sequence _ items => mergedAll items
  | .inside => .empty
  | .scalar _ _ => .unmergeable

/-- The entries of several mappings, those of the first at the end. -/
def mergedAll : List Node → Entries
  | [] => .empty
  | .mapping _ items :: rest => (entries items).mergeLast (mergedAll rest)
  | .inside :: rest => mergedAll rest
  | _ :: _ => .unmergeable

def pairs : List Node → Outcome (List Value)
  | [] => .ok []
  | .mapping _ [(k, v)] :: rest =>
    let pair := (Outcome.both (value k) (value v)).map fun found => Value.tuple [found.1, found.2]
    Outcome.cons pair (pairs rest)
  | _ :: _ => .fails .malformed

end

end Load

/-- How many collections a reader has room for inside each other by
default. -/
def standardRoom : Nat := 470

/-- The value of a text, for a reader with so much room on its stack.  A text
without a document is null. -/
def read (room : Nat) : HostText → Except Failure Value
  | .broken _ => .error .malformed
  | .whole text => do
    match ← Node.ofTokens room (Layout.tokensOf text.toList) with
    | some node => (Load.value node).mapError (·.2)
    | none => return .null

/-- What reads YAML texts. -/
abbrev Loader := HostText → Except Failure Value

/-- The reader with the default room. -/
def load : Loader := read standardRoom

end Yaml
end PolicyHost
