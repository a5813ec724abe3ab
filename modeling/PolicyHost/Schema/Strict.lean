import PolicyHost.Json.Read
import PolicyHost.Schema.Lenient

namespace PolicyHost
namespace Strict

/-!
# Strict checking of documents

What comes out of a guest or over the network has to have the right type
already: no number is read from a text, no boolean is a number.  An integer
may stand for a double, an array for a set or a tuple, and the names of an
object for mapping keys of another type, since JSON has no other way to write
those.
-/

/-- A unique identifier in lower case with hyphens, of 32 digits. -/
def hyphenate (digits : List Char) : String :=
  let part (start count : Nat) : String := String.ofList ((digits.drop start).take count)
  "-".intercalate [part 0 8, part 8 4, part 12 4, part 16 4, part 20 12]

/-- The digits of a hyphenated identifier. -/
def unhyphenate (chars : List Char) : Option (List Char) :=
  let isHyphen (i : Nat) : Bool := i == 8 || i == 13 || i == 18 || i == 23
  if chars.length == 36 &&
      (chars.mapIdx fun i c => isHyphen i == (c == '-')).all id then
    some (chars.filter (· != '-'))
  else none

/-- The identifier a text stands for: 32 digits, the hyphenated form, or that
form in braces or as a name. -/
def identifier? (text : String) : Option String :=
  let chars := Characters.lowerAscii text |>.toList
  let digits := match text.toList.length with
    | 32 => some chars
    | 36 => unhyphenate chars
    | 38 =>
      if chars.head? == some '\x7b' && chars.getLast? == some '\x7d' then
        unhyphenate ((chars.drop 1).take 36)
      else none
    | 45 => if text.startsWith "urn:uuid:" then unhyphenate (chars.drop 9) else none
    | _ => none
  match digits with
  | some digits =>
    if digits.all fun c => (Characters.digit? c).isSome then some (hyphenate digits) else none
  | none => none

def extraMembers (names : List String) (extras : Extras) (members : List (String × Document)) :
    Checked (List (String × Value)) :=
  (Checked.all (members.map fun m =>
    if names.contains m.1 then .fits []
    else match extras with
      | .ignore => .fits []
      | .forbid => (Checked.fails .extra).within m.1
      | .keep => .fits [(m.1, m.2.value)])).mapValue fun kept => Document.settle kept.flatten

mutual

def check : Schema → Document → Checked Value
  | .any, d => .fits d.value .close
  | .bool, .bool b => .fits (.bool b)
  | .bool, _ => .fails .notBool
  | .int, .int n => .fits (.int n)
  | .int, _ => .fails .notInt
  | .float, .float x => .fits (.float x)
  | .float, .int n => .fits (.float (Double.ofInt n)) .close
  | .float, _ => .fails .notFloat
  | .text, .text s => .fits (.text s) .close
  | .text, _ => .fails .notText
  | .bytes, .text s => .fits (.bytes (Utf8.encode s)) .close
  | .bytes, _ => .fails .notBytes
  | .null, .null => .fits .null
  | .null, _ => .fails .notNull
  | .identifier, .text s =>
    match identifier? s with
    | some id => .fits (.text id) .close
    | none => .fails .unclearIdentifier
  | .identifier, _ => .fails .notIdentifier
  | .anyList, .array items => .fits (.list (Document.values items))
  | .anyList, _ => .fails .notList
  | .anyMapping, .object members => .fits (Document.object members).value .close
  | .anyMapping, _ => .fails .notMapping
  | .list item, .array items =>
    ((Checked.all (Lenient.indexed (items.map (check item)))).mapValue .list).unlessAny item
  | .list _, _ => .fails .notList
  | .set item, .array items =>
    ((Checked.all (Lenient.indexed (items.map (check item)))).mapValue Value.ofElements).atMost
      .close
  | .set _, _ => .fails .notSet
  | .sequence item, .array items =>
    ((Checked.all (Lenient.indexed (items.map (check item)))).mapValue .tuple).atMost .close
  | .sequence _, _ => .fails .notTuple
  | .tuple schemas, .array items =>
    if schemas.length < items.length then .fails (.tooLong schemas.length items.length)
    else
      ((Checked.all (Lenient.indexed (checkTuple schemas items))).mapValue .tuple).atMost .close
  | .tuple _, _ => .fails .notTuple
  | .mapping key value, .object members =>
    (Checked.all (members.map fun m =>
      Checked.both Prod.mk
        ((((Lenient.check key (.text m.1)).atMost .close).within "[key]").within m.1)
        ((check value m.2).within m.1))).mapValue Value.ofEntries
  | .mapping _ _, _ => .fails .notMapping
  | .literal choices, d =>
    match Schema.literalFor choices d.value with
    | some choice => .fits choice
    | none => .fails (.notLiteral choices)
  | .choice _ orNull members, d =>
    if orNull && d matches .null then .fits .null
    else Checked.ofMembers (checkMembers members d)
  | .model name fields extras, .object members =>
    let names := fields.map (·.1)
    let given := (names.filter fun n => members.any fun m => m.1 == n).length
    Checked.atMost .converted <|
      Checked.both
        (fun found kept => Value.record .model name found kept)
        ((Checked.all (checkFields fields members)).withGiven given)
        (extraMembers names extras members)
  | .model name _ _, _ => .fails (.notModel name)
  | .refined rule base, d => rule.applyTo (check base d)

/-- Check the elements of a tuple.  Elements that are not there are
missing. -/
def checkTuple : List Schema → List Document → List (Checked Value)
  | [], _ => []
  | s :: ss, d :: ds => check s d :: checkTuple ss ds
  | _ :: ss, [] => .fails .missing :: checkTuple ss []

/-- Check the fields of a model.  Of members with one name the last
counts. -/
def checkFields : List (String × Schema × Option Value) → List (String × Document) →
    List (Checked (String × Value))
  | [], _ => []
  | (name, schema, standard) :: rest, members =>
    let outcome := match members.reverse.find? fun m => m.1 == name with
      | some m => (check schema m.2).within name
      | none => match standard with
        | some v => .fits v
        | none => (Checked.fails .missing).within name
    outcome.mapValue (fun v => (name, v)) :: checkFields rest members

def checkMembers : List Schema → Document → List (String × Checked Value)
  | [], _ => []
  | s :: ss, d => (s.label, check s d) :: checkMembers ss d

end

def validate (schema : Schema) (document : Document) : Except (List Issue) Value :=
  match check schema document with
  | .ok fit => .ok fit.value
  | .error issues => .error issues

/-- Check the document that bytes denote. -/
def validateBytes (schema : Schema) (bytes : Bytes) : Except (List Issue) Value :=
  match Json.read bytes with
  | none => .error [.here .notJson]
  | some document => validate schema document

end Strict
end PolicyHost
