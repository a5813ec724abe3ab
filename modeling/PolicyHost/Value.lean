import PolicyHost.Number.Double
import PolicyHost.Text.Unencodable

namespace PolicyHost

/-!
# Host values

A caller hands the host ordinary data: documents, but also byte strings,
tuples, sets, mappings with keys of any kind, and records.  A value keeps the
order in which a mapping or a record lists its entries.
-/

/-- What kind of record a value is.  A model may carry fields beyond its
declared ones; a plain record has exactly the declared ones. -/
inductive RecordKind where
  | model
  | plain
deriving DecidableEq, Repr

/-- A host value.  A moment is a date or a point in time, told by its literal,
and `foreign` stands for an object without a document form. -/
inductive Value where
  | null
  | bool (b : Bool)
  | int (n : Int)
  | float (x : Double)
  | text (s : String)
  | unencodable (t : Unencodable)
  | bytes (b : Bytes)
  | list (items : List Value)
  | tuple (items : List Value)
  | set (items : List Value)
  | mapping (entries : List (Value × Value))
  | record (kind : RecordKind) (name : String) (fields extras : List (String × Value))
  | moment (literal : String)
  | foreign (name : String)
deriving Inhabited

namespace Value

/-- The name of a value's type, as messages about it use it. -/
def typeName : Value → String
  | .null => "NoneType"
  | .bool _ => "bool"
  | .int _ => "int"
  | .float _ => "float"
  | .text _ | .unencodable _ => "str"
  | .bytes _ => "bytes"
  | .list _ => "list"
  | .tuple _ => "tuple"
  | .set _ => "set"
  | .mapping _ => "dict"
  | .record _ name _ _ => name
  | .moment _ => "datetime"
  | .foreign name => name

/-- The double or integer a value stands for in comparisons: booleans count
as zero and one. -/
def number? : Value → Option (Int ⊕ Double)
  | .bool b => some (.inl (if b then 1 else 0))
  | .int n => some (.inl n)
  | .float x => some (.inr x)
  | _ => none

/-- Numeric equality across integers and doubles. -/
def sameNumber : Int ⊕ Double → Int ⊕ Double → Bool
  | .inl n, .inl m => n == m
  | .inr x, .inr y => x.same y
  | .inl n, .inr x | .inr x, .inl n => x.toInt? == some n

mutual

/-- Equality as the host's collections see it: numbers are compared by value
whatever their type, sets and mappings without regard to order. -/
def same : Value → Value → Bool
  | .null, .null => true
  | .text s, .text t => s == t
  | .unencodable s, .unencodable t => s == t
  | .bytes b, .bytes c => b == c
  | .moment l, .moment m => l == m
  | .list xs, .list ys => sameAll xs ys
  | .tuple xs, .tuple ys => sameAll xs ys
  | .set xs, .set ys => xs.length == ys.length && allAmong xs ys
  | .mapping xs, .mapping ys => xs.length == ys.length && allEntriesAmong xs ys
  | .record k n fs es, .record k' n' fs' es' =>
    k == k' && n == n' && sameFields fs fs' && es.length == es'.length && allFieldsAmong es es'
  | .bool b, y => sameAsNumber (.inl (if b then 1 else 0)) y
  | .int n, y => sameAsNumber (.inl n) y
  | .float x, y => sameAsNumber (.inr x) y
  | _, _ => false
where
  sameAsNumber (x : Int ⊕ Double) (y : Value) : Bool :=
    match y.number? with
    | some y => sameNumber x y
    | none => false

/-- Equality of two sequences. -/
def sameAll : List Value → List Value → Bool
  | [], [] => true
  | x :: xs, y :: ys => same x y && sameAll xs ys
  | _, _ => false

/-- Every element of the first list equals one of the second. -/
def allAmong : List Value → List Value → Bool
  | [], _ => true
  | x :: xs, ys => ys.any (same x) && allAmong xs ys

/-- Every entry of the first mapping equals one of the second. -/
def allEntriesAmong : List (Value × Value) → List (Value × Value) → Bool
  | [], _ => true
  | (k, v) :: xs, ys => ys.any (fun e => same k e.1 && same v e.2) && allEntriesAmong xs ys

/-- Equality of declared fields, which are in order. -/
def sameFields : List (String × Value) → List (String × Value) → Bool
  | [], [] => true
  | (n, x) :: xs, (m, y) :: ys => n == m && same x y && sameFields xs ys
  | _, _ => false

/-- Every extra field of the first record equals one of the second. -/
def allFieldsAmong : List (String × Value) → List (String × Value) → Bool
  | [], _ => true
  | (n, x) :: xs, ys => ys.any (fun e => n == e.1 && same x e.2) && allFieldsAmong xs ys

end

/-- Store an entry.  An equal key keeps its place and its own spelling and
takes the new value; a new key goes to the end. -/
def insertEntry (entries : List (Value × Value)) (key value : Value) : List (Value × Value) :=
  if entries.any (fun e => e.1.same key) then
    entries.map (fun e => if e.1.same key then (e.1, value) else e)
  else entries ++ [(key, value)]

/-- A mapping from entries in the order they were stored. -/
def ofEntries (entries : List (Value × Value)) : Value :=
  .mapping (entries.foldl (fun stored e => insertEntry stored e.1 e.2) [])

/-- A set of the given elements, each kept once. -/
def ofElements (items : List Value) : Value :=
  .set (items.foldl (fun kept x => if kept.any (same x) then kept else kept ++ [x]) [])

/-- A mapping whose keys are texts. -/
def object (fields : List (String × Value)) : Value :=
  .mapping (fields.map fun f => (.text f.1, f.2))

def field (name : String) : Value → Value
  | .record _ _ fields _ => ((fields.find? fun f => f.1 == name).map (·.2)).getD .null
  | _ => .null

def ofText : HostText → Value
  | .whole s => .text s
  | .broken t => .unencodable t

def text? : Value → Option String
  | .text s => some s
  | _ => none

/-- The text that a value is, with a UTF-8 form or without. -/
def hostText? : Value → Option HostText
  | .text s => some (.whole s)
  | .unencodable t => some (.broken t)
  | _ => none

def items : Value → List Value
  | .list items => items
  | _ => []

/-- Whether a value counts as empty: null, false, zero, and collections and
texts without content. -/
def isFalsy : Value → Bool
  | .null => true
  | .bool b => !b
  | .int n => n == 0
  | .float (.finite _ m _) => m == 0
  | .text s => s.isEmpty
  | .bytes b => b.isEmpty
  | .list xs | .tuple xs | .set xs => xs.isEmpty
  | .mapping es => es.isEmpty
  | _ => false

end Value
end PolicyHost
