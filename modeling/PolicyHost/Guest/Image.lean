import PolicyHost.Guest.Policy
import PolicyHost.Json.Read
import PolicyHost.Json.Write

namespace PolicyHost

/-!
# Module images

The engine is given a module as an image.  A binary image is the header of
the binary format and then the policy as a JSON document; without a policy it
is a module that exports nothing.  A text image has the policy between the
parentheses of a module.  An image that was compiled ahead has a header of
its own, and only the engine makes those.
-/

namespace Image

def member? (name : String) : Document → Option Document
  | .object members => (members.reverse.find? fun m => m.1 == name).map (·.2)
  | _ => none

/-- A member that is there and not null. -/
def given? (name : String) (document : Document) : Option Document :=
  match member? name document with
  | some .null => none
  | found => found

def elements : Document → List Document
  | .array items => items
  | _ => []

/-- The elements of an array that is a member. -/
def elementsOf (name : String) (document : Document) : List Document :=
  ((member? name document).map elements).getD []

/-- An integer. -/
def int? : Document → Option Int
  | .int n => some n
  | .bool b => some (if b then 1 else 0)
  | _ => none

def text? : Document → Option String
  | .text s => some s
  | _ => none

def word (document : Document) : UInt32 := .ofInt ((int? document).getD 0)

/-- The bytes that pairs of hexadecimal digits stand for. -/
def hexBytes : List Char → Bytes
  | a :: b :: rest =>
    (((Characters.digit? a).getD 0) * 16 + (Characters.digit? b).getD 0).toUInt8 :: hexBytes rest
  | _ => []

/-- Bytes given as text or as an object with hexadecimal digits. -/
def bytes : Document → Bytes
  | .text s => Utf8.encode s
  | document => hexBytes (((member? "hex" document).bind text?).getD "").toList

/-- Bytes given by their digits. -/
def hex (document : Document) : Bytes := hexBytes ((text? document).getD "").toList

/-- A double, which may be tagged by its bit pattern. -/
def double : Document → Double
  | .float x => x
  | .int n => Double.ofInt n
  | document =>
    match (member? "$float" document).bind text? with
    | some "nan" => .nan
    | some "inf" => .infinite false
    | some "-inf" => .infinite true
    | some digits => Double.ofBits (Characters.ofDigits 16 digits.toList)
    | none => Double.zero

def minorVersion? (document : Document) : Option MinorVersion :=
  match document with
  | .int n => some (.constant n)
  | document =>
    match member? "func" document, member? "i64" document, member? "f64" document,
        member? "f32" document with
    | some n, _, _, _ => some (.function (word n))
    | _, some n, _, _ => some (.constant ((int? n).getD 0))
    | _, _, some x, _ => some (.constant ((double x).truncate?.getD 0))
    | _, _, _, some x => some (.constant ((double x).toSingle.truncate?.getD 0))
    | _, _, _, _ => none

def action? (document : Document) : Option Action :=
  match elements document with
  | .text "print" :: d :: _ => some (.print (bytes d))
  | .text "print_hex" :: d :: _ => some (.print (hex d))
  | .text "print_at" :: d :: _ => some (.printAt (word d))
  | .text "abort" :: d :: _ => some (.abort (bytes d))
  | .text "abort_hex" :: d :: _ => some (.abort (hex d))
  | .text "abort_at" :: d :: _ => some (.abortAt (word d))
  | .text "builtin" :: k :: id :: _ =>
    some (.builtin ((int? k).getD 0).toNat (Int32.ofInt ((int? id).getD 0)).toInt)
  | .text "trap" :: _ => some .trap
  | .text "alloc" :: n :: _ => some (.allocate (word n))
  | _ => none

def part? (document : Document) : Option Part :=
  match document with
  | .text "input" => some .input
  | .text "data" => some .data
  | .text "has_data" => some .hasData
  | document =>
    match member? "lit" document, member? "hex" document, member? "rep" document with
    | some d, _, _ => some (.text (bytes d))
    | _, some d, _ => some (.text (hex d))
    | _, _, some d =>
      match elements d with
      | [b, n] => some (.repeated (word b).toUInt8 (word n))
      | _ => none
    | _, _, _ => none

def rule (document : Document) : PolicyRule where
  id := word ((member? "id" document).getD .null)
  actions := (elementsOf "steps" document).filterMap action?
  answer := (elementsOf "out" document).filterMap part?

/-- What an entry of the overrides does. -/
def misbehaviours (document : Document) : List Misbehaviour :=
  (match member? "trap" document with
    | some (.bool true) => [.trap]
    | _ => []) ++
  (match member? "return" document with
    | some n => [.result (word n)]
    | none => []) ++
  (match member? "tail" document with
    | some (.bool true) => [.atEnd]
    | _ => [])

def override (document : Document) : Override where
  export_ := ((member? "export" document).bind text?).getD ""
  call := (((member? "call" document).bind int?).getD 0).toNat
  misbehaviours := misbehaviours document

/-- The largest number of arguments of a builtin that hosts provide. -/
def mostArguments : Nat := 4

/-- Whether an action calls something that no host provides. -/
def isUnknown : Action → Bool
  | .builtin arity _ => mostArguments < arity
  | _ => false

/-- The policy a document describes.  What is left out is standard. -/
def policy (document : Document) : Policy :=
  let omitted := (elementsOf "omit" document).filterMap text?
  let rules := match given? "rules" document with
    | some (.array items) => items.map rule
    | _ => Policy.standardRules
  let start := (elementsOf "start" document).filterMap action?
  let limits := ((member? "memory_import" document).map elements).getD [.int 2, .null]
  { minor := (given? "minor" document).bind minorVersion?
    table := match given? "table" document with
      | none | some (.text "std") => Policy.standard.table
      | some d => bytes d
    rules
    heapBase := ((given? "heap_base" document).map word).getD Policy.standard.heapBase
    omits := omitted
    omitsAll := omitted.contains "*"
    asConstants := (elementsOf "as_global" document).filterMap text?
    memoryLeast := ((limits[0]?.bind int?).getD 0).toNat
    memoryMost := (limits[1]?.bind int?).map Int.toNat
    importsUnknown :=
      (start ++ rules.flatMap (·.actions)).any isUnknown ||
        match member? "extra_import" document with
        | none | some .null | some (.bool false) => false
        | some _ => true
    start
    overrides := (elementsOf "override" document).map override }

def binaryHeader : Bytes := [0x00, 0x61, 0x73, 0x6D, 0x01, 0x00, 0x00, 0x00]

def compiledHeader : Bytes := [0x7F, 0x45, 0x4C, 0x46, 0x02, 0x01, 0x01, 0xC8]

/-- What follows a header. -/
def after? : Bytes → Bytes → Option Bytes
  | [], rest => some rest
  | h :: hs, b :: bs => if h = b then after? hs bs else none
  | _ :: _, [] => none

def body? (bytes : Bytes) : Option Policy :=
  match Json.read bytes with
  | some (.object members) => some (policy (.object members))
  | _ => none

def ofBinary? (bytes : Bytes) : Option Policy :=
  match after? binaryHeader bytes with
  | some [] => some Policy.empty
  | some rest => body? rest
  | none => none

def ofCompiled? (bytes : Bytes) : Option Policy :=
  (after? compiledHeader bytes).bind body?

def ofText? (text : String) : Option Policy :=
  let chars := Characters.trim Characters.isSpace text.toList
  match after? (Utf8.encode "(module") (Utf8.encodeChars chars.dropLast), chars.getLast? with
  | some [], some ')' => some Policy.empty
  | some rest, some ')' => body? rest
  | _, _ => none

def bodyOf (document : Document) : Bytes :=
  Utf8.encodeChars ((Json.compact 1000 document.value).getD [])

def binary (document : Document) : Bytes := binaryHeader ++ bodyOf document

/-- An image for the policy a document describes, compiled ahead. -/
def compiled (document : Document) : Bytes := compiledHeader ++ bodyOf document

def text (document : Document) : String :=
  "(module " ++ (Utf8.decodeText (bodyOf document)).getD "" ++ ")"

end Image
end PolicyHost
