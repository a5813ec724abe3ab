import PolicyHost.Bundle.Gzip
import PolicyHost.Text.Numeral

namespace PolicyHost
namespace Tar

/-!
# Members of an archive

An archive is a row of members, each a header block and then its data in
whole blocks.  It is read forward only, and reading it takes no more than the
next header at a time.  A header may say something about the header that
follows it: a long name, or a list of named fields.

What is wrong with the first header makes the archive unreadable.  A later
header that is wrong ends the archive, unless the one before it announced it.
-/

def blockSize : Nat := 512

/-- Why there is no member. -/
inductive Trouble where
  /-- A block of zeros marks the end. -/
  | endMark
  /-- There is no header, or not a correct one. -/
  | badHeader
  /-- The archive cannot be read on. -/
  | unreadable
deriving DecidableEq, Repr

/-- The state of reading: where the next header begins, and the named fields
that hold for all members from here on. -/
structure Reader where
  tape : Gzip.Tape
  next : Int := 0
  fields : List (Bytes × Bytes) := []

/-- A step of reading. -/
abbrev Reading := EStateM Trouble Reader

/-- What a header describes. -/
inductive Kind where
  | regular
  /-- Something without data: a link, a directory, a device. -/
  | empty
  /-- Something with data that is of no interest here. -/
  | other
  | longName
  | longLink
  | namedFields
  | fieldsForAll
deriving DecidableEq, Repr

structure Member where
  name : Bytes
  kind : Kind
  size : Int
  start : Nat := 0
deriving Repr

def take (count : Nat) : Reading Bytes := fun reader =>
  let taken := reader.tape.rest.take count
  if taken.length < count && reader.tape.damaged then .error .unreadable reader
  else
    let tape := { reader.tape with
      rest := reader.tape.rest.drop count
      position := reader.tape.position + taken.length }
    .ok taken { reader with tape }

/-! ## Headers -/

def part (block : Bytes) (start stop : Nat) : Bytes :=
  (block.drop start).take (stop - start)

/-- A text field up to its first zero byte. -/
def text (field : Bytes) : Bytes :=
  field.takeWhile (· != 0)

/-- A number whose bytes are the digits. -/
def ofBytes (bytes : Bytes) : Nat :=
  bytes.foldl (fun n b => n * 256 + b.toNat) 0

/-- A number field: octal digits, or after a mark the bytes of a number or of
a negative number. -/
def number? : Bytes → Option Int
  | 0x80 :: rest => some (ofBytes rest)
  | 0xFF :: rest => some ((ofBytes rest : Int) - (256 ^ rest.length : Nat))
  | field =>
    let digits := text field
    if digits.all (· < 0x80) then
      let chars := Characters.trim Characters.isBlank (digits.map fun b => Char.ofNat b.toNat)
      if chars.isEmpty then some 0 else Numeral.int? 8 chars
    else none

/-- Where the check sum of a header is. -/
def checkStart : Nat := 148

/-- Where the check sum of a header ends. -/
def checkStop : Nat := 156

/-- The bytes of a header that its check sum covers. -/
def checked (block : Bytes) : Bytes :=
  block.take checkStart ++ List.replicate (checkStop - checkStart) 0x20 ++ block.drop checkStop

/-- A byte as a signed number. -/
def signed (b : UInt8) : Int := if b < 0x80 then b.toNat else (b.toNat : Int) - 256

/-- Whether a number is the check sum of a header, over signed or unsigned
bytes. -/
def isCheck (block : Bytes) (sum : Int) : Bool :=
  sum == ((checked block).foldl (fun n b => n + b.toNat) 0 : Nat) ||
    sum == (checked block).foldl (fun n b => n + signed b) 0

/-- What a header with a type describes.  An old header with a name that ends
in a slash describes a directory. -/
def kindOf (type : UInt8) (name : Bytes) : Kind :=
  match Char.ofNat type.toNat with
  | '\x00' => if name.getLast? == some 0x2F then .empty else .regular
  | '0' | '7' => .regular
  | '1' | '2' | '3' | '4' | '5' | '6' => .empty
  | 'L' => .longName
  | 'K' => .longLink
  | 'x' | 'X' => .namedFields
  | 'g' => .fieldsForAll
  | _ => .other

/-- The types whose names have no second part. -/
def hasWholeName (type : UInt8) : Bool :=
  "LKS".toList.contains (Char.ofNat type.toNat)

/-- Where the number fields of a header are, except for its check sum. -/
def numberFields : List (Nat × Nat) :=
  [(100, 108), (108, 116), (116, 124), (124, 136), (136, 148), (329, 337), (337, 345)]

def member? (block : Bytes) : Option Member :=
  match number? (part block checkStart checkStop), number? (part block 124 136) with
  | some sum, some size =>
    if isCheck block sum &&
        numberFields.all fun f => (number? (part block f.1 f.2)).isSome then
      let type := block.getD 156 0
      let name := text (part block 0 100)
      let directory := text (part block 345 500)
      let whole :=
        if directory.isEmpty || hasWholeName type then name else directory ++ 0x2F :: name
      some { name := whole, kind := kindOf type name, size }
    else none
  | _, _ => none

def header : Reading Member := do
  let block ← take blockSize
  if block.length < blockSize then throw .badHeader
  if block.all (· == 0) then throw .endMark
  match member? block with
  | some member => return { member with start := (← get).tape.position }
  | none => throw .badHeader

/-- The size of data in whole blocks.  A header may give a negative size. -/
def inBlocks (size : Int) : Int :=
  (size + (blockSize - 1)) / blockSize * blockSize

/-- Take data in whole blocks.  A negative size says what is left over. -/
def takeBlocks (size : Int) : Reading Bytes := do
  let count := inBlocks size
  if count < 0 then take ((← get).tape.rest.length - count.natAbs) else take count.toNat

/-- Note where the header after a member begins. -/
def skipData (member : Member) : Reading Unit :=
  let skipped := if member.kind = .empty then 0 else inBlocks member.size
  modify fun reader => { reader with next := member.start + skipped }

/-! ## Named fields -/

/-- A named field at the beginning of some bytes, and how long it is: its
length in decimal, a space, name and value with an equals sign between them,
and a line feed. -/
def field? (bytes : Bytes) : Option (Nat × Bytes × Bytes) :=
  let digits := bytes.takeWhile fun b => 0x30 ≤ b && b ≤ 0x39
  let length := digits.foldl (fun n b => n * 10 + (b.toNat - 0x30)) 0
  if digits.isEmpty || 20 < digits.length || bytes[digits.length]? != some 0x20 then none
  else if length < 5 || bytes.length < length then none
  else
    let body := ((bytes.take length).drop (digits.length + 1)).dropLast
    let name := body.takeWhile (· != 0x3D)
    match body.dropWhile (· != 0x3D) with
    | _ :: value =>
      if name.isEmpty || bytes[length - 1]? != some 0x0A then none
      else some (length, name, value)
    | [] => none

/-- The named fields in some bytes, up to a zero byte. -/
def fields? : Nat → Bytes → Option (List (Bytes × Bytes))
  | 0, _ => none
  | _ + 1, [] => some []
  | budget + 1, b :: rest =>
    if b = 0 then some []
    else match field? (b :: rest) with
      | none => none
      | some (length, field) => (fields? budget ((b :: rest).drop length)).map (field :: ·)

def valueOf? (fields : List (Bytes × Bytes)) (name : String) : Option Bytes :=
  (fields.reverse.find? fun f => f.1 == Utf8.encode name).map (·.2)

def withoutSlashes (name : Bytes) : Bytes :=
  (name.reverse.dropWhile (· == 0x2F)).reverse

/-- A size in decimal.  What is not a number counts as zero. -/
def sizeOf (value : Bytes) : Int :=
  (Numeral.int? 10 (Utf8.decodeLossy value).toList).getD 0

/-- A member with the name and the size that named fields give it. -/
def Member.withFields (member : Member) (fields : List (Bytes × Bytes)) : Member :=
  { member with
    name := ((valueOf? fields "path").map withoutSlashes).getD member.name
    size := ((valueOf? fields "size").map sizeOf).getD member.size }

/-! ## Members -/

def announced (reading : Reading Member) : Reading Member :=
  tryCatch reading fun _ => throw .unreadable

/-- Read a member's header, with the headers before it that are about it. -/
def member : Nat → Reading Member
  | 0 => throw .badHeader
  | budget + 1 => do
    let described ← header
    match described.kind with
    | .longName =>
      let name ← takeBlocks described.size
      return { ← announced (member budget) with name := text name }
    | .longLink =>
      let _ ← takeBlocks described.size
      announced (member budget)
    | .namedFields =>
      let bytes ← takeBlocks described.size
      match fields? (bytes.length + 1) bytes with
      | none => throw .badHeader
      | some own =>
        let all := (← get).fields ++ own
        let found := (← announced (member budget)).withFields all
        if (valueOf? all "size").isSome then skipData found
        return found
    | .fieldsForAll =>
      let bytes ← takeBlocks described.size
      match fields? (bytes.length + 1) bytes with
      | none => throw .badHeader
      | some own =>
        modify fun reader => { reader with fields := reader.fields ++ own }
        announced (member budget)
    | _ =>
      skipData described
      return described.withFields (← get).fields

/-- Go forward to the next header.  The data that is passed over has to be
there.  Nothing comes after a member that leads back to the beginning. -/
def goOn : Reading Bool := do
  let reader ← get
  let ahead := reader.next - reader.tape.position
  if ahead = 0 then return true
  else if reader.next = 0 then return false
  else if ahead < 0 then throw .unreadable
  else
    let _ ← take (ahead.toNat - 1)
    if (← take 1).isEmpty then throw .unreadable else return true

def next : Reading (Option Member) := do
  if !(← goOn) then return none
  let headers := (← get).tape.rest.length / blockSize + 1
  tryCatch (some <$> member headers) fun
    | .endMark => return none
    | .badHeader => do if (← get).next = 0 then throw .unreadable else return none
    | .unreadable => throw .unreadable

/-- Read a member's data, of which something has to be there. -/
def content (member : Member) : Reading Bytes := do
  let size := member.size.toNat
  let bytes ← take size
  if bytes.isEmpty && size != 0 then throw .unreadable
  return bytes

end Tar
end PolicyHost
