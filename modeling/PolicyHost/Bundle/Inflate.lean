import PolicyHost.Text.Utf8

namespace PolicyHost
namespace Inflate

/-!
# Deflated data

Deflated data is a sequence of blocks.  A block is stored as it is, or it is
written in two codes, one for bytes and lengths and one for distances: a
length and a distance stand for a copy of what came earlier.  The codes are
fixed or given at the beginning of the block by the lengths of their words.

Data may end early.  What was decoded until then is kept, so a stream can be
read as far as it goes.
-/

/-- The bits of bytes, the lowest of each byte first. -/
def bitsOf (bytes : Bytes) : List Bool :=
  bytes.flatMap fun b =>
    let n := b.toNat
    [n % 2 == 1, n / 2 % 2 == 1, n / 4 % 2 == 1, n / 8 % 2 == 1, n / 16 % 2 == 1,
      n / 32 % 2 == 1, n / 64 % 2 == 1, n / 128 % 2 == 1]

/-- Why decoding stops before the last block is over. -/
inductive Stop where
  /-- The data ended. -/
  | short
  /-- The data cannot be decoded. -/
  | corrupt
deriving DecidableEq, Repr

/-- What is left to decode, and what was decoded. -/
structure State where
  bits : List Bool
  output : Array UInt8 := #[]

/-- A step of decoding.  A step that stops keeps the output up to there. -/
abbrev Decoder := EStateM Stop State

def bit : Decoder Bool := fun state =>
  match state.bits with
  | b :: bits => .ok b { state with bits }
  | [] => .error .short state

def number : Nat → Decoder Nat
  | 0 => return 0
  | n + 1 => do
    let low := if ← bit then 1 else 0
    return low + 2 * (← number n)

def put (b : UInt8) : Decoder Unit :=
  modify fun state => { state with output := state.output.push b }

/-! ## Codes -/

/-- A code: how many words there are of each length from one on, and the
symbols in the order of their words. -/
structure Codebook where
  counts : List Nat
  symbols : Array Nat

def longestWord : Nat := 15

/-- How much room the words of a code leave, counted in words of the longest
length seen.  There is none if it is overfull. -/
def room? : Nat → List Nat → Option Nat
  | left, [] => some left
  | left, count :: counts =>
    if 2 * left < count then none else room? (2 * left - count) counts

/-- The code in which the symbols have words of given lengths; a symbol with
length zero has none. -/
def Codebook.ofLengths (lengths : List Nat) : Codebook :=
  let indexed := lengths.zipIdx.filter fun e => e.1 != 0
  let ofLength (n : Nat) := indexed.filter fun e => e.1 == n
  let byLength := (List.range longestWord).map fun n => (ofLength (n + 1)).map (·.2)
  ⟨byLength.map List.length, byLength.flatten.toArray⟩

/-- Whether a code can be used.  A code must not be overfull, and room may be
left only if it has a single word of one bit, or no words at all. -/
def Codebook.usable (strict : Bool) (book : Codebook) : Bool :=
  match room? 1 book.counts with
  | none => false
  | some 0 => true
  | some _ =>
    book.symbols.isEmpty || (!strict && book.counts.tail.all (· == 0))

/-- Read a word.  `word` is what was read of it, `first` the first word of
this length, and `index` the place of its symbol. -/
def wordFrom (symbols : Array Nat) (word first index : Nat) : List Nat → Decoder Nat
  | [] => throw .corrupt
  | count :: counts => do
    let word := word + (if ← bit then 1 else 0)
    if word < first + count then
      match symbols[index + (word - first)]? with
      | some symbol => return symbol
      | none => throw .corrupt
    else wordFrom symbols (2 * word) (2 * (first + count)) (index + count) counts

/-- Read a word and tell its symbol. -/
def Codebook.word (book : Codebook) : Decoder Nat :=
  if book.symbols.isEmpty then throw .corrupt
  else wordFrom book.symbols 0 0 0 book.counts

/-! ## Blocks -/

/-- Least lengths and numbers of further bits of the length symbols. -/
def lengthTable : Array (Nat × Nat) :=
  #[(3, 0), (4, 0), (5, 0), (6, 0), (7, 0), (8, 0), (9, 0), (10, 0), (11, 1), (13, 1), (15, 1),
    (17, 1), (19, 2), (23, 2), (27, 2), (31, 2), (35, 3), (43, 3), (51, 3), (59, 3), (67, 4),
    (83, 4), (99, 4), (115, 4), (131, 5), (163, 5), (195, 5), (227, 5), (258, 0)]

/-- Least distances and numbers of further bits of the distance symbols. -/
def distanceTable : Array (Nat × Nat) :=
  #[(1, 0), (2, 0), (3, 0), (4, 0), (5, 1), (7, 1), (9, 2), (13, 2), (17, 3), (25, 3), (33, 4),
    (49, 4), (65, 5), (97, 5), (129, 6), (193, 6), (257, 7), (385, 7), (513, 8), (769, 8),
    (1025, 9), (1537, 9), (2049, 10), (3073, 10), (4097, 11), (6145, 11), (8193, 12),
    (12289, 12), (16385, 13), (24577, 13)]

/-- Read the number a symbol of a table begins. -/
def extended (table : Array (Nat × Nat)) (symbol : Nat) : Decoder Nat := do
  match table[symbol]? with
  | some (least, more) => return least + (← number more)
  | none => throw .corrupt

/-- Copy bytes from a distance back, one after the other, so that a copy may
run into itself. -/
def copied (distance : Nat) : Nat → Array UInt8 → Array UInt8
  | 0, output => output
  | n + 1, output => copied distance n (output.push (output.getD (output.size - distance) 0))

/-- Put out a copy of what came earlier. -/
def copy (length distance : Nat) : Decoder Unit := fun state =>
  if distance ≤ state.output.size then
    let ⟨bits, output⟩ := state
    .ok () ⟨bits, copied distance length output⟩
  else .error .corrupt state

def endOfBlock : Nat := 256

def coded (symbols distances : Codebook) : Nat → Decoder Unit
  | 0 => throw .corrupt
  | budget + 1 => do
    let symbol ← symbols.word
    if symbol < endOfBlock then
      put symbol.toUInt8
      coded symbols distances budget
    else if symbol = endOfBlock then return ()
    else
      let length ← extended lengthTable (symbol - endOfBlock - 1)
      let distance ← extended distanceTable (← distances.word)
      copy length distance
      coded symbols distances budget

/-- The fixed code for bytes and lengths. -/
def fixedSymbols : Codebook :=
  .ofLengths (List.replicate 144 8 ++ List.replicate 112 9 ++ List.replicate 24 7 ++
    List.replicate 8 8)

def fixedDistances : Codebook := .ofLengths (List.replicate 32 5)

/-- The order in which the word lengths of the code for word lengths come. -/
def lengthOrder : List Nat :=
  [16, 17, 18, 0, 8, 7, 9, 6, 10, 5, 11, 4, 12, 3, 13, 2, 14, 1, 15]

/-- Read word lengths, the latest first.  Some symbols stand for repetitions,
which must not go beyond the end. -/
def wordLengths (book : Codebook) (total : Nat) : Nat → List Nat → Decoder (List Nat)
  | 0, _ => throw .corrupt
  | budget + 1, read => do
    if total ≤ read.length then return read
    else
      let repeated (value count : Nat) : Decoder (List Nat) := do
        if total < read.length + count then throw .corrupt
        else return List.replicate count value ++ read
      match ← book.word with
      | 16 =>
        match read with
        | [] => throw .corrupt
        | last :: _ => wordLengths book total budget (← repeated last (3 + (← number 2)))
      | 17 => wordLengths book total budget (← repeated 0 (3 + (← number 3)))
      | 18 => wordLengths book total budget (← repeated 0 (11 + (← number 7)))
      | n => wordLengths book total budget (n :: read)

/-- Read several numbers of three bits. -/
def threes : Nat → Decoder (List Nat)
  | 0 => return []
  | n + 1 => do
    let value ← number 3
    return value :: (← threes n)

/-- Read the codes at the beginning of a block. -/
def givenCodes : Decoder (Codebook × Codebook) := do
  let symbolCount := 257 + (← number 5)
  let distanceCount := 1 + (← number 5)
  let lengthCount := 4 + (← number 4)
  if 286 < symbolCount || 30 < distanceCount then throw .corrupt
  let placed := lengthOrder.zip (← threes lengthCount)
  let lengths := (List.range 19).map fun s =>
    ((placed.find? fun e => e.1 == s).map (·.2)).getD 0
  let book := Codebook.ofLengths lengths
  if !book.usable true then throw .corrupt
  let total := symbolCount + distanceCount
  let read := (← wordLengths book total (total + 1) []).reverse
  let symbolLengths := read.take symbolCount
  let symbols := Codebook.ofLengths symbolLengths
  let distances := Codebook.ofLengths (read.drop symbolCount)
  if (symbolLengths.getD endOfBlock 0) = 0 || !symbols.usable false || !distances.usable false then
    throw .corrupt
  return (symbols, distances)

def storedBytes : Nat → Decoder Unit
  | 0 => return ()
  | n + 1 => do
    put (← number 8).toUInt8
    storedBytes n

/-- Read a stored block: from the next byte on its length, the same length
inverted, and its bytes. -/
def stored : Decoder Unit := do
  let state ← get
  let _ ← number (state.bits.length % 8)
  let length ← number 16
  let inverted ← number 16
  if length + inverted = 0xFFFF then storedBytes length else throw .corrupt

def blocks : Nat → Decoder Unit
  | 0 => throw .corrupt
  | budget + 1 => do
    let last ← bit
    match ← number 2 with
    | 0 => stored
    | 1 => coded fixedSymbols fixedDistances ((← get).bits.length + 1)
    | 2 =>
      let (symbols, distances) ← givenCodes
      coded symbols distances ((← get).bits.length + 1)
    | _ => throw .corrupt
    if last then return () else blocks budget

inductive Ending where
  | finished
  | short
  /-- The data was found corrupt after some bytes. -/
  | corrupt (consumed : Nat)
deriving DecidableEq, Repr

/-- Decode as far as possible. -/
def inflate (bytes : Bytes) : Array UInt8 × Ending :=
  let bits := bitsOf bytes
  match (blocks (bits.length + 1)).run { bits } with
  | .ok () state => (state.output, .finished)
  | .error .short state => (state.output, .short)
  | .error .corrupt state =>
    (state.output, .corrupt ((bits.length - state.bits.length + 7) / 8))

end Inflate
end PolicyHost
