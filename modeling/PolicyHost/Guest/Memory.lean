import PolicyHost.Number.Double
import PolicyHost.Text.Utf8

namespace PolicyHost

/-!
# Linear memory

A guest's memory is a row of bytes, a whole number of pages long.  It can be
four gibibytes and is nearly always zero, so its contents are a binary tree
over addresses in which untouched stretches take no room.

Runs of bytes are read and written in one traversal.  A write hands every
subtree the bytes that are left, and the subtree gives back what does not fit
into it.
-/

/-- The bytes of a stretch of `2 ^ depth` addresses.  A blank one is zero. -/
inductive Cells where
  | blank
  | byte (b : UInt8)
  | fork (low high : Cells)

namespace Cells

/-- The lower half of a stretch. -/
def lower : Cells → Cells
  | fork low _ => low
  | _ => blank

/-- The upper half of a stretch. -/
def upper : Cells → Cells
  | fork _ high => high
  | _ => blank

/-- The byte of a stretch of one address. -/
def single : Cells → UInt8
  | byte b => b
  | _ => 0

def get : Nat → Cells → Nat → UInt8
  | 0, cells, _ => cells.single
  | depth + 1, cells, address =>
    if address < 2 ^ depth then get depth cells.lower address
    else get depth cells.upper (address - 2 ^ depth)

/-- The bytes from `start` up to `stop`, in front of those already there. -/
def collect : Nat → Cells → Nat → Nat → Bytes → Bytes
  | 0, cells, start, stop, after => if start < stop then cells.single :: after else after
  | depth + 1, cells, start, stop, after =>
    if stop ≤ start then after
    else
      let half := 2 ^ depth
      let after :=
        if half < stop then collect depth cells.upper (start - half) (stop - half) after else after
      if start < half then collect depth cells.lower start (min stop half) after else after

/-- Write bytes from `start` on.  What does not fit is given back. -/
def fill : Nat → Cells → Nat → Bytes → Cells × Bytes
  | _, cells, _, [] => (cells, [])
  | 0, _, _, b :: rest => (byte b, rest)
  | depth + 1, cells, start, bytes =>
    if start < 2 ^ depth then
      let low := fill depth cells.lower start bytes
      let high := fill depth cells.upper 0 low.2
      (fork low.1 high.1, high.2)
    else
      let high := fill depth cells.upper (start - 2 ^ depth) bytes
      (fork cells.lower high.1, high.2)

end Cells

def pageSize : Nat := 65536

/-- The pages a memory can have: addresses have 32 bits. -/
def mostPages : Nat := 65536

structure Memory where
  pages : Nat
  /-- The maximum that the memory was made with. -/
  limit : Option Nat
  cells : Cells

namespace Memory

def fresh (pages : Nat) (limit : Option Nat) : Memory := ⟨pages, limit, .blank⟩

def size (memory : Memory) : Nat := memory.pages * pageSize

def byte (memory : Memory) (address : Nat) : UInt8 := memory.cells.get 32 address

def bytes (memory : Memory) (start count : Nat) : Bytes :=
  memory.cells.collect 32 start (start + count) []

def overwrite (memory : Memory) (start : Nat) (bytes : Bytes) : Memory :=
  { memory with cells := (memory.cells.fill 32 start bytes).1 }

/-- Whether a run of bytes lies inside the memory. -/
def contains (memory : Memory) (start count : Nat) : Bool :=
  start + count ≤ memory.size

/-- The most pages this memory may have. -/
def bound (memory : Memory) : Nat :=
  match memory.limit with
  | none => mostPages
  | some limit => min limit mostPages

/-- More pages, all zero, unless the memory would pass its bound. -/
def grow? (memory : Memory) (extra : Nat) : Option Memory :=
  if memory.pages + extra ≤ memory.bound then some { memory with pages := memory.pages + extra }
  else none

/-- A place in the memory, where negative places count from the end and all
are cut to the memory. -/
def place (memory : Memory) (position : Int) : Nat :=
  min (if position < 0 then position + memory.size else position).toNat memory.size

/-- The bytes between two places. -/
def slice (memory : Memory) (start stop : Int) : Bytes :=
  memory.bytes (memory.place start) (memory.place stop - memory.place start)

/-- How many bytes are looked at together when searching for a terminator. -/
def chunkSize : Nat := 4096

/-- The bytes up to the next zero, chunk by chunk, after the chunks read so
far in reverse. -/
def untilZeroFrom (memory : Memory) (position : Nat) (chunks : List Bytes) : Option Bytes :=
  if position < memory.size then
    let stop := min (position + chunkSize) memory.size
    let chunk := memory.bytes position (stop - position)
    if chunk.contains 0 then some ((chunk.takeWhile (· != 0)) :: chunks).reverse.flatten
    else untilZeroFrom memory stop (chunk :: chunks)
  else none
termination_by memory.size - position
decreasing_by simp [chunkSize]; omega

/-- The bytes from an address up to the next zero, if there is one. -/
def untilZero (memory : Memory) (start : Nat) : Option Bytes :=
  memory.untilZeroFrom start []

def textUntilZero (memory : Memory) (start : Nat) : Option String :=
  (memory.untilZero start).bind Utf8.decodeText

end Memory
end PolicyHost
