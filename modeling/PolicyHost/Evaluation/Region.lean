import PolicyHost.Evaluation.Instance

namespace PolicyHost
namespace Region

/-!
# The host's side of guest memory

The host reads and writes guest memory only through the operations here.  A
raw write makes room first, in whole pages and within the bound that was set;
a view is confined to the allocation it was made for.

Under one discipline every allocation is released; under the other releasing
does nothing, because scratch memory is reclaimed by moving the guest's heap
pointer back.
-/

variable {σ : Type}

/-- What the host keeps to when it uses guest memory. -/
structure Terms where
  /-- Whether scratch memory is reclaimed by moving the heap pointer back. -/
  rewinds : Bool
  /-- The most pages the host lets the memory have. -/
  maxPages : Option Nat
deriving DecidableEq, Repr

/-- Whether this many pages are more than the host lets the memory have. -/
def Terms.refuses (terms : Terms) (pages : Int) : Bool :=
  match terms.maxPages with
  | some most => (most : Int) < pages
  | none => false

structure View where
  address : Address
  length : Int
deriving DecidableEq, Repr

namespace View

def literal (view : View) : String :=
  "GuestView(addr=" ++ toString view.address.offset ++ ", length=" ++ toString view.length ++ ")"

/-- Check that a range lies inside a view. -/
def check (view : View) (offset length : Int) : Except Fault Unit :=
  if offset < 0 || length < 0 || view.length < offset + length then
    .error (.outsideView offset (offset + length) view.length)
  else .ok ()

end View

/-- Grow the memory by whole pages. -/
def grow (terms : Terms) (extra : Int) : Operation (Instance σ) Unit := fun guest =>
  let refused (text : String) : EStateM.Result Fault (Instance σ) Unit :=
    .error (.report (Report.memoryRefused extra terms.maxPages text)) guest
  if terms.refuses (guest.memory.pages + extra) then refused ""
  else if extra < 0 then refused Instance.engineText
  else
    match guest.memory.grow? extra.toNat with
    | some memory => .ok () { guest with memory }
    | none => refused Instance.engineText

/-- The pages that `count` bytes need, rounded up. -/
def pagesFor (count : Int) : Int := -((-count) / pageSize)

/-- Grow the memory until it holds `stop` bytes. -/
def ensure (terms : Terms) (stop : Int) : Operation (Instance σ) Unit := fun guest =>
  if stop ≤ guest.memory.size then .ok () guest
  else grow terms (pagesFor (stop - guest.memory.size)) guest

/-- Write bytes at an address, growing the memory first if needed. -/
def write (terms : Terms) (address : Address) (bytes : Bytes) : Operation (Instance σ) Unit := do
  ensure terms (address.offset + bytes.length)
  fun guest =>
    if guest.memory.size ≤ address.offset then .error .outsideMemory guest
    else
      .ok () { guest with
        memory := guest.memory.overwrite address.offset bytes
        history := .write address bytes :: guest.history }

def read (address : Address) (length : Int) : Operation (Instance σ) Bytes := fun guest =>
  .ok (guest.memory.slice address.offset (address.offset + length)) guest

def readUntilZero (address : Address) : Operation (Instance σ) (Option Bytes) := fun guest =>
  .ok (guest.memory.untilZero address.offset) guest

def readText (address : Address) : Operation (Instance σ) (Option String) := fun guest =>
  .ok (guest.memory.textUntilZero address.offset) guest

/-- Read from a view, up to its end unless a length is given. -/
def readView (view : View) (offset : Int) (length : Option Int) :
    Operation (Instance σ) Bytes := do
  let length := length.getD (view.length - offset)
  Operation.lift (view.check offset length)
  read (← Operation.lift (view.address.advance offset)) length

def writeView (terms : Terms) (view : View) (bytes : Bytes) (offset : Int) :
    Operation (Instance σ) Unit := do
  Operation.lift (view.check offset bytes.length)
  write terms (← Operation.lift (view.address.advance offset)) bytes

/-- Allocate with the guest's allocator. -/
def allocate (length : Int) : Operation (Instance σ) View := do
  return ⟨← Instance.callAddress "opa_malloc" [length], length⟩

/-- Release an allocation, where allocations are released. -/
def free (terms : Terms) (address : Address) : Operation (Instance σ) Unit :=
  if terms.rewinds then pure ()
  else Instance.callVoid "opa_free" [address.offset]

/-- Allocate a buffer and copy bytes into it. -/
def place (terms : Terms) (bytes : Bytes) : Operation (Instance σ) Address := do
  let view ← allocate bytes.length
  writeView terms view bytes 0
  return view.address

def heapPointer : Operation (Instance σ) Address :=
  Instance.callAddress "opa_heap_ptr_get" []

def setHeapPointer (address : Address) : Operation (Instance σ) Unit :=
  Instance.callVoid "opa_heap_ptr_set" [address.offset]

/-- Move the guest's heap pointer, unless guest code may not be entered. -/
def rewind (address : Address) : Operation (Instance σ) Unit := fun guest =>
  if guest.trapped then .ok () guest else setHeapPointer address guest

end Region
end PolicyHost
