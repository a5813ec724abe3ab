import PolicyHost.Guest.Policy

namespace PolicyHost

/-!
# How a policy module behaves

A policy becomes a module whose exports work on linear memory.  Documents are
texts with a header of two words, where the text is and how long; memory is
handed out upward from a heap pointer and never taken back, so releasing only
counts.  Words are 32 bits wide, arithmetic wraps, and an access that is not
wholly inside memory traps.
-/

structure PolicyState where
  heap : UInt32
  /-- Allocations less releases. -/
  live : Int
  /-- Whether the next dumped text goes to the end of memory. -/
  atEnd : Bool
  /-- How often each export was called from outside. -/
  calls : List (String × Nat)
deriving Inhabited

abbrev PolicyCode := Code PolicyState

namespace PolicyCode

def wordBytes (w : UInt32) : Bytes :=
  [w.toUInt8, (w >>> 8).toUInt8, (w >>> 16).toUInt8, (w >>> 24).toUInt8]

def wordOf : Bytes → UInt32
  | [] => 0
  | b :: rest => b.toUInt32 ||| (wordOf rest <<< 8)

def loadAt (place count : Nat) : PolicyCode Bytes := fun memory state =>
  if memory.contains place count then .done (memory.bytes place count) memory state
  else .trap memory state

def storeAt (place : Nat) (bytes : Bytes) : PolicyCode Unit := fun memory state =>
  if memory.contains place bytes.length then .done () (memory.overwrite place bytes) state
  else .trap memory state

def store (address : UInt32) (bytes : Bytes) : PolicyCode Unit :=
  storeAt address.toNat bytes

/-- Read the word at an offset in a record.  Adding the offset does not
wrap. -/
def loadWord (record : UInt32) (offset : Nat) : PolicyCode UInt32 := do
  return wordOf (← loadAt (record.toNat + offset) 4)

def storeWord (record : UInt32) (offset : Nat) (w : UInt32) : PolicyCode Unit :=
  storeAt (record.toNat + offset) (wordBytes w)

/-- Copy a run of bytes.  Both ends are checked before anything is written. -/
def copy (target source count : UInt32) : PolicyCode Unit := fun memory state =>
  if memory.contains source.toNat count.toNat && memory.contains target.toNat count.toNat then
    .done () (memory.overwrite target.toNat (memory.bytes source.toNat count.toNat)) state
  else .trap memory state

def fill (target : UInt32) (byte : UInt8) (count : UInt32) : PolicyCode Unit :=
  fun memory state =>
    if memory.contains target.toNat count.toNat then
      .done () (memory.overwrite target.toNat (List.replicate count.toNat byte)) state
    else .trap memory state

/-- Grow page by page until the memory reaches `stop`.  The size is compared
as a word, so four gibibytes count as zero. -/
def growTo (stop : Nat) : Nat → Memory → Memory × Bool
  | 0, memory => (memory, false)
  | budget + 1, memory =>
    if memory.size % 2 ^ 32 < stop then
      match memory.grow? 1 with
      | some grown => growTo stop budget grown
      | none => (memory, false)
    else (memory, true)

def allocate (size : UInt32) : PolicyCode UInt32 := fun memory state =>
  let start := (state.heap + 7) &&& 0xFFFFFFF8
  let stop := start + size
  match growTo stop.toNat (mostPages + 1) memory with
  | (grown, true) => .done start grown { state with heap := stop, live := state.live + 1 }
  | (grown, false) => .trap grown state

/-- A new document with `size` bytes of text to come. -/
def newDocument (size : UInt32) : PolicyCode UInt32 := do
  let document ← allocate (size + 8)
  storeWord document 0 (document + 8)
  storeWord document 4 size
  return document

/-- Read a document's text into a new document. -/
def parse (address size : UInt32) : PolicyCode UInt32 := do
  if size = 0 then return 0
  let document ← newDocument size
  copy (document + 8) address size
  return document

/-- Write a document out as text. -/
def dump (document : UInt32) : PolicyCode UInt32 := do
  let size ← loadWord document 4
  let state ← Code.state
  if state.atEnd then
    Code.modify fun s => { s with atEnd := false }
    let memory ← Code.memory
    let target := UInt32.ofNat memory.size - size
    copy target (← loadWord document 0) size
    return target
  else
    let target ← allocate (size + 1)
    copy target (← loadWord document 0) size
    store (target + size) [0]
    return target

def partSize (input data : UInt32) : Part → PolicyCode UInt32
  | .text bytes => return .ofNat bytes.length
  | .repeated _ count => return count
  | .input => loadWord input 4
  | .data => loadWord data 4
  | .hasData => do return if 2 < (← loadWord data 4) then 4 else 5

def answerSize (input data : UInt32) : List Part → PolicyCode UInt32
  | [] => return 0
  | part :: rest => do
    let size ← partSize input data part
    return size + (← answerSize input data rest)

/-- Write the parts of an answer one after the other. -/
def writeParts (input data : UInt32) : UInt32 → List Part → PolicyCode Unit
  | _, [] => return ()
  | target, part :: rest => do
    let size ← partSize input data part
    match part with
    | .text bytes => store target bytes
    | .repeated byte count => fill target byte count
    | .input => copy target (← loadWord input 0) size
    | .data => copy target (← loadWord data 0) size
    | .hasData => store target (Utf8.encode (if size = 4 then "true" else "false"))
    writeParts input data (target + size) rest

def perform (texts : List Bytes) : Action → PolicyCode Unit
  | .print text => Code.call (.print (Policy.addressOf texts text Policy.textsFrom))
  | .printAt address => Code.call (.print address)
  | .abort text => Code.call (.abort (Policy.addressOf texts text Policy.textsFrom))
  | .abortAt address => Code.call (.abort address)
  | .builtin arity id => Code.call (.builtin arity id)
  | .trap => Code.trap
  | .allocate size => do let _ ← allocate size

def performAll (texts : List Bytes) : List Action → PolicyCode Unit
  | [] => return ()
  | action :: rest => do
    perform texts action
    performAll texts rest

def evaluate (policy : Policy) (entrypoint input data : UInt32) : PolicyCode UInt32 :=
  match policy.rules.find? fun rule => rule.id == entrypoint with
  | none => Code.trap
  | some rule => do
    performAll policy.ownTexts rule.actions
    let size ← answerSize input data rule.answer
    let document ← newDocument size
    writeParts input data (document + 8) rule.answer
    return document

/-- The functions a module exports, with the number of their arguments. -/
def functions : List (String × Nat) :=
  [("entrypoints", 0), ("opa_malloc", 1), ("opa_free", 1), ("opa_json_parse", 2),
    ("opa_json_dump", 1), ("opa_heap_ptr_get", 0), ("opa_heap_ptr_set", 1),
    ("opa_eval_ctx_new", 0), ("opa_eval_ctx_set_input", 2), ("opa_eval_ctx_set_data", 2),
    ("opa_eval_ctx_set_entrypoint", 2), ("opa_eval_ctx_get_result", 1), ("eval", 1),
    ("opa_eval", 7)]

/-- The name under which a module tells its minor version. -/
def minorName : String := "opa_wasm_abi_minor_version"

def work (policy : Policy) : String → List UInt32 → PolicyCode (Option UInt32)
  | "entrypoints", _ => do
    let document ← newDocument (.ofNat policy.table.length)
    store (document + 8) policy.table
    return document
  | "opa_malloc", [size] => do return ← allocate size
  | "opa_free", [address] => do
    if address ≠ 0 then Code.modify fun s => { s with live := s.live - 1 }
    return none
  | "opa_json_parse", [address, size] => do return ← parse address size
  | "opa_json_dump", [document] => do return ← dump document
  | "opa_heap_ptr_get", _ => do return (← Code.state).heap
  | "opa_heap_ptr_set", [address] => do
    Code.modify fun s => { s with heap := address }
    return none
  | "opa_eval_ctx_new", _ => do
    let context ← allocate 16
    fill context 0 16
    return context
  | "opa_eval_ctx_set_input", [context, document] => do
    storeWord context 0 document
    return none
  | "opa_eval_ctx_set_data", [context, document] => do
    storeWord context 4 document
    return none
  | "opa_eval_ctx_set_entrypoint", [context, entrypoint] => do
    storeWord context 8 entrypoint
    return none
  | "opa_eval_ctx_get_result", [context] => do return ← loadWord context 12
  | "eval", [context] => do
    let entrypoint ← loadWord context 8
    let input ← loadWord context 0
    let data ← loadWord context 4
    let answer ← evaluate policy entrypoint input data
    storeWord context 12 answer
    return some 0
  | "opa_eval", [_, entrypoint, data, input, size, heap, _] => do
    Code.modify fun s => { s with heap }
    let document ← parse input size
    let answer ← evaluate policy entrypoint document data
    return ← dump answer
  | _, _ => match policy.minor with
    | some (.function result) => return result
    | _ => return none

/-- The exports that give no result. -/
def silentExports : List String :=
  ["opa_free", "opa_heap_ptr_set", "opa_eval_ctx_set_input", "opa_eval_ctx_set_data",
    "opa_eval_ctx_set_entrypoint"]

def givesResult (name : String) : Bool :=
  !silentExports.contains name

def countCall (name : String) : List (String × Nat) → List (String × Nat) × Nat
  | [] => ([(name, 1)], 1)
  | (n, count) :: rest =>
    if n = name then ((n, count + 1) :: rest, count + 1)
    else let (rest, found) := countCall name rest; ((n, count) :: rest, found)

def misbehave (name : String) (work : PolicyCode (Option UInt32)) :
    List Misbehaviour → PolicyCode (Option UInt32)
  | [] => work
  | .trap :: _ => Code.trap
  | .result value :: _ => return if givesResult name then some value else none
  | .atEnd :: rest => do
    Code.modify fun s => { s with atEnd := true }
    misbehave name work rest

/-- Run an export as the host calls it. -/
def invoke (policy : Policy) (name : String) (arguments : List UInt32) :
    PolicyCode (Option UInt32) := do
  let state ← Code.state
  let (calls, count) := countCall name state.calls
  Code.modify fun s => { s with calls }
  let due := policy.overrides.filter fun o => o.export_ == name && (o.call = 0 || o.call = count)
  misbehave name (work policy name arguments) (due.flatMap (·.misbehaviours))

end PolicyCode

namespace Policy

def exports (policy : Policy) : List (String × Export) :=
  let kept := PolicyCode.functions.filter fun f => !policy.omitsAll && !policy.omits.contains f.1
  let functions := kept.map fun f =>
    (f.1, if policy.asConstants.contains f.1 then Export.constant 0 else .function f.2)
  let minor := match policy.minor with
    | some (.constant value) => [(PolicyCode.minorName, Export.constant value)]
    | some (.function _) => [(PolicyCode.minorName, .function 0)]
    | none => []
  functions ++ minor.filter fun m => !policy.omitsAll && !policy.omits.contains m.1

/-- The module of a policy.  Its own texts are in place before its start
function runs. -/
def toModule (policy : Policy) : Module PolicyState where
  exports := policy.exports
  memoryLeast := policy.memoryLeast
  memoryMost := policy.memoryMost
  importsUnknown := policy.importsUnknown
  initial := ⟨policy.heapBase, 0, false, []⟩
  start := do
    unless policy.ownTexts.isEmpty do
      PolicyCode.store (.ofNat textsFrom) policy.ownMemory
    PolicyCode.performAll policy.ownTexts policy.start
  invoke := PolicyCode.invoke policy

end Policy
end PolicyHost
