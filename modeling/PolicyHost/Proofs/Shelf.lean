import Mathlib.Data.Finset.Basic
import Mathlib.Logic.Function.Basic
import PolicyHost.Guest.Behaviour
import PolicyHost.Proofs.Accounts
import PolicyHost.Proofs.Heap

namespace PolicyHost

/-!
# A guest that keeps every law

The laws that are asked of a guest are many, and under each discipline they
are different ones.  Here is one guest that keeps them all.  It hands out
addresses upwards from a pointer and remembers, in a state of its own, what it
put where; only texts are in its memory.  What it computes is given by a
policy, so that it shows the laws to be possible for every policy there is.

Moving the pointer back takes nothing away.  What lies above the pointer is
stale, and stays there until something else is put in its place.
-/

variable {δ : Type}

/-- Something that a guest put at an address. -/
structure Thing (δ : Type) where
  object : Object δ
  /-- Where it ends. -/
  stop : Nat
  /-- The document that the last run in a context record left. -/
  result : UInt32 := 0

structure Shelf (δ : Type) where
  /-- Where the next thing goes. -/
  pointer : UInt32
  /-- The blocks that were handed out and not taken back. -/
  live : Finset UInt32
  thing : UInt32 → Option (Thing δ)

namespace Shelf

/-- Where the first thing goes. -/
def bottom : UInt32 := 1024

/-- Nothing was handed out. -/
def empty : Shelf δ := ⟨bottom, ∅, fun _ => none⟩

/-- Where a thing of this size would end.  It takes an address even if it has
no bytes. -/
def stop (shelf : Shelf δ) (size : Nat) : Nat := shelf.pointer.toNat + size + 1

def put (shelf : Shelf δ) (size : Nat) (object : Object δ) : Shelf δ where
  pointer := .ofNat (shelf.stop size)
  live := insert shelf.pointer shelf.live
  thing := Function.update shelf.thing shelf.pointer (some { object, stop := shelf.stop size })

/-- Put something else in the place of a thing. -/
def replace (shelf : Shelf δ) (address : UInt32) (thing : Option (Thing δ)) : Shelf δ :=
  { shelf with thing := Function.update shelf.thing address thing }

def document (shelf : Shelf δ) (address : UInt32) : Option δ :=
  match shelf.thing address with
  | some ⟨.document d, _, _⟩ => some d
  | _ => none

def record (shelf : Shelf δ) (address : UInt32) : Option (Slots × Thing δ) :=
  match shelf.thing address with
  | some ⟨.record slots, stop, result⟩ => some (slots, ⟨.record slots, stop, result⟩)
  | _ => none

/-- What an evaluation comes to, if the record refers to two documents. -/
def judge (rules : Rules δ) (shelf : Shelf δ) (slots : Slots) : Option δ := do
  let input ← shelf.document (← slots.input)
  let data ← shelf.document (← slots.data)
  return rules.answer (← slots.entrypoint) input data

/-- What kind of thing is at an address.  Where nothing is, a record is as
good as anything but a text. -/
def shape (shelf : Shelf δ) (address : UInt32) : Shape :=
  ((shelf.thing address).map (·.object.shape)).getD .record

/-- The document that the last run in a context record left. -/
def result (shelf : Shelf δ) (context : UInt32) : UInt32 :=
  ((shelf.thing context).map (·.result)).getD 0

end Shelf

namespace Snapshot

/-- Hand out an address, if the addresses last. -/
def hand (found : Snapshot (Shelf δ)) (size : Nat) (object : Object δ) :
    Option (Option UInt32 × Snapshot (Shelf δ)) :=
  if found.state.stop size < 2 ^ 32 then
    some (some found.state.pointer, ⟨found.memory, found.state.put size object⟩)
  else none

/-- Write a text at the pointer, with a terminator, if there is room. -/
def say (found : Snapshot (Shelf δ)) (text : Bytes) :
    Option (Option UInt32 × Snapshot (Shelf δ)) :=
  if found.state.pointer.toNat + text.length < found.memory.size ∧ 0 ∉ text then
    hand ⟨found.memory.overwrite found.state.pointer.toNat (text ++ [0]), found.state⟩
      text.length .text
  else none

def change (found : Snapshot (Shelf δ)) (context : UInt32) (f : Slots → Slots) :
    Option (Option UInt32 × Snapshot (Shelf δ)) := do
  let (slots, thing) ← found.state.record context
  return (none, ⟨found.memory,
    found.state.replace context (some { thing with object := .record (f slots) })⟩)

end Snapshot

namespace Request

/-- What the guest does for a request. -/
def serve (rules : Rules δ) (request : Request) (found : Snapshot (Shelf δ)) :
    Option (Option UInt32 × Snapshot (Shelf δ)) :=
  match request with
  | malloc size => found.hand size.toNat .text
  | parse text length =>
    match rules.parse (found.memory.bytes text.toNat length.toNat) with
    | some d => found.hand 0 (.document d)
    | none => some (some 0, found)
  | dump document => do found.say (rules.dump (← found.state.document document))
  | newContext => found.hand 0 (.record {})
  | setInput context document => found.change context ({ · with input := some document })
  | setData context document => found.change context ({ · with data := some document })
  | setEntrypoint context entrypoint =>
    found.change context ({ · with entrypoint := some entrypoint })
  | run context => do
    let (slots, thing) ← found.state.record context
    let (document, after) ← found.hand 0 (.document (← found.state.judge rules slots))
    let result ← document
    return (none, ⟨after.memory, after.state.replace context (some { thing with result })⟩)
  | result context => some (some (found.state.result context), found)
  | free block =>
    let state := found.state.replace block none
    some (none, ⟨found.memory, { state with live := state.live.erase block }⟩)
  | heapPointer => some (some found.state.pointer, found)
  | setHeapPointer address => some (none, ⟨found.memory, { found.state with pointer := address }⟩)
  | evaluate entrypoint data input length heap => do
    let x ← rules.parse (found.memory.bytes input.toNat length.toNat)
    let y ← found.state.document data
    if Shelf.bottom ≤ heap then
      Snapshot.say ⟨found.memory, { found.state with pointer := heap }⟩
        (rules.dump (rules.answer entrypoint x y))
    else none

def called : String → List UInt32 → Option Request
  | "opa_malloc", [size] => some (malloc size)
  | "opa_json_parse", [text, length] => some (parse text length)
  | "opa_json_dump", [document] => some (dump document)
  | "opa_eval_ctx_new", [] => some newContext
  | "opa_eval_ctx_set_input", [context, document] => some (setInput context document)
  | "opa_eval_ctx_set_data", [context, document] => some (setData context document)
  | "opa_eval_ctx_set_entrypoint", [context, entrypoint] => some (setEntrypoint context entrypoint)
  | "eval", [context] => some (run context)
  | "opa_eval_ctx_get_result", [context] => some (result context)
  | "opa_free", [block] => some (free block)
  | "opa_heap_ptr_get", [] => some heapPointer
  | "opa_heap_ptr_set", [address] => some (setHeapPointer address)
  | "opa_eval", [_, entrypoint, data, input, length, heap, _] =>
    some (evaluate entrypoint data input length heap)
  | _, _ => none

@[simp] theorem called_self (request : Request) :
    called request.name request.arguments = some request := by
  cases request <;> rfl

end Request

namespace Shelf

/-- The code of an export. -/
def enter (rules : Rules δ) (table : δ) (name : String) (arguments : List UInt32)
    (found : Snapshot (Shelf δ)) : Option (Option UInt32 × Snapshot (Shelf δ)) :=
  if name = "entrypoints" then found.hand 0 (.document table)
  else do (← Request.called name arguments).serve rules found

/-- The module of the guest, with its policy, its entrypoint table and its
minor version. -/
def toModule (rules : Rules δ) (table : δ) (minor : Int) : Module (Shelf δ) where
  exports := PolicyCode.functions.map (fun f => (f.1, Export.function f.2)) ++
    [(PolicyCode.minorName, .constant minor)]
  memoryLeast := 2
  memoryMost := none
  importsUnknown := false
  initial := empty
  start := pure ()
  invoke name arguments := fun memory state =>
    match enter rules table name arguments ⟨memory, state⟩ with
    | some (answer, after) => .done answer after.memory after.state
    | none => .trap memory state

variable {rules : Rules δ} {table : δ} {minor : Int}

/-- A call returns what the code of the export does. -/
theorem answers_iff (name : String) (arguments : List UInt32) (before : Snapshot (Shelf δ))
    (answer : Option UInt32) (after : Snapshot (Shelf δ)) :
    (toModule rules table minor).Answers name arguments before answer after ↔
      enter rules table name arguments before = some (answer, after) := by
  unfold Module.Answers toModule
  dsimp only
  cases enter rules table name arguments before with
  | none => simp [Run.outcome]
  | some done => exact ⟨fun same => by cases same; rfl, fun same => by cases same; rfl⟩

theorem answered_iff (request : Request) (before : Snapshot (Shelf δ)) (answer : Option UInt32)
    (after : Snapshot (Shelf δ)) :
    request.Answered (toModule rules table minor) before answer after ↔
      request.serve rules before = some (answer, after) := by
  have other : request.name ≠ "entrypoints" := by
    cases request <;> simp [Request.name]
  unfold Request.Answered
  rw [answers_iff, enter, if_neg other, Request.called_self]
  rfl

end Shelf

namespace Shelf

variable (shelf : Shelf δ) (size : Nat) (object : Object δ)

theorem put_pointer (room : shelf.stop size < 2 ^ 32) :
    (shelf.put size object).pointer.toNat = shelf.stop size :=
  UInt32.toNat_ofNat_of_lt' room

@[simp] theorem put_live :
    (shelf.put size object).live = insert shelf.pointer shelf.live := rfl

@[simp] theorem put_thing :
    (shelf.put size object).thing shelf.pointer = some ⟨object, shelf.stop size, 0⟩ :=
  Function.update_self ..

/-- What was elsewhere is still there. -/
theorem put_thing_of_ne (address : UInt32) (other : address ≠ shelf.pointer) :
    (shelf.put size object).thing address = shelf.thing address :=
  Function.update_of_ne other ..

@[simp] theorem replace_thing (address : UInt32) (thing : Option (Thing δ)) :
    (shelf.replace address thing).thing address = thing :=
  Function.update_self ..

theorem replace_thing_of_ne (address other : UInt32) (thing : Option (Thing δ))
    (differs : other ≠ address) :
    (shelf.replace address thing).thing other = shelf.thing other :=
  Function.update_of_ne differs ..

@[simp] theorem replace_pointer (address : UInt32) (thing : Option (Thing δ)) :
    (shelf.replace address thing).pointer = shelf.pointer := rfl

@[simp] theorem replace_live (address : UInt32) (thing : Option (Thing δ)) :
    (shelf.replace address thing).live = shelf.live := rfl

theorem record_eq_some {shelf : Shelf δ} {address : UInt32} {slots : Slots} {thing : Thing δ} :
    shelf.record address = some (slots, thing) ↔
      shelf.thing address = some thing ∧ thing.object = .record slots := by
  unfold record
  split
  · rename_i found
    rw [found]
    constructor
    · rintro ⟨⟩
      exact ⟨rfl, rfl⟩
    · rintro ⟨⟨⟩, same⟩
      cases same
      rfl
  · rename_i none
    constructor
    · rintro ⟨⟩
    · rintro ⟨found, same⟩
      cases thing
      cases same
      exact absurd found (none _ _ _)

theorem document_eq_some {shelf : Shelf δ} {address : UInt32} {d : δ} :
    shelf.document address = some d ↔
      ∃ thing, shelf.thing address = some thing ∧ thing.object = .document d := by
  unfold document
  split
  · rename_i found
    rw [found]
    constructor
    · rintro ⟨⟩
      exact ⟨_, rfl, rfl⟩
    · rintro ⟨thing, ⟨⟩, same⟩
      cases same
      rfl
  · rename_i none
    constructor
    · rintro ⟨⟩
    · rintro ⟨thing, found, same⟩
      cases thing
      cases same
      exact absurd found (none _ _ _)

end Shelf

namespace Snapshot

variable {found after : Snapshot (Shelf δ)} {answer : Option UInt32}

/-- A new thing is where the pointer was, and the pointer is behind it. -/
structure Placed (found : Snapshot (Shelf δ)) (size : Nat) (object : Object δ)
    (after : Snapshot (Shelf δ)) : Prop where
  pages_eq : after.memory.pages = found.memory.pages
  pointer_eq : after.state.pointer.toNat = found.state.stop size
  live_eq : after.state.live = insert found.state.pointer found.state.live
  thing_eq : after.state.thing found.state.pointer = some ⟨object, found.state.stop size, 0⟩

structure Handed (found : Snapshot (Shelf δ)) (size : Nat) (object : Object δ)
    (answer : Option UInt32) (after : Snapshot (Shelf δ)) : Prop where
  room : found.state.stop size < 2 ^ 32
  answer_eq : answer = some found.state.pointer
  memory_eq : after.memory = found.memory
  state_eq : after.state = found.state.put size object

theorem hand_eq_some {size : Nat} {object : Object δ} :
    found.hand size object = some (answer, after) ↔ found.Handed size object answer after := by
  unfold hand
  rw [Option.ite_none_right_eq_some]
  constructor
  · rintro ⟨room, ⟨⟩⟩
    exact ⟨room, rfl, rfl, rfl⟩
  · rintro ⟨room, rfl, memory, state⟩
    cases after
    cases memory
    cases state
    exact ⟨room, rfl⟩

theorem Handed.placed {size : Nat} {object : Object δ}
    (handed : found.Handed size object answer after) : found.Placed size object after where
  pages_eq := by rw [handed.memory_eq]
  pointer_eq := by rw [handed.state_eq, Shelf.put_pointer _ _ _ handed.room]
  live_eq := by rw [handed.state_eq, Shelf.put_live]
  thing_eq := by rw [handed.state_eq, Shelf.put_thing]

structure Said (found : Snapshot (Shelf δ)) (text : Bytes) (answer : Option UInt32)
    (after : Snapshot (Shelf δ)) : Prop where
  inside : found.state.pointer.toNat + text.length < found.memory.size
  nonzero : 0 ∉ text
  room : found.state.stop text.length < 2 ^ 32
  answer_eq : answer = some found.state.pointer
  memory_eq : after.memory = found.memory.overwrite found.state.pointer.toNat (text ++ [0])
  state_eq : after.state = found.state.put text.length .text

theorem say_eq_some {text : Bytes} :
    found.say text = some (answer, after) ↔ found.Said text answer after := by
  unfold say
  rw [Option.ite_none_right_eq_some, hand_eq_some]
  constructor
  · rintro ⟨⟨inside, nonzero⟩, handed⟩
    exact ⟨inside, nonzero, handed.room, handed.answer_eq, handed.memory_eq, handed.state_eq⟩
  · intro said
    exact ⟨⟨said.inside, said.nonzero⟩, said.room, said.answer_eq, said.memory_eq, said.state_eq⟩

theorem Said.placed {text : Bytes} (said : found.Said text answer after) :
    found.Placed text.length .text after where
  pages_eq := by rw [said.memory_eq, Memory.overwrite_pages]
  pointer_eq := by rw [said.state_eq, Shelf.put_pointer _ _ _ said.room]
  live_eq := by rw [said.state_eq, Shelf.put_live]
  thing_eq := by rw [said.state_eq, Shelf.put_thing]

theorem Said.untilZero {text : Bytes} (said : found.Said text answer after)
    (bounded : found.memory.pages ≤ mostPages) :
    after.memory.untilZero found.state.pointer.toNat = some text := by
  have addressable := Memory.size_le_of_pages found.memory bounded
  have inside := said.inside
  rw [said.memory_eq]
  refine Memory.untilZero_text _ _ text inside bounded ?_ said.nonzero
  have written := Memory.bytes_overwrite found.memory found.state.pointer.toNat (text ++ [0])
    (UInt32.toNat_lt _) (by rw [List.length_append, List.length_singleton]; omega)
  rwa [List.length_append, List.length_singleton] at written

structure Changed (found : Snapshot (Shelf δ)) (context : UInt32) (thing : Thing δ)
    (object : Object δ) (answer : Option UInt32) (after : Snapshot (Shelf δ)) : Prop where
  answer_eq : answer = none
  memory_eq : after.memory = found.memory
  state_eq : after.state = found.state.replace context (some { thing with object })

theorem Changed.thing_eq {context : UInt32} {thing : Thing δ} {object : Object δ}
    (changed : found.Changed context thing object answer after) :
    after.state.thing context = some { thing with object } := by
  rw [changed.state_eq, Shelf.replace_thing]

theorem change_eq_some {context : UInt32} {f : Slots → Slots} :
    found.change context f = some (answer, after) ↔
      ∃ slots thing, found.state.thing context = some thing ∧ thing.object = .record slots ∧
        found.Changed context thing (.record (f slots)) answer after := by
  unfold change
  constructor
  · intro changed
    rcases Option.bind_eq_some_iff.mp changed with ⟨⟨slots, thing⟩, record, ⟨⟩⟩
    rw [Shelf.record_eq_some] at record
    exact ⟨slots, thing, record.1, record.2, rfl, rfl, rfl⟩
  · rintro ⟨slots, thing, at_, object, rfl, memory, state⟩
    cases after
    cases memory
    cases state
    exact Option.bind_eq_some_iff.mpr
      ⟨(slots, thing), Shelf.record_eq_some.mpr ⟨at_, object⟩, rfl⟩

end Snapshot
end PolicyHost
