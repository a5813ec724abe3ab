import PolicyHost.Evaluation.Host
import PolicyHost.Proofs.Call
import PolicyHost.Proofs.Encoding

namespace PolicyHost

/-!
# What the host asks of a guest

A host makes few kinds of calls, and what a guest may be assumed to do is
assumed of these alone.  `Request` lists them.  `Semantics` says what the
answers mean: which documents texts are parsed into, which result set an
entrypoint has for an input and a dataset, and which text a document is dumped
as.  Its fields are relations.  A policy that computes makes them functions,
and `silent` is what is known of a guest about which nothing is assumed.
-/

/-- What a context record refers to: two documents by their addresses, and an
entrypoint. -/
structure Slots where
  input : Option UInt32 := none
  data : Option UInt32 := none
  entrypoint : Option UInt32 := none

/-- What kind of thing is at an address of guest memory. -/
inductive Shape where
  /-- A text for the host to fill, or for the host to read. -/
  | text
  | document
  /-- The record of an evaluation context. -/
  | record
deriving DecidableEq

/-- What is at an address of guest memory. -/
inductive Object (δ : Type) where
  | text
  | document (d : δ)
  | record (slots : Slots)

def Object.shape {δ : Type} : Object δ → Shape
  | text => .text
  | document _ => .document
  | record _ => .record

/-- A call that the host makes.  The text of a parse is given by address and
length, and the last one is the evaluation of a raw input text, with the
address where the heap begins. -/
inductive Request where
  | malloc (size : UInt32)
  | parse (text length : UInt32)
  | dump (document : UInt32)
  | newContext
  | setInput (context document : UInt32)
  | setData (context document : UInt32)
  | setEntrypoint (context entrypoint : UInt32)
  | run (context : UInt32)
  | result (context : UInt32)
  | free (block : UInt32)
  | heapPointer
  | setHeapPointer (address : UInt32)
  | evaluate (entrypoint data input length heap : UInt32)

namespace Request

/-- The export that a request enters. -/
def name : Request → String
  | malloc _ => "opa_malloc"
  | parse _ _ => "opa_json_parse"
  | dump _ => "opa_json_dump"
  | newContext => "opa_eval_ctx_new"
  | setInput _ _ => "opa_eval_ctx_set_input"
  | setData _ _ => "opa_eval_ctx_set_data"
  | setEntrypoint _ _ => "opa_eval_ctx_set_entrypoint"
  | run _ => "eval"
  | result _ => "opa_eval_ctx_get_result"
  | free _ => "opa_free"
  | heapPointer => "opa_heap_ptr_get"
  | setHeapPointer _ => "opa_heap_ptr_set"
  | evaluate _ _ _ _ _ => "opa_eval"

/-- The words that a request passes. -/
def arguments : Request → List UInt32
  | malloc size => [size]
  | parse text length => [text, length]
  | dump document => [document]
  | newContext => []
  | setInput context document => [context, document]
  | setData context document => [context, document]
  | setEntrypoint context entrypoint => [context, entrypoint]
  | run context => [context]
  | result context => [context]
  | free block => [block]
  | heapPointer => []
  | setHeapPointer address => [address]
  | evaluate entrypoint data input length heap => [0, entrypoint, data, input, length, heap, 0]

/-- The addresses that a request takes to be those of things of some kind. -/
def uses : Request → List (UInt32 × Shape)
  | parse text _ => [(text, .text)]
  | dump document => [(document, .document)]
  | setInput context document => [(context, .record), (document, .document)]
  | setData context document => [(context, .record), (document, .document)]
  | setEntrypoint context _ => [(context, .record)]
  | run context => [(context, .record)]
  | result context => [(context, .record)]
  | evaluate _ data _ _ _ => [(data, .document)]
  | _ => []

/-- Whether a request takes a block back. -/
def frees : Request → Bool
  | free _ => true
  | _ => false

/-- Whether a request is answered with a word. -/
def replies : Request → Bool
  | malloc _ | parse _ _ | dump _ | newContext | result _ | heapPointer
  | evaluate _ _ _ _ _ => true
  | _ => false

/-- The address of what a request may change. -/
def touched : Request → Option UInt32
  | setInput context _ => some context
  | setData context _ => some context
  | setEntrypoint context _ => some context
  | run context => some context
  | free block => some block
  | _ => none

/-- The module can answer a request like this. -/
def Answered {σ : Type} (request : Request) (module : Module σ) (before : Snapshot σ)
    (answer : Option UInt32) (after : Snapshot σ) : Prop :=
  module.Answers request.name request.arguments before answer after

def Done {σ : Type} (request : Request) (answer : Option UInt32) (guest after : Instance σ) :
    Prop :=
  Instance.Called request.name request.arguments answer guest after

/-- The host passes the address and the length of a text that is to be parsed. -/
theorem parse_arguments (text : Address) (length : Nat) :
    [(text.offset : Int), (length : Int)].map UInt32.ofInt =
      (parse text.toWord (UInt32.ofInt length)).arguments := by
  simp only [List.map_cons, List.map_nil, Address.ofInt_offset]
  rfl

theorem dump_arguments (document : Address) :
    [(document.offset : Int)].map UInt32.ofInt = (dump document.toWord).arguments := by
  simp only [List.map_cons, List.map_nil, Address.ofInt_offset]
  rfl

end Request

/-- By these words the guest finds the text. -/
theorem Memory.bytes_of_words (memory : Memory) (text : Address) {raw : Bytes}
    (small : raw.length < 2 ^ 32) (stored : memory.bytes text.offset raw.length = raw) :
    memory.bytes text.toWord.toNat (UInt32.ofInt (raw.length : Int)).toNat = raw := by
  rw [toNat_ofInt raw.length small, Address.toWord_toNat]
  exact stored

/-- The guest after a raw write, with this many pages. -/
def Snapshot.written {σ : Type} (snapshot : Snapshot σ) (pages address : Nat) (bytes : Bytes) :
    Snapshot σ :=
  ⟨({ snapshot.memory with pages } : Memory).overwrite address bytes, snapshot.state⟩

/-- Whether a fault is a number that is no guest address. -/
def Fault.isBadAddress : Fault → Bool
  | .badAddress _ => true
  | _ => false

/-- The memory was not enough: the host was refused more pages, or an input
would end past the last address. -/
def Fault.isShortage (fault : Fault) : Prop :=
  fault.isA .guestMemory = true ∨ fault.isBadAddress = true

instance : DecidablePred Fault.isShortage := fun fault =>
  inferInstanceAs (Decidable (fault.isA .guestMemory = true ∨ fault.isBadAddress = true))

/-- How a host reports that the text of a document has no terminator. -/
def Exchange.unread : Address → Report := unterminated "document" "JSON text"

/-- How it reports that of a single evaluation.  The rewinding discipline is
handed the text without its document. -/
def Discipline.unread : Discipline → Address → Report
  | explicitFree => Exchange.unread
  | heapRewind => Exchange.unterminated "result set" "result"

/-- The module has the functions that a discipline calls. -/
def Discipline.Equips {σ : Type} (discipline : Discipline) (module : Module σ) : Prop :=
  ∀ name ∈ discipline.requiredExports, module.hasFunction name = true

/-- What a guest makes of texts and documents. -/
structure Semantics (δ : Type) where
  /-- A text may be parsed into a document, or rejected. -/
  parses : Bytes → Option δ → Prop
  /-- An entrypoint may have this result set for an input and a dataset. -/
  answers : UInt32 → δ → δ → δ → Prop
  /-- A document may be dumped as a text, or as one without a terminator. -/
  dumps : δ → Option Bytes → Prop
  /-- The evaluation of an input text that is no document may be answered like
  this for a dataset. -/
  garbles : UInt32 → Bytes → δ → Option Bytes → Prop

structure Rules (δ : Type) where
  parse : Bytes → Option δ
  /-- The result set of an entrypoint for an input and a dataset. -/
  answer : UInt32 → δ → δ → δ
  dump : δ → Bytes

namespace Semantics

/-- Nothing is known about documents. -/
def silent : Semantics Unit :=
  ⟨fun _ _ => True, fun _ _ _ _ => True, fun _ _ => True, fun _ _ _ _ => True⟩

variable {δ : Type}

/-- The guest computes what a policy says.  About a text that is no document a
policy says nothing. -/
def ofRules (rules : Rules δ) : Semantics δ where
  parses raw document := document = rules.parse raw
  answers entrypoint input data set := set = rules.answer entrypoint input data
  dumps document text := text = some (rules.dump document)
  garbles _ _ _ _ := True

/-- Every text that the host writes can be parsed. -/
def Accepts (semantics : Semantics δ) : Prop :=
  ∀ value raw, Payload.encode value = .ok raw → ∃ document, semantics.parses raw (some document)

def valueIn (path : String) (schema : Schema) (text : Bytes) : Except Fault Value :=
  match Payload.lastResult text schema path with
  | .ok value => .ok value
  | .error r => .error (.report r)

/-- Reading a result set ends with the value in it, or with what is wrong with
it. -/
theorem ends_lastResult {S : Type} (path : String) (schema : Schema) (text : Bytes) (s : S)
    (good : Value → S → Prop) (bad : Fault → S → Prop) :
    Operation.Ends (Operation.liftReport (Payload.lastResult text schema path)) s good bad ↔
      match valueIn path schema text with
      | .ok value => good value s
      | .error fault => bad fault s := by
  rw [Operation.ends_liftReport]
  unfold valueIn
  cases Payload.lastResult text schema path <;> rfl

/-- What the host makes of a text of the guest.  One without a terminator is
reported with its address. -/
inductive Reads (unread : Address → Report) (path : String) (schema : Schema) :
    Option Bytes → Except Fault Value → Prop
  | text (text : Bytes) : Reads unread path schema (some text) (valueIn path schema text)
  | unterminated (address : Address) :
      Reads unread path schema none (.error (.report (unread address)))

/-- How an evaluation of two documents may end. -/
inductive Judges (semantics : Semantics δ) (unread : Address → Report) (path : String)
    (entrypoint : UInt32) (schema : Schema) (input data : δ) : Except Fault Value → Prop
  | dumped (set : δ) (text : Option Bytes) (outcome : Except Fault Value)
      (answered : semantics.answers entrypoint input data set)
      (dumped : semantics.dumps set text) (told : Reads unread path schema text outcome) :
      Judges semantics unread path entrypoint schema input data outcome

/-- A text is rejected, and the fault says so. -/
def Rejects (semantics : Semantics δ) (raw : Bytes) (fault : Fault) : Prop :=
  semantics.parses raw none ∧ fault = .report Exchange.rejected

/-- How a single evaluation of an input text may end.  One discipline has the
text parsed first, and the other hands it over as it is. -/
inductive JudgesText (semantics : Semantics δ) (path : String) (entrypoint : UInt32)
    (schema : Schema) (raw : Bytes) (data : δ) : Discipline → Except Fault Value → Prop
  | parsed (discipline : Discipline) (input : δ) (outcome : Except Fault Value)
      (accepted : semantics.parses raw (some input))
      (judged : semantics.Judges discipline.unread path entrypoint schema input data outcome) :
      JudgesText semantics path entrypoint schema raw data discipline outcome
  | rejected (fault : Fault) (reason : semantics.Rejects raw fault) :
      JudgesText semantics path entrypoint schema raw data .explicitFree (.error fault)
  | garbled (text : Option Bytes) (outcome : Except Fault Value)
      (unparsed : ¬ ∃ input, semantics.parses raw (some input))
      (answered : semantics.garbles entrypoint raw data text)
      (told : Reads Discipline.heapRewind.unread path schema text outcome) :
      JudgesText semantics path entrypoint schema raw data .heapRewind outcome

/-- A fault for which a payload does not become a document: it has no text, or
the memory is short, or the text is rejected. -/
def Refuses (semantics : Semantics δ) (payload : Except Report Bytes) (fault : Fault) : Prop :=
  match payload with
  | .error r => fault = .report r
  | .ok raw => fault.isShortage ∨ semantics.Rejects raw fault

end Semantics

namespace Rules

variable {δ : Type}

/-- What a policy says an evaluation comes to. -/
def verdict (rules : Rules δ) (path : String) (entrypoint : UInt32) (schema : Schema)
    (input data : δ) : Except Fault Value :=
  Semantics.valueIn path schema (rules.dump (rules.answer entrypoint input data))

/-- A policy leaves no choice how an evaluation ends. -/
theorem eq_verdict (rules : Rules δ) (unread : Address → Report) (path : String)
    (entrypoint : UInt32) (schema : Schema) (input data : δ) (outcome : Except Fault Value)
    (judged : (Semantics.ofRules rules).Judges unread path entrypoint schema input data outcome) :
    outcome = rules.verdict path entrypoint schema input data := by
  rcases judged with ⟨set, text, _, answered, dumped, told⟩
  cases answered
  cases dumped
  cases told
  rfl

end Rules

namespace Request

variable {σ : Type}

theorem call_ends (request : Request) (guest : Instance σ) (arguments : List Int)
    (words : arguments.map UInt32.ofInt = request.arguments)
    (exported : guest.module.hasFunction request.name = true) (usable : guest.trapped = false) :
    Operation.Ends (Instance.callVoid request.name arguments) guest
      (fun _ after => ∃ answer, request.Done answer guest after)
      (fun _ after => after.trapped = true) := by
  unfold Done
  rw [← words]
  exact Instance.callVoid_ends guest request.name arguments exported usable

theorem callWord_ends (request : Request) (guest : Instance σ) (arguments : List Int)
    (words : arguments.map UInt32.ofInt = request.arguments)
    (exported : guest.module.hasFunction request.name = true) (usable : guest.trapped = false)
    (answers : ∀ answer after, request.Answered guest.module guest.snapshot answer after →
      answer.isSome = true) :
    Operation.Ends (Instance.callWord request.name arguments) guest
      (fun word after => request.Done (some word) guest after)
      (fun _ after => after.trapped = true) := by
  unfold Done
  unfold Answered at answers
  rw [← words] at answers ⊢
  exact Instance.callWord_ends guest request.name arguments exported usable answers

end Request
end PolicyHost
