import PolicyHost.Evaluation.Builder
import PolicyHost.Proofs.Abi

namespace PolicyHost

/-!
# Guests whose heap is rewound

Under the rewinding discipline a guest allocates upwards from a heap pointer,
and the host moves the pointer back.  `Heap` says what may be relied on: no
request changes the heap below the place where it works, what lies below a
mark stays in order as long as nothing is written there, and moving the
pointer to such a mark is safe, whatever happened above it.  The last part
matters, because the host writes raw text above the mark, over whatever the
guest had there.

As with accounts, what the heap holds is told by a meaning of its own, and
every guest has the meaning that says nothing.
-/

variable {σ δ : Type}

namespace Request

/-- Whether a request belongs to the rewinding discipline. -/
def rewinds : Request → Bool
  | free _ => false
  | _ => true

/-- Whether a request of the rewinding discipline works at the heap pointer as
it finds it. -/
def atPointer : Request → Bool
  | free _ | setHeapPointer _ | evaluate _ _ _ _ _ => false
  | _ => true

end Request

/-- How the heap of a guest is read off the guest. -/
structure Layout (σ : Type) where
  /-- Where the heap begins. -/
  bottom : Nat
  pointer : Snapshot σ → UInt32
  /-- The guest is in order as far as it lies below a mark, and its heap
  pointer is not below the mark. -/
  intact : Snapshot σ → Nat → Prop
  /-- A thing of some kind is at an address, and all of it lies in the heap
  below a bound. -/
  stores : Snapshot σ → Nat → UInt32 → Shape → Prop
  /-- The document that the last run in a context record left. -/
  result : Snapshot σ → UInt32 → UInt32

namespace Layout

/-- The heap pointer as a mark. -/
def top (layout : Layout σ) (snapshot : Snapshot σ) : Nat :=
  (layout.pointer snapshot).toNat

/-- The mark below which a request needs the guest to be in order. -/
def needs (layout : Layout σ) (found : Snapshot σ) : Request → Nat
  | .setHeapPointer address => address.toNat
  | .evaluate _ _ input _ _ => input.toNat
  | _ => layout.top found

/-- The mark below which a request leaves the guest in order. -/
def leaves (layout : Layout σ) (after : Snapshot σ) : Request → Nat
  | .setHeapPointer address => address.toNat
  | .evaluate _ _ input _ _ => input.toNat
  | _ => layout.top after

/-- The place below which a request changes nothing in the heap. -/
def floor (layout : Layout σ) (found : Snapshot σ) : Request → Nat
  | .setInput context _ => context.toNat
  | .setData context _ => context.toNat
  | .setEntrypoint context _ => context.toNat
  | .run context => context.toNat
  | .setHeapPointer address => address.toNat
  | .evaluate _ _ _ _ heap => heap.toNat
  | _ => layout.top found

/-- The place from which a request allocates, if it does. -/
def allocatesFrom (layout : Layout σ) (found : Snapshot σ) : Request → Option Nat
  | .malloc _ | .parse _ _ | .dump _ | .newContext | .run _ => some (layout.top found)
  | .evaluate _ _ _ _ heap => some heap.toNat
  | _ => none

/-- A request is one of the discipline, the guest is in order as far as it is
needed, and the addresses passed are those of what they are taken for.  The
heap pointer is moved within the heap, and a raw text ends where the heap is
to begin. -/
structure Allows (layout : Layout σ) (request : Request) (found : Snapshot σ) : Prop where
  rewinds : request.rewinds = true
  intact : layout.intact found (layout.needs found request)
  uses : ∀ use ∈ request.uses, ∃ bound ≤ layout.needs found request,
    layout.stores found bound use.1 use.2
  within : ∀ address, request = .setHeapPointer address → layout.bottom ≤ address.toNat
  input : ∀ entrypoint data input length heap,
    request = .evaluate entrypoint data input length heap →
      input.toNat + length.toNat ≤ heap.toNat

/-- What a request answers, and where it moves the heap pointer. -/
def Effect (layout : Layout σ) (before : Snapshot σ) (answer : Option UInt32)
    (after : Snapshot σ) : Request → Prop
  | .malloc size =>
    ∃ block, answer = some block ∧ block ≠ 0 ∧ layout.top before ≤ block.toNat ∧
      block.toNat + size.toNat ≤ layout.top after ∧
      layout.stores after (layout.top after) block .text
  | .parse _ _ =>
    ∃ document, answer = some document ∧ layout.top before ≤ layout.top after ∧
      (document ≠ 0 → layout.stores after (layout.top after) document .document)
  | .dump _ => ∃ text, answer = some text ∧ layout.top before ≤ layout.top after
  | .newContext =>
    ∃ context, answer = some context ∧ layout.top before ≤ context.toNat ∧
      context.toNat ≤ layout.top after ∧
      layout.stores after (layout.top after) context .record
  | .run context =>
    layout.top before ≤ layout.top after ∧
      layout.stores after (layout.top after) (layout.result after context) .document
  | .result context =>
    answer = some (layout.result before context) ∧ layout.pointer after = layout.pointer before
  | .heapPointer =>
    answer = some (layout.pointer before) ∧ layout.pointer after = layout.pointer before
  | .setHeapPointer address => layout.pointer after = address
  | .evaluate _ _ _ _ heap => ∃ text, answer = some text ∧ heap.toNat ≤ layout.top after
  | _ => layout.pointer after = layout.pointer before

theorem effect_isSome (layout : Layout σ) {request : Request} {before after : Snapshot σ}
    {answer : Option UInt32} (replies : request.replies = true)
    (effect : layout.Effect before answer after request) : answer.isSome = true := by
  cases request with
  | malloc | parse | dump | newContext | evaluate =>
    rcases effect with ⟨_, rfl, _⟩
    rfl
  | result | heapPointer =>
    rcases effect with ⟨rfl, _⟩
    rfl
  | setInput | setData | setEntrypoint | run | free | setHeapPointer => cases replies

end Layout

/-- A module whose guest lets its heap be rewound. -/
structure Heap (module : Module σ) extends Layout σ where
  starts : ∀ limit after,
    (module.start (Memory.fresh Builder.initialPages limit) module.initial).outcome =
      some ((), after) → intact after (toLayout.top after)
  bounded : ∀ snapshot mark, intact snapshot mark → snapshot.memory.pages ≤ mostPages
  lower : ∀ snapshot mark mark', intact snapshot mark → mark' ≤ mark → intact snapshot mark'
  reaches : ∀ snapshot mark, intact snapshot mark →
    mark ≤ toLayout.top snapshot ∧ bottom ≤ toLayout.top snapshot
  /-- The entrypoint table is a document. -/
  table : ∀ before answer after, intact before (toLayout.top before) →
    module.Answers "entrypoints" [] before answer after →
      intact after (toLayout.top after) ∧ ∃ document, answer = some document ∧
        stores after (toLayout.top after) document .document
  answers : ∀ request before answer after, toLayout.Allows request before →
    request.Answered module before answer after →
      intact after (toLayout.leaves after request) ∧ toLayout.Effect before answer after request
  /-- What lies below the place where a request works is not changed. -/
  keepsBytes : ∀ request before answer after address, toLayout.Allows request before →
    request.Answered module before answer after → bottom ≤ address →
    address < toLayout.floor before request →
      after.memory.byte address = before.memory.byte address
  keepsStores : ∀ request before answer after bound address shape,
    toLayout.Allows request before → request.Answered module before answer after →
    bound ≤ toLayout.floor before request → stores before bound address shape →
      stores after bound address shape
  /-- A context record stays one when it is used. -/
  keepsRecord : ∀ request before answer after bound context, toLayout.Allows request before →
    request.Answered module before answer after → request.touched = some context →
    bound ≤ toLayout.top before → stores before bound context .record →
      stores after bound context .record
  /-- The host may fill a block that it was just handed, and give the guest
  more pages for it. -/
  fills : ∀ size before block after pages bytes, toLayout.Allows (.malloc size) before →
    (Request.malloc size).Answered module before (some block) after →
    bytes.length = size.toNat → after.memory.pages ≤ pages → pages ≤ mostPages →
    block.toNat + bytes.length ≤ pages * pageSize →
      intact (after.written pages block.toNat bytes) (toLayout.top after) ∧
        pointer (after.written pages block.toNat bytes) = pointer after ∧
        stores (after.written pages block.toNat bytes) (toLayout.top after) block .text
  /-- The host may write anything above a mark, as far as the guest below the
  mark is concerned. -/
  ignores : ∀ snapshot mark pages address bytes, intact snapshot mark → mark ≤ address →
    bytes ≠ [] → snapshot.memory.pages ≤ pages → pages ≤ mostPages →
    address + bytes.length ≤ pages * pageSize →
      intact (snapshot.written pages address bytes) mark ∧
        pointer (snapshot.written pages address bytes) = pointer snapshot
  ignoresStores : ∀ snapshot pages start bytes bound address shape, bound ≤ start →
    snapshot.memory.pages ≤ pages → stores snapshot bound address shape →
      stores (snapshot.written pages start bytes) bound address shape

structure HeapMeaning {module : Module σ} (heap : Heap module) (semantics : Semantics δ) where
  holds : Snapshot σ → Nat → UInt32 → Object δ → Prop
  shaped : ∀ snapshot bound address object, holds snapshot bound address object →
    heap.stores snapshot bound address object.shape
  /-- A text may be any text. -/
  texts : ∀ snapshot bound address, heap.stores snapshot bound address .text →
    holds snapshot bound address .text
  keeps : ∀ request before answer after bound address object, heap.Allows request before →
    request.Answered module before answer after → bound ≤ heap.floor before request →
    holds before bound address object → holds after bound address object
  ignores : ∀ snapshot pages start bytes bound address object, bound ≤ start →
    snapshot.memory.pages ≤ pages → holds snapshot bound address object →
      holds (snapshot.written pages start bytes) bound address object
  parses : ∀ text length before document after, heap.Allows (.parse text length) before →
    (Request.parse text length).Answered module before (some document) after →
      (document = 0 → semantics.parses (before.memory.bytes text.toNat length.toNat) none) ∧
      (document ≠ 0 → ∃ d,
        semantics.parses (before.memory.bytes text.toNat length.toNat) (some d) ∧
          holds after (heap.top after) document (.document d))
  opens : ∀ before context after, heap.Allows .newContext before →
    Request.newContext.Answered module before (some context) after →
      holds after (heap.top after) context (.record {})
  setsInput : ∀ context document slots bound before answer after,
    heap.Allows (.setInput context document) before →
    (Request.setInput context document).Answered module before answer after →
    bound ≤ heap.top before → holds before bound context (.record slots) →
      holds after bound context (.record { slots with input := some document })
  setsData : ∀ context document slots bound before answer after,
    heap.Allows (.setData context document) before →
    (Request.setData context document).Answered module before answer after →
    bound ≤ heap.top before → holds before bound context (.record slots) →
      holds after bound context (.record { slots with data := some document })
  setsEntrypoint : ∀ context entrypoint slots bound before answer after,
    heap.Allows (.setEntrypoint context entrypoint) before →
    (Request.setEntrypoint context entrypoint).Answered module before answer after →
    bound ≤ heap.top before → holds before bound context (.record slots) →
      holds after bound context (.record { slots with entrypoint := some entrypoint })
  /-- A run stores the result set for what the record refers to, and leaves
  the record as it is. -/
  runs : ∀ context input data entrypoint x y bound inputBound dataBound before answer after,
    heap.Allows (.run context) before →
    (Request.run context).Answered module before answer after → bound ≤ heap.top before →
    holds before bound context (.record ⟨some input, some data, some entrypoint⟩) →
    inputBound ≤ context.toNat → holds before inputBound input (.document x) →
    dataBound ≤ context.toNat → holds before dataBound data (.document y) →
      holds after bound context (.record ⟨some input, some data, some entrypoint⟩) ∧
      ∃ set, semantics.answers entrypoint x y set ∧
        holds after (heap.top after) (heap.result after context) (.document set)
  dumps : ∀ document d bound before text after, heap.Allows (.dump document) before →
    (Request.dump document).Answered module before (some text) after →
    bound ≤ heap.top before → holds before bound document (.document d) →
      semantics.dumps d (after.memory.untilZero text.toNat)
  /-- The evaluation of an input text answers with the text of the same result
  set that a run for its document would store. -/
  evaluates : ∀ entrypoint data input length start x y bound before text after,
    heap.Allows (.evaluate entrypoint data input length start) before →
    (Request.evaluate entrypoint data input length start).Answered module before (some text)
      after →
    bound ≤ input.toNat → holds before bound data (.document y) →
    semantics.parses (before.memory.bytes input.toNat length.toNat) (some x) →
      ∃ set, semantics.answers entrypoint x y set ∧
        semantics.dumps set (after.memory.untilZero text.toNat)
  garbles : ∀ entrypoint data input length start y bound before text after,
    heap.Allows (.evaluate entrypoint data input length start) before →
    (Request.evaluate entrypoint data input length start).Answered module before (some text)
      after →
    bound ≤ input.toNat → holds before bound data (.document y) →
    (¬ ∃ x, semantics.parses (before.memory.bytes input.toNat length.toNat) (some x)) →
      semantics.garbles entrypoint (before.memory.bytes input.toNat length.toNat) y
        (after.memory.untilZero text.toNat)

namespace Heap

variable {module : Module σ}

/-- The meaning that says nothing but what kind of thing is where. -/
def silent (heap : Heap module) : HeapMeaning heap Semantics.silent where
  holds snapshot bound address object := heap.stores snapshot bound address object.shape
  shaped _ _ _ _ stored := stored
  texts _ _ _ stored := stored
  keeps request before answer after bound address object allowed answered below stored :=
    heap.keepsStores request before answer after bound address _ allowed answered below stored
  ignores snapshot pages start bytes bound address object below more stored :=
    heap.ignoresStores snapshot pages start bytes bound address _ below more stored
  parses text length before document after allowed answered := by
    rcases (heap.answers _ _ _ _ allowed answered).2 with ⟨_, same, _, stored⟩
    cases same
    exact ⟨fun _ => trivial, fun accepted => ⟨(), trivial, stored accepted⟩⟩
  opens before context after allowed answered := by
    rcases (heap.answers _ _ _ _ allowed answered).2 with ⟨_, same, _, _, stored⟩
    cases same
    exact stored
  setsInput context document slots bound before answer after allowed answered below stored :=
    heap.keepsRecord _ _ _ _ bound context allowed answered rfl below stored
  setsData context document slots bound before answer after allowed answered below stored :=
    heap.keepsRecord _ _ _ _ bound context allowed answered rfl below stored
  setsEntrypoint context document slots bound before answer after allowed answered below
      stored :=
    heap.keepsRecord _ _ _ _ bound context allowed answered rfl below stored
  runs context input data entrypoint x y bound inputBound dataBound before answer after allowed
      answered below stored _ _ _ _ :=
    ⟨heap.keepsRecord _ _ _ _ bound context allowed answered rfl below stored, (), trivial,
      (heap.answers _ _ _ _ allowed answered).2.2⟩
  dumps := by intros; trivial
  evaluates := by
    intros
    exact ⟨(), trivial, trivial⟩
  garbles := by intros; trivial

/-- An access that works from a place in the heap on: a raw write that begins
there, or a request that is allowed and allocates there. -/
def WorksFrom (heap : Heap module) (ground : Nat) : Access σ → Prop
  | .write address _ => ground ≤ address.offset
  | .call name arguments found =>
    ∃ request : Request, name = request.name ∧ arguments = request.arguments ∧
      heap.Allows request found ∧ ∀ place ∈ heap.allocatesFrom found request, ground ≤ place

end Heap
end PolicyHost
