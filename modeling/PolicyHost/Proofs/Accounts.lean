import Mathlib.Data.Finset.Basic
import PolicyHost.Evaluation.Builder
import PolicyHost.Proofs.Abi

namespace PolicyHost

/-!
# Guests that keep accounts of their blocks

Under the explicit discipline a guest hands out blocks of its memory and takes
them back.  `Accounts` says what that means: which blocks are live is a
function of the guest as it is, each export that hands a block out adds one
that was not live, `opa_free` removes one, and nothing else changes which
blocks are live.  All of it is assumed only of requests whose blocks are live,
so a host that frees a block twice or passes a stale one gets no promise.

`Meaning` adds what the blocks hold.  It is kept apart, because the balance of
blocks does not depend on it: every guest has the meaning that says nothing.
-/

variable {σ δ : Type}

namespace Request

/-- Whether a request belongs to the explicit discipline. -/
def releases : Request → Bool
  | heapPointer | setHeapPointer _ | evaluate _ _ _ _ _ => false
  | _ => true

end Request

/-- How a guest's accounts are read off the guest. -/
structure Books (σ : Type) where
  /-- The guest is in order. -/
  sound : Snapshot σ → Prop
  live : Snapshot σ → Finset UInt32
  /-- What kind of thing a live block holds. -/
  shape : Snapshot σ → UInt32 → Shape
  /-- The document that the last run in a context record left. -/
  result : Snapshot σ → UInt32 → UInt32

namespace Books

/-- A block that was not live becomes live. -/
def Gains (books : Books σ) (block : UInt32) (shape : Shape) (before after : Snapshot σ) : Prop :=
  block ∉ books.live before ∧ books.live after = insert block (books.live before) ∧
    books.shape after block = shape

/-- A request is one of the discipline, a block that it frees is live, and the
blocks that it uses are live and what it takes them for. -/
def Allows (books : Books σ) (request : Request) (found : Snapshot σ) : Prop :=
  request.releases = true ∧ (∀ block, request = .free block → block ∈ books.live found) ∧
    ∀ use ∈ request.uses, use.1 ∈ books.live found ∧ books.shape found use.1 = use.2

/-- What a request does to the accounts. -/
def Effect (books : Books σ) (before : Snapshot σ) (answer : Option UInt32)
    (after : Snapshot σ) : Request → Prop
  | .malloc _ | .dump _ => ∃ text, answer = some text ∧ books.Gains text .text before after
  | .newContext => ∃ context, answer = some context ∧ books.Gains context .record before after
  | .parse _ _ =>
    ∃ document, answer = some document ∧
      (document = 0 → books.live after = books.live before) ∧
      (document ≠ 0 → books.Gains document .document before after)
  | .run context => books.Gains (books.result after context) .document before after
  | .result context =>
    answer = some (books.result before context) ∧ books.live after = books.live before
  | .free block => books.live after = (books.live before).erase block
  | _ => books.live after = books.live before

theorem allows_used (books : Books σ) (request : Request) (found : Snapshot σ)
    (releases : request.releases = true) (keeps : request.frees = false)
    (used : ∀ use ∈ request.uses,
      use.1 ∈ books.live found ∧ books.shape found use.1 = use.2) :
    books.Allows request found := by
  refine ⟨releases, ?_, used⟩
  rintro block rfl
  cases keeps

theorem allows_unused (books : Books σ) (request : Request) (found : Snapshot σ)
    (releases : request.releases = true) (keeps : request.frees = false)
    (unused : request.uses = []) : books.Allows request found := by
  refine books.allows_used request found releases keeps ?_
  intro use member
  rw [unused] at member
  cases member

theorem effect_isSome (books : Books σ) {request : Request} {before after : Snapshot σ}
    {answer : Option UInt32} (releases : request.releases = true)
    (replies : request.replies = true) (effect : books.Effect before answer after request) :
    answer.isSome = true := by
  cases request with
  | malloc | dump | newContext | parse =>
    rcases effect with ⟨_, rfl, _⟩
    rfl
  | result =>
    rcases effect with ⟨rfl, _⟩
    rfl
  | heapPointer | evaluate => cases releases
  | setInput | setData | setEntrypoint | run | free | setHeapPointer => cases replies

end Books

/-- A module whose guest keeps accounts of its blocks. -/
structure Accounts (module : Module σ) extends Books σ where
  starts : ∀ limit after,
    (module.start (Memory.fresh Builder.initialPages limit) module.initial).outcome =
      some ((), after) → sound after
  bounded : ∀ snapshot, sound snapshot → snapshot.memory.pages ≤ mostPages
  /-- No block is at the null address. -/
  nonnull : ∀ snapshot, sound snapshot → 0 ∉ live snapshot
  /-- The entrypoint table is a document. -/
  table : ∀ before answer after, sound before →
    module.Answers "entrypoints" [] before answer after →
      sound after ∧ ∃ document, answer = some document ∧ document ∈ live after ∧
        shape after document = .document
  answers : ∀ request before answer after, sound before → toBooks.Allows request before →
    request.Answered module before answer after →
      sound after ∧ toBooks.Effect before answer after request
  /-- A block stays what it is until it is freed. -/
  shapes : ∀ request before answer after block, sound before → toBooks.Allows request before →
    request.Answered module before answer after → block ∈ live before →
    request ≠ .free block → shape after block = shape before block
  /-- The host may fill a block that it was just handed, and give the guest
  more pages for it. -/
  fills : ∀ size before block after pages bytes, sound before →
    (Request.malloc size).Answered module before (some block) after →
    bytes.length = size.toNat → after.memory.pages ≤ pages → pages ≤ mostPages →
    block.toNat + bytes.length ≤ pages * pageSize →
      sound (after.written pages block.toNat bytes) ∧
        live (after.written pages block.toNat bytes) = live after ∧
        ∀ other ∈ live after,
          shape (after.written pages block.toNat bytes) other = shape after other

structure Meaning {module : Module σ} (accounts : Accounts module) (semantics : Semantics δ) where
  holds : Snapshot σ → UInt32 → Object δ → Prop
  shaped : ∀ snapshot block object, holds snapshot block object →
    accounts.shape snapshot block = object.shape
  /-- A text may be any text. -/
  texts : ∀ snapshot block, accounts.shape snapshot block = .text → holds snapshot block .text
  /-- A request leaves the live blocks alone that it does not touch. -/
  keeps : ∀ request before answer after block object, accounts.sound before →
    accounts.Allows request before → request.Answered module before answer after →
    block ∈ accounts.live before → request.touched ≠ some block →
    holds before block object → holds after block object
  fills : ∀ size before block after pages bytes other object, accounts.sound before →
    (Request.malloc size).Answered module before (some block) after →
    bytes.length = size.toNat → after.memory.pages ≤ pages → pages ≤ mostPages →
    block.toNat + bytes.length ≤ pages * pageSize → other ∈ accounts.live after → other ≠ block →
    holds after other object → holds (after.written pages block.toNat bytes) other object
  parses : ∀ text length before document after, accounts.sound before →
    accounts.Allows (.parse text length) before →
    (Request.parse text length).Answered module before (some document) after →
      (document = 0 → semantics.parses (before.memory.bytes text.toNat length.toNat) none) ∧
      (document ≠ 0 → ∃ d,
        semantics.parses (before.memory.bytes text.toNat length.toNat) (some d) ∧
          holds after document (.document d))
  opens : ∀ before context after, accounts.sound before →
    Request.newContext.Answered module before (some context) after →
      holds after context (.record {})
  setsInput : ∀ context document slots before answer after, accounts.sound before →
    accounts.Allows (.setInput context document) before →
    (Request.setInput context document).Answered module before answer after →
    holds before context (.record slots) →
      holds after context (.record { slots with input := some document })
  setsData : ∀ context document slots before answer after, accounts.sound before →
    accounts.Allows (.setData context document) before →
    (Request.setData context document).Answered module before answer after →
    holds before context (.record slots) →
      holds after context (.record { slots with data := some document })
  setsEntrypoint : ∀ context entrypoint slots before answer after, accounts.sound before →
    accounts.Allows (.setEntrypoint context entrypoint) before →
    (Request.setEntrypoint context entrypoint).Answered module before answer after →
    holds before context (.record slots) →
      holds after context (.record { slots with entrypoint := some entrypoint })
  /-- A run stores the result set for what the record refers to, and leaves
  the record as it is. -/
  runs : ∀ context input data entrypoint x y before answer after, accounts.sound before →
    accounts.Allows (.run context) before →
    (Request.run context).Answered module before answer after →
    holds before context (.record ⟨some input, some data, some entrypoint⟩) →
    input ∈ accounts.live before → holds before input (.document x) →
    data ∈ accounts.live before → holds before data (.document y) →
      holds after context (.record ⟨some input, some data, some entrypoint⟩) ∧
      ∃ set, semantics.answers entrypoint x y set ∧
        holds after (accounts.result after context) (.document set)
  dumps : ∀ document d before text after, accounts.sound before →
    accounts.Allows (.dump document) before →
    (Request.dump document).Answered module before (some text) after →
    holds before document (.document d) →
      semantics.dumps d (after.memory.untilZero text.toNat)

namespace Accounts

/-- A block that a request uses stays what it is, unless it is freed. -/
theorem shape_used {module : Module σ} (accounts : Accounts module) {request : Request}
    {before after : Snapshot σ} {answer : Option UInt32} {block : UInt32} {kind : Shape}
    (sound : accounts.sound before) (allowed : accounts.Allows request before)
    (answered : request.Answered module before answer after) (used : (block, kind) ∈ request.uses)
    (spared : request ≠ .free block) : accounts.shape after block = accounts.shape before block :=
  accounts.shapes request before answer after block sound allowed answered
    (allowed.2.2 (block, kind) used).1 spared

/-- The meaning that says nothing but what kind of thing a block holds. -/
def silent {module : Module σ} (accounts : Accounts module) :
    Meaning accounts Semantics.silent where
  holds snapshot block object := accounts.shape snapshot block = object.shape
  shaped _ _ _ shaped := shaped
  texts _ _ shaped := shaped
  keeps request before answer after block object sound allowed answered live untouched shaped := by
    rw [accounts.shapes request before answer after block sound allowed answered live]
    · exact shaped
    · rintro rfl
      exact untouched rfl
  fills size before block after pages bytes other object sound answered length more most room live
      _ shaped := by
    rw [(accounts.fills size before block after pages bytes sound answered length more most
      room).2.2 other live]
    exact shaped
  parses text length before document after sound allowed answered := by
    rcases (accounts.answers _ _ _ _ sound allowed answered).2 with ⟨_, same, _, gained⟩
    cases same
    exact ⟨fun _ => trivial, fun accepted => ⟨(), trivial, (gained accepted).2.2⟩⟩
  opens before context after sound answered := by
    have allowed : accounts.Allows .newContext before :=
      accounts.allows_unused _ before rfl rfl rfl
    rcases (accounts.answers _ _ _ _ sound allowed answered).2 with ⟨_, same, gained⟩
    cases same
    exact gained.2.2
  setsInput context document slots before answer after sound allowed answered shaped := by
    rw [accounts.shape_used sound allowed answered (List.mem_cons_self ..) nofun]
    exact shaped
  setsData context document slots before answer after sound allowed answered shaped := by
    rw [accounts.shape_used sound allowed answered (List.mem_cons_self ..) nofun]
    exact shaped
  setsEntrypoint context entrypoint slots before answer after sound allowed answered shaped := by
    rw [accounts.shape_used sound allowed answered (List.mem_cons_self ..) nofun]
    exact shaped
  runs context input data entrypoint x y before answer after sound allowed answered shaped _ _ _
      _ := by
    refine ⟨?_, (), trivial, ?_⟩
    · rw [accounts.shape_used sound allowed answered (List.mem_cons_self ..) nofun]
      exact shaped
    · have gained : accounts.Gains (accounts.result after context) .document before after :=
        (accounts.answers _ _ _ _ sound allowed answered).2
      exact gained.2.2
  dumps := by intros; trivial

/-- An access that passes nothing to the guest but live blocks, each for what
it is: the call for the entrypoint table, a request that is allowed, or a raw
write. -/
def Lawful {module : Module σ} (accounts : Accounts module) : Access σ → Prop
  | .call name arguments found =>
    (name = "entrypoints" ∧ arguments = []) ∨
      ∃ request : Request, name = request.name ∧ arguments = request.arguments ∧
        accounts.Allows request found
  | .write _ _ => True

end Accounts
end PolicyHost
