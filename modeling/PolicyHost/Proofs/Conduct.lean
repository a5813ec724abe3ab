import PolicyHost.Proofs.Accounts
import PolicyHost.Proofs.Finality
import PolicyHost.Proofs.Heap

namespace PolicyHost

/-!
# Policies that may give up

`Rules` compute a result set for everything.  A policy may also give up: its
code may trap, or say so to a handler that stops the evaluation.  A `Conduct`
is a policy of that kind.  How an evaluation ends, and with what, depends on
the entrypoint, the input and the dataset, and on nothing else.

A guest that follows a conduct may still end a call before its time because
its memory does not suffice.  Which calls these are cannot be told from
documents, so it is left to a predicate on what is done to the guest.
-/

variable {σ δ : Type} {module : Module σ}

namespace Instance.Ending

/-- Two calls end in the same way, whatever they return. -/
inductive Like {α β : Type} : Ending α → Ending β → Prop
  | returned (a : α) (b : β) : Like (.returned a) (.returned b)
  | trapped : Like .trapped .trapped
  | refused (fault : Fault) : Like (.refused fault) (.refused fault)

/-- The fault of a call that did not come back. -/
def Fatal {α : Type} (name : String) (fault : Fault) : Ending α → Prop
  | .returned _ => False
  | .trapped => fault = .report (Report.trapped name engineText)
  | .refused reason => fault = reason

theorem Fatal.eq {α : Type} {ending : Ending α} {name : String} {fault fault' : Fault}
    (first : ending.Fatal name fault) (second : ending.Fatal name fault') : fault = fault' := by
  cases ending with
  | returned _ => exact first.elim
  | trapped => exact Eq.trans first (Eq.symm second)
  | refused _ => exact Eq.trans first (Eq.symm second)

end Instance.Ending

open Instance

structure Conduct (δ : Type) where
  parse : Bytes → Option δ
  /-- How the evaluation of an input and a dataset ends, with its result set. -/
  judge : UInt32 → δ → δ → Ending δ
  /-- The text of a document, unless it has no terminator. -/
  dump : δ → Option Bytes
  /-- How the evaluation of an input text that is no document ends, with the
  text that it is answered with. -/
  garble : UInt32 → Bytes → δ → Ending (Option Bytes)

namespace Conduct

/-- What the answers of a guest mean that follows a conduct. -/
def semantics (conduct : Conduct δ) : Semantics δ where
  parses raw document := document = conduct.parse raw
  answers entrypoint input data set := conduct.judge entrypoint input data = .returned set
  dumps document text := text = conduct.dump document
  garbles entrypoint raw data text := conduct.garble entrypoint raw data = .returned text

/-- Policies that compute are policies. -/
def ofRules (rules : Rules δ) (garble : UInt32 → Bytes → δ → Ending (Option Bytes)) :
    Conduct δ where
  parse := rules.parse
  judge entrypoint input data := .returned (rules.answer entrypoint input data)
  dump document := some (rules.dump document)
  garble := garble

end Conduct

/-- The export that a discipline enters for a single evaluation. -/
def Discipline.evaluator : Discipline → String
  | explicitFree => "eval"
  | heapRewind => "opa_eval"

/-- The policy gives up during a piece of work, with a fault. -/
inductive Conduct.Fells (conduct : Conduct δ) (discipline : Discipline) :
    Work δ → Fault → Prop
  | evaluate (path : String) (entrypoint : Int) (schema : Schema) (raw : Bytes) (x y : δ)
      (fault : Fault) (parsed : conduct.parse raw = some x)
      (fatal : (conduct.judge (UInt32.ofInt entrypoint) x y).Fatal discipline.evaluator fault) :
      Fells conduct discipline (.evaluate path entrypoint schema raw y) fault
  | garble (path : String) (entrypoint : Int) (schema : Schema) (raw : Bytes) (y : δ)
      (fault : Fault) (rewinds : discipline = .heapRewind) (unparsed : conduct.parse raw = none)
      (fatal : (conduct.garble (UInt32.ofInt entrypoint) raw y).Fatal discipline.evaluator fault) :
      Fells conduct discipline (.evaluate path entrypoint schema raw y) fault
  | contextEval (path : String) (entrypoint : Int) (schema : Schema) (x y : δ) (fault : Fault)
      (fatal : (conduct.judge (UInt32.ofInt entrypoint) x y).Fatal "eval" fault) :
      Fells conduct discipline (.contextEval path entrypoint schema x y) fault

/-!
### Guests that follow a conduct
-/

/-- The exports that run the policy. -/
def evaluators : List String := ["eval", "opa_eval"]

/-- Whether something that is done to a guest runs its policy. -/
def Access.Evaluates : Access σ → Prop
  | .call name _ _ => name ∈ evaluators
  | .write _ _ => False

/-- What a module exports under the names that the host enters takes as many
arguments as the host passes. -/
def Module.Fits (module : Module σ) : Prop :=
  ∀ entry ∈ abi, module.hasFunction entry.1 = true →
    module.find? entry.1 = some (.function entry.2)

/-- How the code of an export ends. -/
def Module.ending (module : Module σ) (handlers : Handlers) (name : String)
    (arguments : List UInt32) (found : Snapshot σ) : Ending (Option UInt32) :=
  (module.invoke name arguments found.memory found.state).ending handlers

/-- What is true of any guest as long as its memory suffices: whatever is done
to it comes back, but for evaluations. -/
structure Module.Prompt (module : Module σ) (handlers : Handlers) (short : Access σ → Prop) :
    Prop where
  fits : module.Fits
  returns : ∀ access : Access σ, ¬ access.Evaluates → ¬ short access →
    access.Returned module handlers

/-- Evaluations end like those of the conduct, as long as memory suffices. -/
structure Meaning.Follows {accounts : Accounts module} {conduct : Conduct δ}
    (meaning : Meaning accounts conduct.semantics) (handlers : Handlers)
    (short : Access σ → Prop) : Prop extends module.Prompt handlers short where
  runs : ∀ context input data entrypoint x y found, accounts.sound found →
    accounts.Allows (.run context) found →
    meaning.holds found context (.record ⟨some input, some data, some entrypoint⟩) →
    input ∈ accounts.live found → meaning.holds found input (.document x) →
    data ∈ accounts.live found → meaning.holds found data (.document y) →
    ¬ short (.call "eval" [context] found) →
      (conduct.judge entrypoint x y).Like (module.ending handlers "eval" [context] found)

/-- The same for a guest whose heap is rewound. -/
structure HeapMeaning.Follows {heap : Heap module} {conduct : Conduct δ}
    (meaning : HeapMeaning heap conduct.semantics) (handlers : Handlers)
    (short : Access σ → Prop) : Prop extends module.Prompt handlers short where
  runs : ∀ context input data entrypoint x y bound inputBound dataBound found,
    heap.Allows (.run context) found → bound ≤ heap.top found →
    meaning.holds found bound context (.record ⟨some input, some data, some entrypoint⟩) →
    inputBound ≤ context.toNat → meaning.holds found inputBound input (.document x) →
    dataBound ≤ context.toNat → meaning.holds found dataBound data (.document y) →
    ¬ short (.call "eval" [context] found) →
      (conduct.judge entrypoint x y).Like (module.ending handlers "eval" [context] found)
  evaluates : ∀ entrypoint data input length start x y bound found,
    heap.Allows (.evaluate entrypoint data input length start) found → bound ≤ input.toNat →
    meaning.holds found bound data (.document y) →
    conduct.parse (found.memory.bytes input.toNat length.toNat) = some x →
    ¬ short (.call "opa_eval" [0, entrypoint, data, input, length, start, 0] found) →
      (conduct.judge entrypoint x y).Like
        (module.ending handlers "opa_eval" [0, entrypoint, data, input, length, start, 0] found)
  /-- So do evaluations of texts that are no documents. -/
  garbles : ∀ entrypoint data input length start y bound found,
    heap.Allows (.evaluate entrypoint data input length start) found → bound ≤ input.toNat →
    meaning.holds found bound data (.document y) →
    conduct.parse (found.memory.bytes input.toNat length.toNat) = none →
    ¬ short (.call "opa_eval" [0, entrypoint, data, input, length, start, 0] found) →
      (conduct.garble entrypoint (found.memory.bytes input.toNat length.toNat) y).Like
        (module.ending handlers "opa_eval" [0, entrypoint, data, input, length, start, 0] found)

/-- A guest that follows a conduct under a discipline, with these handlers,
except for what is short of memory. -/
inductive Obeys (module : Module σ) (handlers : Handlers) (conduct : Conduct δ)
    (short : Access σ → Prop) : Discipline → Prop
  | explicitFree (accounts : Accounts module) (meaning : Meaning accounts conduct.semantics)
      (follows : meaning.Follows handlers short) :
      Obeys module handlers conduct short .explicitFree
  | heapRewind (heap : Heap module) (meaning : HeapMeaning heap conduct.semantics)
      (follows : meaning.Follows handlers short) :
      Obeys module handlers conduct short .heapRewind

/-!
### Guests of policies that compute
-/

/-- Whether the code that was entered came back can be told by running it. -/
instance (module : Module σ) (handlers : Handlers) :
    DecidablePred (Access.Returned module handlers)
  | .write _ _ => .isTrue trivial
  | .call name arguments found =>
    match ended : module.ending handlers name arguments found with
    | .returned answer => .isTrue ⟨answer, ended⟩
    | .trapped => .isFalse fun ⟨_, returned⟩ => nomatch ended.symm.trans returned
    | .refused _ => .isFalse fun ⟨_, returned⟩ => nomatch ended.symm.trans returned

/-- Whatever did not come back was short of memory.  That is the most that can
be said of a guest whose policy never gives up. -/
abbrev Module.Stuck (module : Module σ) (handlers : Handlers) (access : Access σ) : Prop :=
  ¬ access.Returned module handlers

theorem Module.Fits.prompt (fits : module.Fits) (handlers : Handlers) :
    module.Prompt handlers (module.Stuck handlers) :=
  ⟨fits, fun _ _ ample => not_not.mp ample⟩

variable {rules : Rules δ} {garble : UInt32 → Bytes → δ → Ending (Option Bytes)}

/-- What the blocks of a guest hold that computes. -/
def Meaning.computed {accounts : Accounts module} (meaning : Meaning accounts (.ofRules rules))
    (garble : UInt32 → Bytes → δ → Ending (Option Bytes)) :
    Meaning accounts (Conduct.ofRules rules garble).semantics where
  holds := meaning.holds
  shaped := meaning.shaped
  texts := meaning.texts
  keeps := meaning.keeps
  fills := meaning.fills
  parses := meaning.parses
  opens := meaning.opens
  setsInput := meaning.setsInput
  setsData := meaning.setsData
  setsEntrypoint := meaning.setsEntrypoint
  runs context input data entrypoint x y before answer after sound allowed answered record first
      held second held' := by
    rcases meaning.runs context input data entrypoint x y before answer after sound allowed answered
      record first held second held' with ⟨record, set, rfl, stored⟩
    exact ⟨record, _, rfl, stored⟩
  dumps := meaning.dumps

theorem Meaning.computed_follows {accounts : Accounts module}
    (meaning : Meaning accounts (.ofRules rules)) (fits : module.Fits) (handlers : Handlers) :
    (meaning.computed garble).Follows handlers (module.Stuck handlers) where
  toPrompt := fits.prompt handlers
  runs context input data entrypoint x y found _ _ _ _ _ _ _ ample := by
    rcases not_not.mp ample with ⟨answer, returned⟩
    rw [show module.ending handlers "eval" [context] found = _ from returned]
    exact .returned _ _

/-- What the heap of a guest holds that computes, and does not answer to what
is no document. -/
def HeapMeaning.computed {heap : Heap module} (meaning : HeapMeaning heap (.ofRules rules))
    (garbles : ∀ entrypoint data input length start before answer after,
      heap.Allows (.evaluate entrypoint data input length start) before →
      (Request.evaluate entrypoint data input length start).Answered module before answer after →
        (rules.parse (before.memory.bytes input.toNat length.toNat)).isSome = true) :
    HeapMeaning heap (Conduct.ofRules rules garble).semantics where
  holds := meaning.holds
  shaped := meaning.shaped
  texts := meaning.texts
  keeps := meaning.keeps
  ignores := meaning.ignores
  parses := meaning.parses
  opens := meaning.opens
  setsInput := meaning.setsInput
  setsData := meaning.setsData
  setsEntrypoint := meaning.setsEntrypoint
  runs context input data entrypoint x y bound inputBound dataBound before answer after allowed
      answered below record first held second held' := by
    rcases meaning.runs context input data entrypoint x y bound inputBound dataBound before answer
      after allowed answered below record first held second held' with ⟨record, set, rfl, stored⟩
    exact ⟨record, _, rfl, stored⟩
  dumps := meaning.dumps
  evaluates entrypoint data input length start x y bound before text after allowed answered below
      held parsed := by
    rcases meaning.evaluates entrypoint data input length start x y bound before text after allowed
      answered below held parsed with ⟨set, rfl, dumped⟩
    exact ⟨_, rfl, dumped⟩
  garbles entrypoint data input length start y bound before text after allowed answered _ _
      unparsed := by
    rcases Option.isSome_iff_exists.mp (garbles _ _ _ _ _ _ _ _ allowed answered) with ⟨x, parsed⟩
    exact absurd ⟨x, Eq.symm parsed⟩ unparsed

namespace Shelf

variable (rules : Rules δ) (table : δ) (minor : Int)

theorem fits : (toModule rules table minor).Fits := by
  have listed : ∀ entry ∈ abi, (toModule rules table minor).find? entry.1 =
      some (.function entry.2) := by
    simp only [abi, List.forall_mem_cons]
    exact ⟨rfl, rfl, rfl, rfl, rfl, rfl, rfl, rfl, rfl, rfl, rfl, rfl, rfl, rfl,
      List.forall_mem_nil _⟩
  exact fun entry member _ => listed entry member

theorem evaluate_parsed (entrypoint data input length start : UInt32)
    (before : Snapshot (Shelf δ)) (answer : Option UInt32) (after : Snapshot (Shelf δ))
    (answered : (Request.evaluate entrypoint data input length start).Answered
      (toModule rules table minor) before answer after) :
    (rules.parse (before.memory.bytes input.toNat length.toNat)).isSome = true := by
  rcases Request.serve_evaluate ((answered_iff ..).mp answered) with ⟨x, _, evaluated⟩
  rw [evaluated.parsed]
  rfl

theorem answers_of_ending (handlers : Handlers) (name : String) (arguments : List UInt32)
    (found : Snapshot (Shelf δ)) (answer : Option UInt32)
    (returned : (toModule rules table minor).ending handlers name arguments found =
      .returned answer) :
    ∃ after, (toModule rules table minor).Answers name arguments found answer after := by
  unfold Module.ending toModule at returned
  dsimp only at returned
  cases entered : enter rules table name arguments found with
  | none =>
    rw [entered] at returned
    cases returned
  | some done =>
    rw [entered] at returned
    cases returned
    exact ⟨done.2, (answers_iff ..).mpr entered⟩

/-- What the heap of the shelf holds, whose policy computes. -/
def computes (garble : UInt32 → Bytes → δ → Ending (Option Bytes)) :
    HeapMeaning (heap rules table minor) (Conduct.ofRules rules garble).semantics :=
  (heapMeaning rules table minor).computed
    fun entrypoint data input length start before answer after _ answered =>
      evaluate_parsed rules table minor entrypoint data input length start before answer after
        answered

theorem computes_follows (handlers : Handlers) :
    (computes rules table minor garble).Follows handlers
      ((toModule rules table minor).Stuck handlers) where
  toPrompt := (fits rules table minor).prompt handlers
  runs context input data entrypoint x y bound inputBound dataBound found _ _ _ _ _ _ _ ample := by
    rcases not_not.mp ample with ⟨answer, returned⟩
    rw [show Module.ending _ handlers "eval" [context] found = _ from returned]
    exact .returned _ _
  evaluates entrypoint data input length start x y bound found _ _ _ _ ample := by
    rcases not_not.mp ample with ⟨answer, returned⟩
    rw [show Module.ending _ handlers "opa_eval" _ found = _ from returned]
    exact .returned _ _
  garbles entrypoint data input length start y bound found _ _ _ unparsed ample := by
    rcases not_not.mp ample with ⟨answer, returned⟩
    rcases answers_of_ending rules table minor handlers _ _ _ _ returned with ⟨after, answered⟩
    have parsed := evaluate_parsed rules table minor entrypoint data input length start found
      answer after answered
    rw [show rules.parse _ = none from unparsed] at parsed
    cases parsed

/-- The shelf follows every policy that computes.  What is no document makes it
trap. -/
theorem obeys (handlers : Handlers) (discipline : Discipline) :
    Obeys (toModule rules table minor) handlers (Conduct.ofRules rules fun _ _ _ => .trapped)
      ((toModule rules table minor).Stuck handlers) discipline := by
  cases discipline with
  | explicitFree =>
    exact .explicitFree _ ((meaning rules table minor).computed _)
      (Meaning.computed_follows _ (fits rules table minor) handlers)
  | heapRewind =>
    exact .heapRewind _ (computes rules table minor _) (computes_follows rules table minor handlers)

end Shelf
end PolicyHost
