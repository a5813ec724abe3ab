import PolicyHost.Proofs.Blame
import PolicyHost.Proofs.Recovery
import PolicyHost.Proofs.RoundTrip

namespace PolicyHost

/-!
# Echoes

A guest that answers with its input is the test of everything in between: the
value is written as a text, the text goes into the memory of the guest and out
of it again, and what comes out is read.  What goes in comes out, for all values
that come back from their texts, wherever the guest puts its answer.

For that, a guest may not be assumed to hand out texts as the host reads them.
It lays them out in its memory, byte by byte with a zero behind them, and the
host has to find them there.
-/

variable {σ δ : Type} {module : Module σ} {handlers : Handlers} {short : Access σ → Prop}
variable {conduct : Conduct δ}

namespace Memory

/-- What is in memory from an address on: a text in front of its terminator, or
bytes up to the end none of which terminates anything. -/
inductive Lies (memory : Memory) (address : Nat) : Option Bytes → Prop
  | text (text : Bytes) (inside : address + text.length < memory.size)
      (stored : memory.bytes address (text.length + 1) = text ++ [0]) (nonzero : 0 ∉ text) :
      Lies memory address (some text)
  | endless (nonzero : 0 ∉ memory.bytes address (memory.size - address)) :
      Lies memory address none

theorem Lies.untilZero {memory : Memory} {address : Nat} {text : Option Bytes}
    (lies : memory.Lies address text) (bounded : memory.pages ≤ mostPages) :
    memory.untilZero address = text := by
  cases lies with
  | text text inside stored nonzero =>
    exact untilZero_text memory address text inside bounded stored nonzero
  | endless nonzero =>
    exact untilZeroFrom_endless memory address [] (size_le_of_pages memory bounded) nonzero

end Memory

/-!
### Guests that lay out their texts
-/

/-- What the answers of a guest mean that follows a conduct, apart from what is
read of the texts of documents. -/
def Conduct.tacit (conduct : Conduct δ) : Semantics δ :=
  { conduct.semantics with dumps := fun _ _ => True }

/-- A guest that is asked for the text of a document lays it out in its memory. -/
def Meaning.Lays {accounts : Accounts module} (meaning : Meaning accounts conduct.tacit) : Prop :=
  ∀ document d before text after, accounts.sound before → accounts.Allows (.dump document) before →
    (Request.dump document).Answered module before (some text) after →
    meaning.holds before document (.document d) →
      after.memory.Lies text.toNat (conduct.dump d)

/-- What the blocks of such a guest hold, with the texts as the host reads them. -/
def Meaning.read {accounts : Accounts module} (meaning : Meaning accounts conduct.tacit)
    (lays : meaning.Lays) : Meaning accounts conduct.semantics :=
  { meaning with
    dumps := fun document d before text after sound allowed answered held => by
      have later := (accounts.answers _ _ _ _ sound allowed answered).1
      exact (lays document d before text after sound allowed answered held).untilZero
        (accounts.bounded after later) }

/-- A guest whose heap is rewound lays out the text of a document, and the text of
the result set of an evaluation. -/
structure HeapMeaning.Lays {heap : Heap module} (meaning : HeapMeaning heap conduct.tacit) :
    Prop where
  dumps : ∀ document d bound before text after, heap.Allows (.dump document) before →
    (Request.dump document).Answered module before (some text) after →
    bound ≤ heap.top before → meaning.holds before bound document (.document d) →
      after.memory.Lies text.toNat (conduct.dump d)
  evaluates : ∀ entrypoint data input length start x y bound before text after,
    heap.Allows (.evaluate entrypoint data input length start) before →
    (Request.evaluate entrypoint data input length start).Answered module before (some text)
      after →
    bound ≤ input.toNat → meaning.holds before bound data (.document y) →
    conduct.parse (before.memory.bytes input.toNat length.toNat) = some x →
      ∃ set, conduct.judge entrypoint x y = .returned set ∧
        after.memory.Lies text.toNat (conduct.dump set)

/-- What the heap of such a guest holds, with the texts as the host reads them. -/
def HeapMeaning.read {heap : Heap module} (meaning : HeapMeaning heap conduct.tacit)
    (lays : meaning.Lays) : HeapMeaning heap conduct.semantics :=
  { meaning with
    dumps := fun document d bound before text after allowed answered below held => by
      have later := (heap.answers _ _ _ _ allowed answered).1
      exact (lays.dumps document d bound before text after allowed answered below held).untilZero
        (heap.bounded after _ later)
    evaluates := fun entrypoint data input length start x y bound before text after allowed answered
        below held parsed => by
      have later := (heap.answers _ _ _ _ allowed answered).1
      rcases lays.evaluates entrypoint data input length start x y bound before text after allowed
        answered below held (Eq.symm parsed) with ⟨set, judged, lies⟩
      exact ⟨set, judged, lies.untilZero (heap.bounded after _ later)⟩ }

/-- A guest that follows a conduct under a discipline and lays out its texts, except
for what is short of memory. -/
inductive Lays (module : Module σ) (handlers : Handlers) (conduct : Conduct δ)
    (short : Access σ → Prop) : Discipline → Prop
  | explicitFree (accounts : Accounts module) (meaning : Meaning accounts conduct.tacit)
      (lays : meaning.Lays) (follows : (meaning.read lays).Follows handlers short) :
      Lays module handlers conduct short .explicitFree
  | heapRewind (heap : Heap module) (meaning : HeapMeaning heap conduct.tacit)
      (lays : meaning.Lays) (follows : (meaning.read lays).Follows handlers short) :
      Lays module handlers conduct short .heapRewind

theorem Lays.obeys {discipline : Discipline} (lays : Lays module handlers conduct short discipline) :
    Obeys module handlers conduct short discipline := by
  cases lays with
  | explicitFree accounts meaning lays follows => exact .explicitFree accounts _ follows
  | heapRewind heap meaning lays follows => exact .heapRewind heap _ follows

/-!
### Policies that echo
-/

/-- An entrypoint answers with the text of its input, in a result set, whatever the
dataset is, if that is the text. -/
structure Conduct.Echoes (conduct : Conduct δ) (entrypoint : UInt32) (raw : Bytes) : Prop where
  /-- The text is parsed, and dumped as it was. -/
  inverts : ∃ x, conduct.parse raw = some x ∧ conduct.dump x = some raw
  answers : ∀ x y, conduct.dump x = some raw →
    ∃ set, conduct.judge entrypoint x y = .returned set ∧
      conduct.dump set = some (resultSet raw)

namespace Conduct.Echoes

variable {entrypoint : UInt32} {raw : Bytes} {x y : δ} {fault : Fault}
variable {discipline : Discipline} {path : String} {schema : Schema}

/-- The document of the text is dumped as the text. -/
theorem dumps (echoes : conduct.Echoes entrypoint raw) (parsed : conduct.parse raw = some x) :
    conduct.dump x = some raw := by
  rcases echoes.inverts with ⟨x', parsed', dumped⟩
  cases parsed.symm.trans parsed'
  exact dumped

/-- An evaluation of the document comes to what its text comes to. -/
theorem judged (echoes : conduct.Echoes entrypoint raw) (parsed : conduct.parse raw = some x)
    {unread : Address → Report} {outcome : Except Fault Value}
    (judges : conduct.semantics.Judges unread path entrypoint schema x y outcome) :
    outcome = Semantics.valueIn path schema (resultSet raw) := by
  rcases echoes.answers x y (echoes.dumps parsed) with ⟨set, returned, dumped⟩
  rcases judges with ⟨set', text, _, answered, dumped', told⟩
  cases returned.symm.trans answered
  cases (show text = _ from dumped').trans dumped
  cases told
  rfl

/-- So does an evaluation of the text itself. -/
theorem judgedText (echoes : conduct.Echoes entrypoint raw) {outcome : Except Fault Value}
    (judges : conduct.semantics.JudgesText path entrypoint schema raw y discipline outcome) :
    outcome = Semantics.valueIn path schema (resultSet raw) := by
  rcases echoes.inverts with ⟨x, parsed, _⟩
  cases judges with
  | parsed _ x' _ accepted judges => exact echoes.judged (Eq.symm accepted) judges
  | rejected _ reason => exact nomatch parsed.symm.trans (Eq.symm reason.1)
  | garbled _ _ unparsed => exact absurd ⟨x, parsed.symm⟩ unparsed

/-- An echo does not give up. -/
theorem not_fatal (echoes : conduct.Echoes entrypoint raw) (parsed : conduct.parse raw = some x)
    (name : String) : ¬ (conduct.judge entrypoint x y).Fatal name fault := by
  rcases echoes.answers x y (echoes.dumps parsed) with ⟨set, returned, _⟩
  rw [returned]
  exact id

/-- Nor does the evaluation of a text. -/
theorem evaluates {id : Int} (echoes : conduct.Echoes (UInt32.ofInt id) raw) (fault : Fault) :
    ¬ conduct.Fells discipline (.evaluate path id schema raw y) fault := by
  rcases echoes.inverts with ⟨x, parsed, _⟩
  intro fells
  cases fells with
  | evaluate _ _ _ _ _ _ _ parsed' fatal => exact echoes.not_fatal parsed' _ fatal
  | garble _ _ _ _ _ _ _ unparsed => exact nomatch parsed.symm.trans unparsed

/-- Nor does an evaluation in a context. -/
theorem contextEvaluates {id : Int} (echoes : conduct.Echoes (UInt32.ofInt id) raw)
    (parsed : conduct.parse raw = some x) (fault : Fault) :
    ¬ conduct.Fells discipline (.contextEval path id schema x y) fault := by
  intro fells
  cases fells with
  | contextEval _ _ _ _ _ _ fatal => exact echoes.not_fatal parsed _ fatal

end Conduct.Echoes

theorem Conduct.opens {discipline : Discipline} {encoded : Except Report Bytes} {y : δ}
    (fault : Fault) : ¬ conduct.Fells discipline (.openContext encoded y) fault :=
  fun fells => nomatch fells

/-!
### Contexts and their inputs
-/

namespace Service

variable {discipline : Discipline} {semantics : Semantics δ} {service after : Service δ}
variable {use : Host.Use} {outcome : Except Fault Host.Answer} {id : ContextId} {x : δ}

/-- A context was opened on a document, and has it until it is ended. -/
def Opened (service : Service δ) (id : ContextId) (x : δ) : Prop :=
  id < service.ended ∨
    id = service.ended ∧ ∃ opening, service.current = some opening ∧ opening.input = x

theorem Opened.noticed (opened : service.Opened id x) (use : Host.Use) :
    (service.noticed use).Opened id x := by
  rcases service.noticed_documents use with ⟨current, same, noticed⟩
  rw [noticed]
  rcases opened with past | ⟨last, opening, is_open, input⟩
  · exact Or.inl past
  · rw [is_open] at same
    rcases Option.map_eq_some_iff.mp same with ⟨opening', is_open', documents⟩
    exact Or.inr ⟨last, opening', is_open', (congrArg Prod.fst documents).trans input⟩

theorem Step.opened_kept (step : service.Step discipline semantics use outcome after)
    (opened : service.Opened id x) : after.Opened id x := by
  have still := opened.noticed use
  rcases step.cases with ⟨_, rfl⟩ | ⟨work, asks, does⟩
  · exact still
  · cases does with
    | installed | discarded | evaluated | unopened | contextEvaluated => exact still
    | closed =>
      refine Or.inl ?_
      rcases still with past | ⟨last, _⟩
      · exact Nat.lt_succ_of_lt past
      · exact Nat.lt_succ_of_le (Nat.le_of_eq last)
    | opened =>
      generalize work_eq : Work.openContext _ _ = work at asks
      cases asks with
      | openContext _ _ closed _ =>
        rcases opened with past | ⟨_, opening, is_open, _⟩
        · exact Or.inl past
        · exact nomatch closed.symm.trans is_open
      | _ => cases work_eq

end Service

namespace Host

variable {contract : Contract σ conduct.semantics} {discipline : Discipline}
variable {host : Host σ} {service : Service δ} {known : Service δ → Prop}

/-- A host of which something is done has its guest. -/
theorem Keeps.serving {use : Use} (keeps : Keeps contract known host) (works : use.Works)
    (due : host.objection use = none) : ∃ service, contract.Matches service host ∧ known service := by
  rcases keeps with lost | serving
  · exact nomatch lost.symm.trans (usable_of_due works due)
  · exact serving

theorem resolve_published (same : contract.Matches service host) {name : String} {id : Int}
    (found : host.published name = some id) :
    service.resolve name = .ok (normalizePath name, id) := by
  unfold published at found
  rw [same.entrypoints_eq] at found
  rcases Option.map_eq_some_iff.mp found with ⟨row, first, rfl⟩
  unfold Service.resolve
  dsimp only
  rw [first]

/-- If no context and no lack of a dataset speaks against a use, the service is free
and has one. -/
theorem ready (same : contract.Matches service host) (free : host.occupied = none)
    (installed : host.dataless = none) :
    service.current = none ∧ ∃ y, service.data = some y := by
  have closed : host.openContexts = [] := by
    unfold occupied at free
    cases going : host.openContexts with
    | nil => rfl
    | cons context rest => simp [going] at free
  have present : host.hasData = true := by
    unfold hasData
    unfold dataless at installed
    cases dataset : host.dataset with
    | some address => rfl
    | none => simp [dataset] at installed
  rw [same.hasData_eq] at present
  exact ⟨same.closed closed, Option.isSome_iff_exists.mp present⟩

/-- Work for which the policy does not give up is done, as long as memory suffices. -/
theorem honest_work (honours : contract.Honours discipline short)
    (same : contract.Matches service host) {use : Use} {work : Work δ}
    (demanded : service.demand use = .work work)
    (serves : ∀ fault, ¬ conduct.Fells discipline work fault) (ample : Ample short [use] host) :
    ∃ after, Service.Does discipline conduct.semantics (service.noticed use) work
        (Operation.outcome (perform use) host).1 after ∧
      contract.Matches after (Operation.outcome (perform use) host).2 := by
  rcases honest honours same use ample.2.1 with
    ⟨other, fault, demanded', fells, _⟩ | ⟨after, step, matched⟩
  · cases demanded.symm.trans demanded'
    exact absurd fells (serves fault)
  · unfold Service.Step at step
    rw [demanded] at step
    exact ⟨after, step, matched⟩

variable {name : String} {id : Int} {v : Value} {raw : Bytes} {x : δ} {schema : Schema}

/-- A single evaluation of an echo comes to what is read in a result set with the
text of the input. -/
theorem eval_echo (honours : contract.Honours discipline short) (standing : Standing contract host)
    (echoes : conduct.Echoes (UInt32.ofInt id) raw) (published : host.published name = some id)
    (encoded : Payload.encode v = .ok raw) (due : host.objection (.eval name v schema) = none)
    (ample : Ample short [.eval name v schema] host) :
    (Operation.outcome (perform (.eval name v schema)) host).1 =
      (Semantics.valueIn (normalizePath name) schema (resultSet raw)).map .value := by
  rcases standing.keeps.serving (.eval name v schema) due with ⟨service, same, _⟩
  have silent : host.evalObjection name = none := Option.map_eq_none_iff.mp due
  unfold evalObjection at silent
  simp only [Option.or_eq_none_iff] at silent
  rcases ready same silent.2.1 silent.2.2.2 with ⟨closed, y, document⟩
  have demanded : service.demand (.eval name v schema) =
      .work (.evaluate (normalizePath name) id schema raw y) := by
    simp [Service.demand, Service.demandEval, closed, resolve_published same published, document,
      encoded]
  rcases honest_work honours same demanded echoes.evaluates ample with ⟨after, does, _⟩
  have spared := ample.1
  generalize (Operation.outcome (perform (.eval name v schema)) host).1 = outcome at does spared ⊢
  cases does with
  | evaluated _ _ _ _ _ outcome judged =>
    rcases judged with ⟨fault, rfl, short⟩ | judged
    · exact absurd short (spared fault rfl)
    · rw [echoes.judgedText judged]

theorem openContext_echo (honours : contract.Honours discipline short)
    (standing : Standing contract host) (parsed : conduct.parse raw = some x)
    (encoded : Payload.encode v = .ok raw) (due : host.objection (.openContext v) = none)
    (ample : Ample short [.openContext v] host) :
    (Operation.outcome (perform (.openContext v)) host).1 = .ok (.context host.contexts.length) := by
  rcases standing.keeps.serving (.openContext v) due with ⟨service, same, _⟩
  have silent : host.unusable.or (host.occupied.or host.dataless) = none :=
    Option.map_eq_none_iff.mp due
  simp only [Option.or_eq_none_iff] at silent
  rcases ready same silent.2.1 silent.2.2 with ⟨closed, y, document⟩
  have count : host.contexts.length = service.ended := by
    have phases := same.phases_eq
    unfold Service.phases at phases
    rw [closed] at phases
    simpa using congrArg List.length phases
  have demanded : service.demand (.openContext v) = .work (.openContext (.ok raw) y) := by
    simp [Service.demand, closed, document, encoded]
  rcases honest_work honours same demanded Conduct.opens ample with ⟨after, does, _⟩
  have spared := ample.1
  generalize (Operation.outcome (perform (.openContext v)) host).1 = outcome at does spared ⊢
  cases does with
  | opened =>
    rw [count]
    rfl
  | unopened _ _ fault reason =>
    exact absurd (Conduct.refuses_parsed (Eq.symm parsed) reason) (spared fault rfl)

/-- A context that was opened on a value has its document. -/
theorem keeps_opened (honours : contract.Honours discipline short)
    (standing : Standing contract host) (encoded : Payload.encode v = .ok raw)
    (parsed : conduct.parse raw = some x) {context : ContextId}
    (opened : (Operation.outcome (perform (.openContext v)) host).1 = .ok (.context context)) :
    Keeps contract (fun service => service.Opened context x)
      (Operation.outcome (perform (.openContext v)) host).2 := by
  rcases standing with lost | ⟨service, same⟩
  · exact Or.inl (((perform_lives Instance.tracks_later _).outcome host).guest.closed lost)
  rcases Contract.carries same (.openContext v) with falls | ⟨fault, _, excused⟩ |
    ⟨_, after, step, matched⟩
  · exact Or.inl falls.lost
  · exact absurd excused (honours.excuses fault)
  · rcases step.opened context opened with ⟨last, raw', x', y, _, encoded', accepted, rfl⟩
    cases encoded.symm.trans encoded'
    cases (show some x' = _ from accepted).trans parsed
    exact Or.inr ⟨_, matched, Or.inr ⟨last, _, rfl, rfl⟩⟩

/-- So does an evaluation of an echo in a context that was opened on the input. -/
theorem contextEval_echo (honours : contract.Honours discipline short) {context : ContextId}
    (keeps : Keeps contract (fun service => service.Opened context x) host)
    (echoes : conduct.Echoes (UInt32.ofInt id) raw) (published : host.published name = some id)
    (parsed : conduct.parse raw = some x)
    (due : host.objection (.contextEval context name schema) = none)
    (ample : Ample short [.contextEval context name schema] host) :
    (Operation.outcome (perform (.contextEval context name schema)) host).1 =
      (Semantics.valueIn (normalizePath name) schema (resultSet raw)).map .value := by
  rcases keeps.serving (.contextEval context name schema) due with ⟨service, same, opened⟩
  have is_open : ∃ opening, service.context context = .ok (some opening) ∧ opening.input = x := by
    unfold objection at due
    rcases same.context_cases context with ⟨_, missing, _⟩ | ⟨_, _, ended, found, phase⟩ |
      ⟨opening, asked, last, current⟩
    · simp [missing] at due
    · simp [found, phase] at due
    · rcases opened with past | ⟨_, opening', current', input⟩
      · exact absurd past (by rw [last]; exact Nat.lt_irrefl _)
      · cases current.symm.trans current'
        exact ⟨opening, asked, input⟩
  rcases is_open with ⟨opening, asked, rfl⟩
  have demanded : service.demand (.contextEval context name schema) =
      .work (.contextEval (normalizePath name) id schema opening.input opening.data) := by
    simp [Service.demand, asked, resolve_published same published]
  rcases honest_work honours same demanded (echoes.contextEvaluates parsed) ample with
    ⟨after, does, _⟩
  generalize (Operation.outcome (perform (.contextEval context name schema)) host).1 = outcome
    at does ⊢
  cases does with
  | contextEvaluated _ _ _ _ _ outcome judged =>
    rw [echoes.judged parsed judged]

/-- An entrypoint gives a value back, in every state in which nothing speaks against
asking for it, as long as memory suffices. -/
structure GivesBack (host : Host σ) (short : Access σ → Prop) (name : String) (v : Value) :
    Prop where
  alone : ∀ before, (run before host).2.objection (.eval name v .any) = none →
    Ample short [.eval name v .any] (run before host).2 →
      (Operation.outcome (perform (.eval name v .any)) (run before host).2).1 = .ok (.value v)
  opens : ∀ before, (run before host).2.objection (.openContext v) = none →
    Ample short [.openContext v] (run before host).2 →
      (Operation.outcome (perform (.openContext v)) (run before host).2).1 =
        .ok (.context (run before host).2.contexts.length)
  /-- Whatever is done between the opening of a context and an evaluation in it. -/
  within : ∀ before between context,
    (Operation.outcome (perform (.openContext v)) (run before host).2).1 = .ok (.context context) →
      let later := (run (before ++ .openContext v :: between) host).2
      later.objection (.contextEval context name .any) = none →
      Ample short [.contextEval context name .any] later →
        (Operation.outcome (perform (.contextEval context name .any)) later).1 = .ok (.value v)

section

variable {builder : Builder} {journal journal' : Journal}

theorem published_lasting (published : host.published name = some id) (uses : List Use) :
    (run uses host).2.published name = some id := by
  unfold Host.published at published ⊢
  rw [run_entrypoints uses host]
  exact published

/-- Whatever was done before, a single evaluation of an echo comes to what is read in
a result set with the text of the input. -/
theorem echo_reads (built : builder.instantiate module journal = .ok host journal')
    (obeys : Obeys module host.guest.handlers conduct short (.ofMinor host.minor))
    (published : host.published name = some id)
    (echoes : conduct.Echoes (UInt32.ofInt id) raw) (encoded : Payload.encode v = .ok raw) (before : List Use)
    (due : (run before host).2.objection (.eval name v schema) = none)
    (ample : Ample short [.eval name v schema] (run before host).2) :
    (Operation.outcome (perform (.eval name v schema)) (run before host).2).1 =
      (Semantics.valueIn (normalizePath name) schema (resultSet raw)).map .value := by
  rcases obeys.matches_built built with ⟨contract, honours, same⟩
  have standing := Standing.run honours (Or.inr ⟨_, same⟩) before
  exact eval_echo honours standing echoes (published_lasting published before) encoded due ample

/-- An echo gives back every value that is made of what JSON has, with at most 198
containers inside each other that hold something. -/
theorem echo_gives_back (built : builder.instantiate module journal = .ok host journal')
    (lays : Lays module host.guest.handlers conduct short (.ofMinor host.minor))
    (published : host.published name = some id)
    (echoes : ∀ raw, Payload.encode v = .ok raw → conduct.Echoes (UInt32.ofInt id) raw)
    (plain : v.Plain 198) : host.GivesBack short name v := by
  rcases lays.obeys.matches_built built with ⟨contract, honours, same⟩
  have standing : ∀ uses, Standing contract (run uses host).2 :=
    fun uses => Standing.run honours (Or.inr ⟨_, same⟩) uses
  rcases Payload.lastResult_plain plain (normalizePath name) with ⟨raw, encoded, result⟩
  have echo := echoes raw encoded
  rcases echo.inverts with ⟨x, parsed, _⟩
  have back : (Semantics.valueIn (normalizePath name) .any (resultSet raw)).map Answer.value =
      .ok (.value v) := by
    rw [Semantics.valueIn, result]
    rfl
  constructor
  case alone =>
    intro before due ample
    rw [← back]
    exact echo_reads built lays.obeys published echo encoded before due ample
  case opens =>
    intro before due ample
    exact openContext_echo honours (standing before) parsed encoded due ample
  case within =>
    intro before between context opened later due ample
    have opening := keeps_opened honours (standing before) encoded parsed opened
    have keeps : Keeps contract (fun service => service.Opened context x) later := by
      dsimp only [later]
      rw [run_append]
      exact opening.run honours between fun _ _ _ _ _ step opened => step.opened_kept opened
    rw [← back]
    exact contextEval_echo honours keeps echo (published_lasting published _) parsed due ample

end

end Host

/-!
### An echo that lays out its texts
-/

/-- What the blocks of a guest hold, with nothing said of what is read of texts. -/
def Meaning.tacit {accounts : Accounts module} (meaning : Meaning accounts conduct.semantics) :
    Meaning accounts conduct.tacit :=
  { meaning with dumps := fun _ _ _ _ _ _ _ _ _ => trivial }

/-- What the heap of a guest holds, with nothing said of what is read of texts. -/
def HeapMeaning.tacit {heap : Heap module} (meaning : HeapMeaning heap conduct.semantics) :
    HeapMeaning heap conduct.tacit :=
  { meaning with
    dumps := fun _ _ _ _ _ _ _ _ _ _ => trivial
    evaluates := fun entrypoint data input length start x y bound before text after allowed answered
        below held parsed => by
      rcases meaning.evaluates entrypoint data input length start x y bound before text after
        allowed answered below held parsed with ⟨set, judged, _⟩
      exact ⟨set, judged, trivial⟩ }

theorem Snapshot.Said.lies {found after : Snapshot (Shelf δ)} {answer : Option UInt32} {text : Bytes}
    (said : found.Said text answer after) (bounded : found.memory.pages ≤ mostPages) :
    after.memory.Lies found.state.pointer.toNat (some text) := by
  have addressable := Memory.size_le_of_pages found.memory bounded
  have inside := said.inside
  have written := Memory.bytes_overwrite found.memory found.state.pointer.toNat (text ++ [0])
    (UInt32.toNat_lt _) (by rw [List.length_append, List.length_singleton]; omega)
  rw [List.length_append, List.length_singleton] at written
  rw [said.memory_eq]
  exact .text text inside written said.nonzero

namespace Shelf

variable (rules : Rules δ) (table : δ) (minor : Int)

theorem lays (handlers : Handlers) (discipline : Discipline) :
    Lays (toModule rules table minor) handlers (Conduct.ofRules rules fun _ _ _ => .trapped)
      ((toModule rules table minor).Stuck handlers) discipline := by
  cases discipline with
  | explicitFree =>
    have follows : ((meaning rules table minor).computed fun _ _ _ => .trapped).Follows handlers _ :=
      Meaning.computed_follows _ (fits rules table minor) handlers
    refine .explicitFree _ ((meaning rules table minor).computed _).tacit ?_
      ⟨follows.toPrompt, follows.runs⟩
    intro document d before text after sound allowed answered held
    rcases Request.serve_dump ((answered_iff ..).mp answered) with ⟨d', found, said⟩
    rw [document_eq_some.mpr held] at found
    cases found
    cases said.answer_eq
    exact said.lies sound.bounded
  | heapRewind =>
    have follows : (computes rules table minor fun _ _ _ => .trapped).Follows handlers _ :=
      computes_follows rules table minor handlers
    refine .heapRewind _ (computes rules table minor _).tacit ⟨?_, ?_⟩
      ⟨follows.toPrompt, follows.runs, follows.evaluates, follows.garbles⟩
    · intro document d bound before text after allowed answered _ held
      rcases held with ⟨thing, rests, same⟩
      rcases Request.serve_dump ((answered_iff ..).mp answered) with ⟨d', found, said⟩
      rw [document_eq_some.mpr ⟨thing, rests.found, same⟩] at found
      cases found
      cases said.answer_eq
      exact said.lies (allowed.intact : Intact before _).bounded
    · intro entrypoint data input length start x y bound before text after allowed answered _ held
        parsed
      rcases held with ⟨thing, rests, same⟩
      rcases Request.serve_evaluate ((answered_iff ..).mp answered) with ⟨x', y', evaluated⟩
      cases parsed.symm.trans evaluated.parsed
      have found := evaluated.found
      rw [document_eq_some.mpr ⟨thing, rests.found, same⟩] at found
      cases found
      cases evaluated.said.answer_eq
      exact ⟨_, rfl, evaluated.said.lies (allowed.intact : Intact before _).bounded⟩

end Shelf

/-- The echo that takes nothing but JSON for a document. -/
def Rules.literate : Rules Bytes :=
  { Rules.echo with parse := fun raw => if (Json.read raw).isSome then some raw else none }

/-- A guest that echoes what is JSON. -/
def Shelf.literate (minor : Int) : Module (Shelf Bytes) := toModule .literate echoTable minor

/-- It answers with its input, if that is the text of a value that comes back. -/
theorem Rules.literate_echoes
    (garble : UInt32 → Bytes → Bytes → Instance.Ending (Option Bytes)) (entrypoint : UInt32)
    {v : Value} {raw : Bytes} {depth : Nat} (plain : v.Plain depth) (room : depth ≤ 200)
    (encoded : Payload.encode v = .ok raw) :
    (Conduct.ofRules Rules.literate garble).Echoes entrypoint raw where
  inverts := by
    obtain ⟨raw', d, encoded', read, _⟩ := Payload.encode_plain plain room
    cases encoded.symm.trans encoded'
    have parsed : Rules.literate.parse raw = some raw := by simp [literate, read]
    exact ⟨raw, parsed, rfl⟩
  answers x _ dumped := by
    cases dumped
    exact ⟨_, rfl, rfl⟩

namespace Host

/-- A mapping with all kinds of values goes in, and comes out on its own and in a
context, in which a dataset and a result were refused before. -/
theorem echo_gives_back_echo :
    Builder.Builds {} (Shelf.literate 2) fun host =>
      let short := (Shelf.literate 2).Stuck host.guest.handlers
      let v : Value := .object [("\u0000", .list [.bool true, .int (-70), .null]), ("", .text "é\u0000")]
      let before := [.setData .null, .eval "other" .null .any]
      let between := [.setData .null, .contextEval 0 "echo" .bool]
      host.published "echo" = some 0 ∧ v.Plain 198 ∧ host.GivesBack short "echo" v ∧
        (Operation.outcome (perform (.eval "echo" v .any)) (run before host).2).1 =
          .ok (.value v) ∧
        (Operation.outcome (perform (.contextEval 0 "echo" .any))
          (run (before ++ .openContext v :: between) host).2).1 = .ok (.value v) := by
  have begun : Builder.Builds {} (Shelf.literate 2) fun host =>
      let short := (Shelf.literate 2).Stuck host.guest.handlers
      let v : Value := .object [("\u0000", .list [.bool true, .int (-70), .null]), ("", .text "é\u0000")]
      let before := [.setData .null, .eval "other" .null .any]
      let between := [.setData .null, .contextEval 0 "echo" .bool]
      let later := (run (before ++ .openContext v :: between) host).2
      host.published "echo" = some 0 ∧
        ((run before host).2.objection (.eval "echo" v .any)).isNone ∧
        Ample short [.eval "echo" v .any] (run before host).2 ∧
        (Operation.outcome (perform (.openContext v)) (run before host).2).1 = .ok (.context 0) ∧
        (later.objection (.contextEval 0 "echo" .any)).isNone ∧
        Ample short [.contextEval 0 "echo" .any] later := by
    decide +kernel
  rcases begun with ⟨host, journal, built, published, due, ample, opened, dueWithin, ampleWithin⟩
  have plain : Value.Plain 198
      (.object [("\u0000", .list [.bool true, .int (-70), .null]), ("", .text "é\u0000")]) := by
    refine .object _ _ (by decide) ?_
    refine List.forall_mem_cons.mpr ⟨.list _ _ ?_, List.forall_mem_singleton.mpr (.text ..)⟩
    refine List.forall_mem_cons.mpr ⟨.bool .., List.forall_mem_cons.mpr ⟨.int _ _ (by decide), ?_⟩⟩
    exact List.forall_mem_singleton.mpr (.null _)
  have gives := echo_gives_back built (Shelf.lays Rules.literate Shelf.echoTable 2 _ _) published
    (fun _ encoded => Rules.literate_echoes _ _ plain (by decide) encoded) plain
  refine ⟨host, journal, built, published, plain, gives, ?_, ?_⟩
  · exact gives.alone _ (Option.isNone_iff_eq_none.mp due) ample
  · exact gives.within _ _ 0 opened (Option.isNone_iff_eq_none.mp dueWithin) ampleWithin

/-- An echo does not give back null in 199 lists, nor would it the smallest integer of
4301 digits. -/
theorem echo_withholds :
    Builder.Builds {} (Shelf.literate 2) (fun host =>
      let v := Value.nested 199 .null
      let later := (run [.setData .null] host).2
      host.published "echo" = some 0 ∧ v.Plain 199 ∧ later.objection (.eval "echo" v .any) = none ∧
        Ample ((Shelf.literate 2).Stuck host.guest.handlers) [.eval "echo" v .any] later ∧
        ∃ r, (Operation.outcome (perform (.eval "echo" v .any)) later).1 = .error (.report r) ∧
          r.kind = .marshaling) ∧
      ∃ raw r, Payload.encode (.int (10 ^ 4300)) = .ok raw ∧
        Payload.lastResult (resultSet raw) .any "echo" = .error r ∧ r.kind = .marshaling := by
  have begun : Builder.Builds {} (Shelf.literate 2) fun host =>
      let v := Value.nested 199 .null
      let later := (run [.setData .null] host).2
      host.published "echo" = some 0 ∧ (later.objection (.eval "echo" v .any)).isNone ∧
        Ample ((Shelf.literate 2).Stuck host.guest.handlers) [.eval "echo" v .any] later := by
    decide +kernel
  constructor
  · rcases begun with ⟨host, journal, built, published, silent, ample⟩
    have due := Option.isNone_iff_eq_none.mp silent
    have plain : (Value.nested 199 .null).Plain 199 := Value.Plain.nested (.null 0) 199
    rcases Payload.encode_plain plain (by decide) with ⟨raw, d, encoded, read, value, _⟩
    have depth : 198 < d.depth := Document.depth_nested value
    rcases Payload.lastResult_deep .any (normalizePath "echo") read depth with ⟨r, refused, kind⟩
    refine ⟨host, journal, built, published, plain, due, ample, r, ?_, kind⟩
    rw [echo_reads built (Shelf.obeys Rules.literate Shelf.echoTable 2 _ _) published
      (Rules.literate_echoes _ _ plain (by decide) encoded) encoded _ due ample, Semantics.valueIn, refused]
    rfl
  · exact Payload.lastResult_long _ (Json.length_intChars_pow Json.maxWhole (by decide)) _

end Host
end PolicyHost
