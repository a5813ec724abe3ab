import PolicyHost.Proofs.Fate
import PolicyHost.Proofs.Ruin

namespace PolicyHost

/-!
# Hosts that cannot be told apart

Two hosts of the same guest are twins if their services agree on everything a
caller can find out, or if both have lost their guests and their ruins agree.
How they came to be what they are, and how much memory their guests have used
up on the way, does not count.  One may also have ended more contexts than the
other before, in which case its contexts are numbered from there.

As long as memory suffices, twins answer alike and stay twins.
-/

variable {σ δ α β : Type}

/-- Two outcomes are the same, or both report that a text has no terminator,
perhaps at different addresses. -/
inductive Alike : Except Fault α → Except Fault α → Prop
  | same (outcome : Except Fault α) : Alike outcome outcome
  | unterminated (target what : String) (address address' : Address) :
      Alike (.error (.report (Exchange.unterminated target what address)))
        (.error (.report (Exchange.unterminated target what address')))

theorem Alike.map {outcome outcome' : Except Fault α} (alike : Alike outcome outcome')
    (f : α → β) : Alike (outcome.map f) (outcome'.map f) := by
  cases alike with
  | same => exact .same _
  | unterminated target what address address' => exact .unterminated target what address address'

/-- What a failure says.  Outcomes can be told apart by that. -/
def Host.told : Except Fault Host.Answer → Option String
  | .ok _ => none
  | .error fault => some fault.text

/-!
### Numbering contexts
-/

namespace Host

/-- The same use, if this many contexts more were created. -/
def Use.shift (count : Nat) : Use → Use
  | .contextEval id entrypoint schema => .contextEval (count + id) entrypoint schema
  | .destroy id => .destroy (count + id)
  | .leave id unwinding => .leave (count + id) unwinding
  | .drop id => .drop (count + id)
  | use => use

/-- The same answer, if this many contexts more were created. -/
def Answer.shift (count : Nat) : Answer → Answer
  | .context id => .context (count + id)
  | answer => answer

/-- The same outcome, if this many contexts more were created. -/
def shifted (count : Nat) (outcome : Except Fault Answer) : Except Fault Answer :=
  outcome.map (Answer.shift count)

@[simp] theorem Use.shift_zero : Use.shift 0 = id := by
  funext use
  cases use <;> simp [shift]

@[simp] theorem shifted_zero : shifted 0 = id := by
  funext outcome
  rcases outcome with fault | answer
  · rfl
  · cases answer <;> simp [shifted, Except.map, Answer.shift]

/-- Values are no contexts. -/
@[simp] theorem shifted_value (count : Nat) (outcome : Except Fault Value) :
    shifted count (outcome.map .value) = outcome.map .value := by
  cases outcome <;> rfl

end Host

open Host

/-!
### Policies leave no choice
-/

namespace Conduct

variable {conduct : Conduct δ} {discipline : Discipline} {work : Work δ} {fault fault' : Fault}

theorem Fells.eq (first : conduct.Fells discipline work fault)
    (second : conduct.Fells discipline work fault') : fault = fault' := by
  cases first with
  | evaluate path entrypoint schema raw x y _ parsed fatal =>
    cases second with
    | evaluate _ _ _ _ x' _ _ parsed' fatal' =>
      cases parsed.symm.trans parsed'
      exact fatal.eq fatal'
    | garble _ _ _ _ _ _ _ unparsed => exact nomatch parsed.symm.trans unparsed
  | garble path entrypoint schema raw y _ _ unparsed fatal =>
    cases second with
    | evaluate _ _ _ _ x' _ _ parsed' _ => exact nomatch unparsed.symm.trans parsed'
    | garble _ _ _ _ _ _ _ _ fatal' => exact fatal.eq fatal'
  | contextEval path entrypoint schema x y _ fatal =>
    cases second with
    | contextEval _ _ _ _ _ _ fatal' => exact fatal.eq fatal'

/-- A text that was parsed is refused only if memory is short. -/
theorem refuses_parsed {raw : Bytes} {x : δ}
    (accepted : conduct.semantics.parses raw (some x))
    (reason : conduct.semantics.Refuses (.ok raw) fault) : fault.isShortage := by
  rcases reason with short | rejected
  · exact short
  · exact nomatch (show some x = _ from accepted).trans (Eq.symm rejected.1)

/-- Apart from that there is one reason to refuse a text. -/
theorem refuses_eq {payload : Except Report Bytes}
    (reason : conduct.semantics.Refuses payload fault)
    (reason' : conduct.semantics.Refuses payload fault') (ample : ¬ fault.isShortage)
    (ample' : ¬ fault'.isShortage) : fault = fault' := by
  cases payload with
  | error r => exact Eq.trans reason (Eq.symm reason')
  | ok raw =>
    rcases reason with short | rejected
    · exact absurd short ample
    · rcases reason' with short | rejected'
      · exact absurd short ample'
      · exact rejected.2.trans rejected'.2.symm

variable {unread : Address → Report} {target what : String} {path : String} {schema : Schema}

/-- What the host makes of a text does not depend on where it is, but for the
address in a report. -/
theorem reads_alike (names : unread = Exchange.unterminated target what) {text : Option Bytes}
    {outcome outcome' : Except Fault Value}
    (first : Semantics.Reads unread path schema text outcome)
    (second : Semantics.Reads unread path schema text outcome') : Alike outcome outcome' := by
  subst names
  cases first with
  | text =>
    cases second
    exact .same _
  | unterminated address =>
    cases second with
    | unterminated address' => exact .unterminated target what address address'

/-- An evaluation of two documents has one result, but for such an address. -/
theorem judges_alike (names : unread = Exchange.unterminated target what) {entrypoint : UInt32}
    {input data : δ} {outcome outcome' : Except Fault Value}
    (first : conduct.semantics.Judges unread path entrypoint schema input data outcome)
    (second : conduct.semantics.Judges unread path entrypoint schema input data outcome') :
    Alike outcome outcome' := by
  rcases first with ⟨set, text, _, answered, dumped, told⟩
  rcases second with ⟨set', text', _, answered', dumped', told'⟩
  cases (show conduct.judge _ _ _ = _ from answered).symm.trans answered'
  rw [show text = _ from dumped, ← show text' = _ from dumped'] at told
  exact reads_alike names told told'

theorem unread_eq (discipline : Discipline) :
    ∃ target what, discipline.unread = Exchange.unterminated target what := by
  cases discipline with
  | explicitFree => exact ⟨_, _, rfl⟩
  | heapRewind => exact ⟨_, _, rfl⟩

/-- So has an evaluation of an input text. -/
theorem judgesText_alike {entrypoint : UInt32} {raw : Bytes} {data : δ}
    {outcome outcome' : Except Fault Value}
    (first : conduct.semantics.JudgesText path entrypoint schema raw data discipline outcome)
    (second : conduct.semantics.JudgesText path entrypoint schema raw data discipline outcome') :
    Alike outcome outcome' := by
  rcases unread_eq discipline with ⟨target, what, names⟩
  cases first with
  | parsed _ input _ accepted judged =>
    cases second with
    | parsed _ input' _ accepted' judged' =>
      cases (show some input = _ from accepted).trans (Eq.symm accepted')
      exact judges_alike names judged judged'
    | rejected _ reason =>
      exact nomatch (show some input = _ from accepted).trans (Eq.symm reason.1)
    | garbled _ _ unparsed => exact absurd ⟨input, accepted⟩ unparsed
  | rejected fault reason =>
    cases second with
    | parsed _ input' _ accepted' _ =>
      exact nomatch (show some input' = _ from accepted').trans (Eq.symm reason.1)
    | rejected fault' reason' =>
      rw [reason.2, reason'.2]
      exact .same _
  | garbled text _ unparsed answered told =>
    cases second with
    | parsed _ input' _ accepted' _ => exact absurd ⟨input', accepted'⟩ unparsed
    | garbled text' _ _ answered' told' =>
      cases (show conduct.garble _ _ _ = _ from answered).symm.trans answered'
      exact reads_alike names told told'

end Conduct

/-!
### Services
-/

/-- What is evaluated in a context that is open. -/
def Opening.documents (opening : Opening δ) : δ × δ := (opening.input, opening.data)

/-- The same demand, if this many contexts more were created. -/
def Demand.shift (count : Nat) : Demand δ → Demand δ
  | .answer outcome => .answer (shifted count outcome)
  | .work asked => .work asked

namespace Service

/-- Two services agree on everything a caller can find out, if this many
contexts more were ended in the first one. -/
structure Twin (count : Nat) (service service' : Service δ) : Prop where
  entrypoints_eq : service.entrypoints = service'.entrypoints
  data_eq : service.data = service'.data
  ended_eq : service.ended = count + service'.ended
  current_eq : service.current.map Opening.documents = service'.current.map Opening.documents

variable {count : Nat} {service service' after after' : Service δ}

theorem noticed_documents (service : Service δ) (use : Use) :
    ∃ current, current.map Opening.documents = service.current.map Opening.documents ∧
      service.noticed use = { service with current } := by
  cases use with
  | contextEval id entrypoint schema =>
    dsimp only [noticed]
    split
    · exact ⟨_, by rw [Option.map_map]; rfl, rfl⟩
    · exact ⟨_, rfl, rfl⟩
  | _ => exact ⟨_, rfl, rfl⟩

namespace Twin

theorem noticed (twin : Twin count service service') (use use' : Use) :
    Twin count (service.noticed use) (service'.noticed use') := by
  rcases service.noticed_documents use with ⟨current, same, noticed⟩
  rcases service'.noticed_documents use' with ⟨current', same', noticed'⟩
  rw [noticed, noticed']
  exact ⟨twin.entrypoints_eq, twin.data_eq, twin.ended_eq,
    same.trans (twin.current_eq.trans same'.symm)⟩

theorem unnoticed (service : Service δ) (use : Use) : Twin 0 (service.noticed use) service := by
  rcases service.noticed_documents use with ⟨current, same, noticed⟩
  rw [noticed]
  exact ⟨rfl, rfl, (Nat.zero_add _).symm, same⟩

theorem isSome_eq (twin : Twin count service service') :
    service.current.isSome = service'.current.isSome := by
  rw [← Option.isSome_map (f := Opening.documents), twin.current_eq, Option.isSome_map]

theorem resolve_eq (twin : Twin count service service') (entrypoint : String) :
    service.resolve entrypoint = service'.resolve entrypoint := by
  unfold resolve
  rw [twin.entrypoints_eq]

/-- A context is unknown to both, or was ended in both, or is open in both. -/
theorem context_cases (twin : Twin count service service') (id : ContextId) :
    (service.context (count + id) = .error .noSlot ∧ service'.context id = .error .noSlot) ∨
      (service.context (count + id) = .ok none ∧ service'.context id = .ok none) ∨
      ∃ opening opening', service.context (count + id) = .ok (some opening) ∧
        service'.context id = .ok (some opening') ∧ opening.documents = opening'.documents := by
  unfold context
  rw [twin.ended_eq]
  rcases Nat.lt_trichotomy id service'.ended with below | rfl | above
  · rw [if_pos (Nat.add_lt_add_left below count), if_pos below]
    exact Or.inr (Or.inl ⟨rfl, rfl⟩)
  · rw [if_neg (Nat.lt_irrefl _), if_neg (Nat.lt_irrefl _), if_pos rfl, if_pos rfl]
    have same := twin.current_eq
    cases current : service.current with
    | none =>
      rw [current] at same
      rw [Option.map_eq_none_iff.mp same.symm]
      exact Or.inl ⟨rfl, rfl⟩
    | some opening =>
      rw [current] at same
      rcases Option.map_eq_some_iff.mp same.symm with ⟨opening', current', content⟩
      rw [current']
      exact Or.inr (Or.inr ⟨opening, opening', rfl, rfl, content.symm⟩)
  · have further := Nat.add_lt_add_left above count
    rw [if_neg (Nat.lt_asymm further), if_neg (Nat.ne_of_gt further), if_neg (Nat.lt_asymm above),
      if_neg (Nat.ne_of_gt above)]
    exact Or.inl ⟨rfl, rfl⟩

theorem demandEval_eq (twin : Twin count service service') (entrypoint : String) (input : Value)
    (schema : Schema) :
    service.demandEval entrypoint input schema =
      (service'.demandEval entrypoint input schema).shift count := by
  unfold demandEval
  rw [twin.isSome_eq, twin.resolve_eq, twin.data_eq]
  split
  · rfl
  · split
    · rfl
    · split
      · rfl
      · split <;> rfl

theorem demandEnd_eq (twin : Twin count service service') (id : ContextId)
    (again : Except Fault Answer) (plain : shifted count again = again) :
    service.demandEnd (count + id) again = (service'.demandEnd id again).shift count := by
  unfold demandEnd
  rcases twin.context_cases id with ⟨found, found'⟩ | ⟨found, found'⟩ |
    ⟨opening, opening', found, found', _⟩
  · rw [found, found']
    rfl
  · rw [found, found']
    exact congrArg Demand.answer plain.symm
  · rw [found, found']
    rfl

/-- Twins ask for the same work, or give the same answer. -/
theorem demand_eq (twin : Twin count service service') (use : Use) :
    service.demand (use.shift count) = (service'.demand use).shift count := by
  cases use with
  | setData value =>
    dsimp only [demand, Use.shift]
    rw [twin.isSome_eq]
    split
    · rfl
    · split <;> rfl
  | eval entrypoint input schema => exact twin.demandEval_eq entrypoint input schema
  | decide binding value =>
    dsimp only [demand, Use.shift]
    split
    · rfl
    · exact twin.demandEval_eq _ _ _
  | openContext input =>
    dsimp only [demand, Use.shift]
    rw [twin.isSome_eq, twin.data_eq]
    split
    · rfl
    · split <;> rfl
  | contextEval id entrypoint schema =>
    dsimp only [demand, Use.shift]
    rw [twin.resolve_eq]
    rcases twin.context_cases id with ⟨found, found'⟩ | ⟨found, found'⟩ |
      ⟨opening, opening', found, found', same⟩
    · rw [found, found']
      rfl
    · rw [found, found']
      rfl
    · rw [found, found']
      cases service'.resolve entrypoint with
      | error fault => rfl
      | ok pair =>
        rcases Prod.mk.inj same with ⟨input, data⟩
        dsimp only
        rw [input, data]
        rfl
  | destroy id => exact twin.demandEnd_eq id _ rfl
  | leave id unwinding => exact twin.demandEnd_eq id _ rfl
  | drop id => exact twin.demandEnd_eq id _ rfl
  | entrypointId entrypoint =>
    dsimp only [demand, Use.shift]
    rw [twin.resolve_eq]
    cases service'.resolve entrypoint <;> rfl

variable {conduct : Conduct δ} {discipline : Discipline} {work : Work δ}
variable {outcome outcome' : Except Fault Answer}

/-- As long as memory suffices, the same work comes to the same for twins. -/
theorem does (twin : Twin count service service')
    (first : Does discipline conduct.semantics service work outcome after)
    (second : Does discipline conduct.semantics service' work outcome' after')
    (spares : Spares Fault.isShortage outcome) (spares' : Spares Fault.isShortage outcome') :
    Alike outcome (shifted count outcome') ∧ Twin count after after' := by
  cases first with
  | installed raw d accepted =>
    cases second with
    | installed _ d' accepted' =>
      cases (show some d = _ from accepted).trans (Eq.symm accepted')
      exact ⟨.same _, twin.entrypoints_eq, rfl, twin.ended_eq, twin.current_eq⟩
    | discarded _ fault reason =>
      exact absurd (Conduct.refuses_parsed accepted reason) (spares' fault rfl)
  | discarded raw fault reason =>
    cases second with
    | installed _ d' accepted' =>
      exact absurd (Conduct.refuses_parsed accepted' reason) (spares fault rfl)
    | discarded _ fault' reason' =>
      rw [Conduct.refuses_eq reason reason' (spares fault rfl) (spares' fault' rfl)]
      exact ⟨.same _, twin.entrypoints_eq, rfl, twin.ended_eq, twin.current_eq⟩
  | evaluated path entrypoint schema raw data result judged =>
    cases second with
    | evaluated _ _ _ _ _ result' judged' =>
      refine ⟨?_, twin⟩
      rw [shifted_value]
      rcases judged with ⟨fault, rfl, short⟩ | judged
      · exact absurd short (spares fault rfl)
      rcases judged' with ⟨fault, rfl, short⟩ | judged'
      · exact absurd short (spares' fault rfl)
      exact (Conduct.judgesText_alike judged judged').map _
  | opened raw input data accepted =>
    generalize payload_eq : Except.ok raw = payload at second
    cases second with
    | opened raw' input' _ accepted' =>
      cases payload_eq
      cases (show some input = _ from accepted).trans (Eq.symm accepted')
      rw [twin.ended_eq]
      exact ⟨.same _, twin.entrypoints_eq, twin.data_eq, rfl, rfl⟩
    | unopened _ _ fault reason =>
      subst payload_eq
      exact absurd (Conduct.refuses_parsed accepted reason) (spares' fault rfl)
  | unopened payload data fault reason =>
    cases second with
    | opened raw' input' _ accepted' =>
      exact absurd (Conduct.refuses_parsed accepted' reason) (spares fault rfl)
    | unopened _ _ fault' reason' =>
      rw [Conduct.refuses_eq reason reason' (spares fault rfl) (spares' fault' rfl)]
      exact ⟨.same _, twin⟩
  | contextEvaluated path entrypoint schema input data result judged =>
    cases second with
    | contextEvaluated _ _ _ _ _ result' judged' =>
      rw [shifted_value]
      exact ⟨(Conduct.judges_alike rfl judged judged').map _, twin⟩
  | closed =>
    cases second with
    | closed => exact ⟨.same _, twin.entrypoints_eq, twin.data_eq, by rw [twin.ended_eq]; rfl, rfl⟩

/-- As long as memory suffices, twins answer alike and stay twins. -/
theorem step (twin : Twin count service service') {use : Use}
    (first : service.Step discipline conduct.semantics (use.shift count) outcome after)
    (second : service'.Step discipline conduct.semantics use outcome' after')
    (spares : Spares Fault.isShortage outcome) (spares' : Spares Fault.isShortage outcome') :
    Alike outcome (shifted count outcome') ∧ Twin count after after' := by
  unfold Step at first second
  rw [twin.demand_eq] at first
  cases demanded : service'.demand use with
  | answer given =>
    rw [demanded] at first second
    rcases first with ⟨rfl, rfl⟩
    rcases second with ⟨rfl, rfl⟩
    exact ⟨.same _, twin.noticed _ _⟩
  | work work =>
    rw [demanded] at first second
    exact (twin.noticed _ _).does first second spares spares'

end Twin
end Service

/-- A policy does not both give up and have an answer. -/
theorem Conduct.Fells.not_does {conduct : Conduct δ} {discipline : Discipline} {work : Work δ}
    {fault : Fault} {service after : Service δ} {outcome : Except Fault Answer}
    (fells : conduct.Fells discipline work fault)
    (does : Service.Does discipline conduct.semantics service work outcome after)
    (spares : Spares Fault.isShortage outcome) : False := by
  have answers : ∀ {ε : Type} {ending : Instance.Ending ε} {result : ε} {name : String},
      ending.Fatal name fault → ending = .returned result → False := by
    rintro _ _ _ _ fatal rfl
    exact fatal
  cases fells with
  | evaluate path entrypoint schema raw x y _ parsed fatal =>
    cases does with
    | evaluated _ _ _ _ _ result judged =>
      rcases judged with ⟨other, rfl, short⟩ | judged
      · exact spares other rfl short
      cases judged with
      | parsed _ input _ accepted judged =>
        cases (show some input = _ from accepted).trans parsed
        rcases judged with ⟨set, _, _, answered, _, _⟩
        exact answers fatal answered
      | rejected _ reason => exact nomatch (show none = _ from reason.1).trans parsed
      | garbled _ _ unparsed => exact unparsed ⟨x, parsed.symm⟩
  | garble path entrypoint schema raw y _ rewinds unparsed fatal =>
    subst rewinds
    cases does with
    | evaluated _ _ _ _ _ result judged =>
      rcases judged with ⟨other, rfl, short⟩ | judged
      · exact spares other rfl short
      cases judged with
      | parsed _ input _ accepted _ =>
        exact nomatch (show some input = _ from accepted).trans unparsed
      | garbled _ _ _ answered => exact answers fatal answered
  | contextEval path entrypoint schema x y _ fatal =>
    cases does with
    | contextEvaluated _ _ _ _ _ result judged =>
      rcases judged with ⟨set, _, _, answered, _, _⟩
      exact answers fatal answered

/-!
### Ruins
-/

/-- What is left of a host that ended this many contexts more, before any
other. -/
def Ruin.older (count : Nat) (ruin : Ruin) : Ruin :=
  { ruin with ended := List.replicate count true ++ ruin.ended }

namespace Ruin

theorem older_within (ruin : Ruin) (count : Nat) (id : ContextId) (again : Except Fault Answer)
    (plain : shifted count again = again) (outcome : Except Fault Answer)
    (unnumbered : shifted count outcome = outcome) (next : Ruin) :
    (ruin.older count).within (count + id) again (outcome, next.older count) =
      ((fun result : _ × Ruin => (shifted count result.1, result.2.older count))
        (ruin.within id again (outcome, next))) := by
  unfold within older
  dsimp only
  rw [List.getElem?_append_right (by simp), List.length_replicate, Nat.add_sub_cancel_left]
  cases ruin.ended[id]? with
  | none => rfl
  | some ended =>
    cases ended with
    | true => exact congrArg (·, _) plain.symm
    | false => exact congrArg (·, _) unnumbered.symm

theorem older_finish (ruin : Ruin) (count : Nat) (id : ContextId) :
    (ruin.older count).finish (count + id) = (ruin.finish id).older count := by
  unfold finish older
  dsimp only
  rw [List.set_append_right _ _ (by simp), List.length_replicate, Nat.add_sub_cancel_left]

/-- Ruins that differ in the number of contexts only answer alike. -/
theorem perform_older (ruin : Ruin) (count : Nat) (use : Use) :
    (ruin.older count).perform (use.shift count) =
      (shifted count (ruin.perform use).1, (ruin.perform use).2.older count) := by
  have leaks : ∀ id, (ruin.older count).leakAt (count + id) = (ruin.leakAt id).older count := by
    intro id
    unfold leakAt
    rw [older_finish]
    rfl
  cases use with
  | setData | eval | openContext => rfl
  | decide binding input =>
    change (ruin.older count).perform (.decide binding input) = _
    rw [perform, perform]
    cases binding.prepareInput input <;> rfl
  | contextEval id entrypoint schema => exact older_within ruin count id _ rfl _ rfl ruin
  | destroy id =>
    rw [Use.shift, perform, perform, leaks]
    exact older_within ruin count id _ rfl _ rfl _
  | leave id unwinding =>
    rw [Use.shift, perform, perform, leaks, older_finish]
    cases unwinding with
    | true => exact older_within ruin count id _ rfl _ rfl _
    | false => exact older_within ruin count id _ rfl _ rfl _
  | drop id =>
    rw [Use.shift, perform, perform, leaks]
    exact older_within ruin count id _ rfl _ rfl _
  | entrypointId entrypoint =>
    change (ruin.older count).perform (.entrypointId entrypoint) = _
    rw [perform, perform, show (ruin.older count).entrypoints = ruin.entrypoints from rfl]
    cases (Service.unused Unit ruin.entrypoints).resolve entrypoint <;> rfl

end Ruin

/-- What is left of a host that stands where this service stands, if its guest
is lost. -/
def Service.ruin (service : Service δ) (discipline : Discipline) : Ruin where
  discipline := discipline
  entrypoints := service.entrypoints
  leak := none
  busy := service.current.isSome
  ended := service.phases.map fun phase => phase = .destroyed

theorem Service.Twin.ruin_eq {count : Nat} {service service' : Service δ}
    (twin : service.Twin count service') (discipline : Discipline) :
    service.ruin discipline = (service'.ruin discipline).older count := by
  have going : ∀ current : Option (Opening δ),
      (current.map (·.phase)).toList.map (fun phase => decide (phase = .destroyed)) =
        ((current.map Opening.documents).map fun _ => false).toList := by
    rintro (_ | opening)
    · rfl
    · simp [opening.phase_ne_destroyed]
  unfold Service.ruin Ruin.older Service.phases
  simp only [List.map_append, List.map_replicate, going, twin.entrypoints_eq, twin.isSome_eq,
    twin.ended_eq, twin.current_eq, List.replicate_add, List.append_assoc, decide_true]

theorem Contract.Books.ruin_eq {service : Service δ} {host : Host σ}
    (books : Contract.Books service host) : host.ruin = service.ruin host.discipline := by
  unfold Host.ruin Service.ruin
  rw [books.entrypoints_eq, books.leak_eq, books.busy_eq, ← books.phases_eq, List.map_map]
  rfl

/-!
### Hosts
-/

namespace Host

/-- What was done to the guest since an earlier time, the latest first. -/
def since (before after : Host σ) : List (Access σ) :=
  after.guest.history.take (after.guest.history.length - before.guest.history.length)

theorem adds_since {before after : Host σ} (later : Instance.Later before.guest after.guest)
    {kind : Access σ → Prop} (all : ∀ access ∈ since before after, kind access) :
    Instance.Adds kind before.guest after.guest := by
  rcases later.history with ⟨recent, history⟩
  refine ⟨recent, history.symm, ?_⟩
  unfold since at all
  rw [← history, List.length_append, Nat.add_sub_cancel, List.take_left] at all
  exact all

/-- A run for which memory suffices: no use is refused memory, and nothing that
is done to the guest is short of it. -/
def Ample (short : Access σ → Prop) : List Use → Host σ → Prop
  | [], _ => True
  | use :: rest, host =>
    let first := Operation.outcome (perform use) host
    Spares Fault.isShortage first.1 ∧ (∀ access ∈ since host first.2, ¬ short access) ∧
      Ample short rest first.2

instance decidableAmple (short : Access σ → Prop) [DecidablePred short] :
    (uses : List Use) → (host : Host σ) → Decidable (Ample short uses host)
  | [], _ => .isTrue trivial
  | use :: rest, host =>
    have := decidableAmple short rest (Operation.outcome (perform use) host).2
    decidable_of_iff (Spares Fault.isShortage (Operation.outcome (perform use) host).1 ∧
      (∀ access ∈ since host (Operation.outcome (perform use) host).2, ¬ short access) ∧
      Ample short rest (Operation.outcome (perform use) host).2) Iff.rfl

/-- The guest has the exports that the host calls. -/
def Equipped (host : Host σ) : Prop := host.discipline.Equips host.guest.module

theorem Equipped.perform {host : Host σ} (equipped : host.Equipped) (use : Use) :
    (Operation.outcome (perform use) host).2.Equipped :=
  ((perform_lives Instance.tracks_later use).outcome host).equips equipped

theorem perform_lost_eq {host : Host σ} (lost : host.guest.trapped = true)
    (equipped : host.Equipped) (use : Use) :
    ((Operation.outcome (perform use) host).1, (Operation.outcome (perform use) host).2.ruin) =
        host.ruin.perform use ∧
      (Operation.outcome (perform use) host).2.guest.trapped = true := by
  refine ⟨?_, ((perform_lives Instance.tracks_later use).outcome host).guest.closed lost⟩
  rcases Operation.Ends.outcome (perform_tells lost equipped use) with ⟨answer, outcome, same⟩ |
    ⟨fault, outcome, same⟩
  · rw [outcome, same]
  · rw [outcome, same]

variable {conduct : Conduct δ} {contract : Contract σ conduct.semantics} {discipline : Discipline}
variable {short : Access σ → Prop} {count : Nat} {host host' : Host σ}

/-- What a use of a host that follows its policy comes to, as long as memory
suffices: the policy gives up, or the host does what its service does. -/
theorem honest (honours : contract.Honours discipline short) {service : Service δ}
    (same : contract.Matches service host) (use : Use)
    (ample : ∀ access ∈ since host (Operation.outcome (perform use) host).2, ¬ short access) :
    (∃ work fault, service.demand use = .work work ∧ conduct.Fells discipline work fault ∧
        (Operation.outcome (perform use) host).1 = .error fault ∧
        (Operation.outcome (perform use) host).2.guest.trapped = true ∧
        (Operation.outcome (perform use) host).2.ruin = (service.noticed use).ruin discipline) ∨
      ∃ service', service.Step discipline conduct.semantics use
          (Operation.outcome (perform use) host).1 service' ∧
        contract.Matches service' (Operation.outcome (perform use) host).2 := by
  have lives := (perform_lives Instance.tracks_later use).outcome host
  rcases Contract.carries same use with ⟨lost, work, fault, demanded, fell, known⟩ |
    ⟨fault, _, excused⟩ | ⟨_, service', step, matched⟩
  · have fells := honours.fells _ _ _ _ fell (adds_since lives.guest ample)
    rcases known with rfl | ⟨outcome, books⟩
    · cases fells
    · refine Or.inl ⟨work, fault, demanded, fells, outcome, lost, ?_⟩
      rw [books.ruin_eq, lives.discipline_eq, same.discipline_eq, honours.discipline_eq]
  · exact absurd excused (honours.excuses fault)
  · rw [honours.discipline_eq] at step
    exact Or.inr ⟨service', step, matched⟩

/-- Two hosts of a guest that cannot be told apart, if this many contexts more
were ended in the first one. -/
inductive Twins (contract : Contract σ conduct.semantics) (count : Nat) (host host' : Host σ) : Prop
  | serving (service service' : Service δ) (twin : service.Twin count service')
      (same : contract.Matches service host) (same' : contract.Matches service' host')
  | lost (lost : host.guest.trapped = true) (lost' : host'.guest.trapped = true)
      (ruin_eq : host.ruin = host'.ruin.older count)

/-- As long as memory suffices, twins answer alike and stay twins. -/
theorem Twins.step (honours : contract.Honours discipline short)
    (twins : Twins contract count host host') (equipped : host.Equipped)
    (equipped' : host'.Equipped) (use : Use) (ample : Ample short [use.shift count] host)
    (ample' : Ample short [use] host') :
    let first := Operation.outcome (perform (use.shift count)) host
    let second := Operation.outcome (perform use) host'
    Alike first.1 (shifted count second.1) ∧ Twins contract count first.2 second.2 := by
  intro first second
  cases twins with
  | lost lost lost' ruin_eq =>
    rcases perform_lost_eq lost equipped (use.shift count) with ⟨done, still⟩
    rcases perform_lost_eq lost' equipped' use with ⟨done', still'⟩
    rw [ruin_eq, Ruin.perform_older, ← done'] at done
    rcases Prod.mk.inj done with ⟨outcome, ruin⟩
    refine ⟨?_, .lost still still' ruin⟩
    rw [show first.1 = _ from outcome]
    exact .same _
  | serving service service' twin same same' =>
    rcases honest honours same (use.shift count) ample.2.1 with
      ⟨work, fault, demanded, fells, outcome, lost, ruin⟩ | ⟨next, step, matched⟩
    · rcases honest honours same' use ample'.2.1 with
        ⟨work', fault', demanded', fells', outcome', lost', ruin'⟩ | ⟨next', step', matched'⟩
      · rw [twin.demand_eq, demanded'] at demanded
        cases demanded
        cases fells.eq fells'
        refine ⟨?_, .lost lost lost' ?_⟩
        · rw [show first.1 = _ from outcome, show second.1 = _ from outcome']
          exact .same _
        · rw [show first.2.ruin = _ from ruin, show second.2.ruin = _ from ruin',
            (twin.noticed _ _).ruin_eq]
      · -- The policy does not give up in one run only.
        rw [twin.demand_eq] at demanded
        unfold Service.Step at step'
        cases demanded' : service'.demand use with
        | answer given =>
          rw [demanded'] at demanded
          cases demanded
        | work work' =>
          rw [demanded'] at demanded step'
          cases demanded
          exact (fells.not_does step' ample'.1).elim
    · rcases honest honours same' use ample'.2.1 with
        ⟨work', fault', demanded', fells', _⟩ | ⟨next', step', matched'⟩
      · unfold Service.Step at step
        rw [twin.demand_eq, demanded'] at step
        exact (fells'.not_does step ample.1).elim
      · rcases twin.step step step' ample.1 ample'.1 with ⟨alike, twin'⟩
        exact ⟨alike, .serving next next' twin' matched matched'⟩

/-- So do twins in a whole run. -/
theorem Twins.run (honours : contract.Honours discipline short)
    (twins : Twins contract count host host') (equipped : host.Equipped)
    (equipped' : host'.Equipped) (uses : List Use)
    (ample : Ample short (uses.map (Use.shift count)) host) (ample' : Ample short uses host') :
    List.Forall₂ Alike (Host.run (uses.map (Use.shift count)) host).1
      ((Host.run uses host').1.map (shifted count)) := by
  induction uses generalizing host host' with
  | nil => exact .nil
  | cons use rest inductionHypothesis =>
    rcases twins.step honours equipped equipped' use ⟨ample.1, ample.2.1, trivial⟩
      ⟨ample'.1, ample'.2.1, trivial⟩ with ⟨alike, next⟩
    exact .cons alike (inductionHypothesis next (equipped.perform _) (equipped'.perform _)
      ample.2.2 ample'.2.2)

end Host

end PolicyHost
