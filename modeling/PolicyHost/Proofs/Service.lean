import PolicyHost.Proofs.Abi

namespace PolicyHost

/-!
# What a host does, told without memory

A host is used through a handful of operations, and a run is a list of uses.
A `Service` is what remains of a host when addresses, marks and blocks are
taken away: the entrypoint table, the dataset as a document, how many contexts
were ended, and the input of the context that is open.  A use of a service
either is answered at once, or asks one piece of work of the policy.

`Step` is a relation, because what a guest does with a text may be left open.
For a policy that computes it is a function.
-/

namespace Host

/-- A use of a host.  A with-block is left through `leave`, and a context that
nobody refers to any more is dropped. -/
inductive Use where
  | setData (value : Value)
  | eval (entrypoint : String) (input : Value) (schema : Schema)
  | decide (binding : Binding) (input : Value)
  | openContext (input : Value)
  | contextEval (id : ContextId) (entrypoint : String) (schema : Schema)
  | destroy (id : ContextId)
  | leave (id : ContextId) (unwinding : Bool)
  | drop (id : ContextId)
  | entrypointId (entrypoint : String)

inductive Answer where
  | done
  | value (v : Value)
  | context (id : ContextId)
  | entrypoint (id : Int)

variable {σ : Type}

def openContexts (host : Host σ) : List Context :=
  host.contexts.filter fun context => context.phase ≠ .destroyed

def perform : Use → Operation (Host σ) Answer
  | .setData value => do
    setData value
    return .done
  | .eval entrypoint input schema => return .value (← eval entrypoint input schema)
  | .decide binding input => return .value (← decide binding input)
  | .openContext input => return .context (← openContext input)
  | .contextEval id entrypoint schema => return .value (← contextEval id entrypoint schema)
  | .destroy id => do
    destroy id
    return .done
  | .leave id unwinding => do
    teardown id unwinding
    return .done
  | .drop id => do
    drop id
    return .done
  | .entrypointId entrypoint => return .entrypoint (← resolve entrypoint).2

/-- Use a host several times.  The result is what each use came to, and the
host as it is then. -/
def run : List Use → Host σ → List (Except Fault Answer) × Host σ
  | [], host => ([], host)
  | use :: rest, host =>
    let first := Operation.outcome (perform use) host
    let others := run rest first.2
    (first.1 :: others.1, others.2)

/-- A run goes on where an earlier one ended. -/
theorem run_append (first second : List Use) (host : Host σ) :
    run (first ++ second) host =
      ((run first host).1 ++ (run second (run first host).2).1,
        (run second (run first host).2).2) := by
  induction first generalizing host with
  | nil => rfl
  | cons use rest inductionHypothesis =>
    simp only [List.cons_append, run, inductionHypothesis]

theorem run_length (uses : List Use) (host : Host σ) : (run uses host).1.length = uses.length := by
  induction uses generalizing host with
  | nil => rfl
  | cons use rest inductionHypothesis => exact congrArg Nat.succ (inductionHypothesis _)

/-- What a use came to is none of these faults. -/
def Spares {α : Type} (excuses : Fault → Prop) (outcome : Except Fault α) : Prop :=
  ∀ fault, outcome = .error fault → ¬ excuses fault

instance {α : Type} (excuses : Fault → Prop) [DecidablePred excuses]
    (outcome : Except Fault α) : Decidable (Spares excuses outcome) :=
  match outcome with
  | .ok _ => .isTrue fun _ impossible => nomatch impossible
  | .error fault =>
    decidable_of_iff (¬ excuses fault)
      ⟨fun spared _ same => Except.error.inj same ▸ spared, fun spares => spares fault rfl⟩

/-- Whether a use opened a context can be told. -/
instance (outcome : Except Fault Answer) (id : ContextId) :
    Decidable (outcome = .ok (.context id)) :=
  match outcome with
  | .ok (.context other) =>
    decidable_of_iff (other = id) ⟨fun same => by rw [same], fun same => by cases same; rfl⟩
  | .ok .done | .ok (.value _) | .ok (.entrypoint _) | .error _ => .isFalse fun same => nomatch same

/-- A run during which the guest is never lost, and in which no use comes to
one of these faults. -/
def Calm (excuses : Fault → Prop) : List Use → Host σ → Prop
  | [], host => host.guest.trapped = false
  | use :: rest, host =>
    let first := Operation.outcome (perform use) host
    host.guest.trapped = false ∧ Spares excuses first.1 ∧ Calm excuses rest first.2

instance decidableCalm (excuses : Fault → Prop) [DecidablePred excuses] :
    (uses : List Use) → (host : Host σ) → Decidable (Calm excuses uses host)
  | [], host => decidable_of_iff (host.guest.trapped = false) Iff.rfl
  | use :: rest, host =>
    have := decidableCalm excuses rest (Operation.outcome (perform use) host).2
    decidable_of_iff (host.guest.trapped = false ∧
      Spares excuses (Operation.outcome (perform use) host).1 ∧
      Calm excuses rest (Operation.outcome (perform use) host).2) Iff.rfl

namespace Calm

variable {excuses excuses' : Fault → Prop} {uses first second : List Use} {host : Host σ}

theorem open_eq (calm : Calm excuses uses host) : host.guest.trapped = false := by
  cases uses with
  | nil => exact calm
  | cons use rest => exact calm.1

/-- A run in two parts is calm if both parts are. -/
theorem append : Calm excuses (first ++ second) host ↔
    Calm excuses first host ∧ Calm excuses second (run first host).2 := by
  induction first generalizing host with
  | nil => exact ⟨fun calm => ⟨calm.open_eq, calm⟩, fun both => both.2⟩
  | cons use rest inductionHypothesis =>
    simp only [List.cons_append, Calm, run, inductionHypothesis, and_assoc]

/-- A run that spares more faults spares fewer. -/
theorem mono (calm : Calm excuses uses host) (fewer : ∀ fault, excuses' fault → excuses fault) :
    Calm excuses' uses host := by
  induction uses generalizing host with
  | nil => exact calm
  | cons use rest inductionHypothesis =>
    exact ⟨calm.1, fun fault same excused => calm.2.1 fault same (fewer fault excused),
      inductionHypothesis calm.2.2⟩

end Calm
end Host

structure Opening (δ : Type) where
  /-- Whether something was evaluated in it. -/
  used : Bool
  input : δ
  /-- The dataset it was opened on. -/
  data : δ

def Opening.phase {δ : Type} (opening : Opening δ) : Phase :=
  if opening.used then .evaluating else .created

/-- An open context is not one that was ended. -/
theorem Opening.phase_ne_destroyed {δ : Type} (opening : Opening δ) :
    opening.phase ≠ .destroyed := by
  unfold phase
  split <;> decide

structure Service (δ : Type) where
  entrypoints : List (String × Int)
  data : Option δ
  /-- How many contexts were ended.  The open one is the next. -/
  ended : Nat
  current : Option (Opening δ)

/-- What a service asks of a policy. -/
inductive Work (δ : Type) where
  | install (raw : Bytes)
  | evaluate (path : String) (entrypoint : Int) (schema : Schema) (raw : Bytes) (data : δ)
  /-- The payload may turn out to be none only when the guest is ready for it. -/
  | openContext (payload : Except Report Bytes) (data : δ)
  | contextEval (path : String) (entrypoint : Int) (schema : Schema) (input data : δ)
  | close

/-- What a use comes to before anything is asked of the policy. -/
inductive Demand (δ : Type) where
  | answer (outcome : Except Fault Host.Answer)
  | work (work : Work δ)

namespace Service

variable {δ : Type}

/-- The phases of all contexts, the first one first. -/
def phases (service : Service δ) : List Phase :=
  List.replicate service.ended .destroyed ++ (service.current.map (·.phase)).toList

/-- The identifier of an entrypoint, under its normalized name. -/
def resolve (service : Service δ) (entrypoint : String) : Except Fault (String × Int) :=
  let path := normalizePath entrypoint
  match service.entrypoints.find? fun e => e.1 == path with
  | some e => .ok (path, e.2)
  | none => .error (.report (Report.unknownEntrypoint path (service.entrypoints.map (·.1))))

/-- A context by its identifier: the open one, if it is not one that was
ended. -/
def context (service : Service δ) (id : ContextId) : Except Fault (Option (Opening δ)) :=
  if id < service.ended then .ok none
  else if id = service.ended then
    match service.current with
    | some opening => .ok (some opening)
    | none => .error .noSlot
  else .error .noSlot

/-- What a single evaluation asks for. -/
def demandEval (service : Service δ) (entrypoint : String) (input : Value) (schema : Schema) :
    Demand δ :=
  if service.current.isSome then .answer (.error (.report Report.runtimeBusy))
  else
    match service.resolve entrypoint with
    | .error fault => .answer (.error fault)
    | .ok (path, id) =>
      match service.data with
      | none => .answer (.error (.report Report.noData))
      | some data =>
        match Payload.encode input with
        | .error r => .answer (.error (.report r))
        | .ok raw => .work (.evaluate path id schema raw data)

/-- What ending a context asks for.  A context that was ended already is
nothing to do, or an error. -/
def demandEnd (service : Service δ) (id : ContextId) (again : Except Fault Host.Answer) :
    Demand δ :=
  match service.context id with
  | .error fault => .answer (.error fault)
  | .ok none => .answer again
  | .ok (some _) => .work .close

def demand (service : Service δ) : Host.Use → Demand δ
  | .setData value =>
    if service.current.isSome then .answer (.error (.report Report.runtimeBusy))
    else
      match Payload.encode value with
      | .error r => .answer (.error (.report r))
      | .ok raw => .work (.install raw)
  | .eval entrypoint input schema => service.demandEval entrypoint input schema
  | .decide binding input =>
    match binding.prepareInput input with
    | .error r => .answer (.error (.report r))
    | .ok input => service.demandEval binding.path input binding.output
  | .openContext input =>
    if service.current.isSome then .answer (.error (.report Report.runtimeBusy))
    else
      match service.data with
      | none => .answer (.error (.report Report.noData))
      | some data => .work (.openContext (Payload.encode input) data)
  | .contextEval id entrypoint schema =>
    match service.context id with
    | .error fault => .answer (.error fault)
    | .ok none => .answer (.error (.report Report.contextDestroyed))
    | .ok (some opening) =>
      match service.resolve entrypoint with
      | .error fault => .answer (.error fault)
      | .ok (path, entrypoint) =>
        .work (.contextEval path entrypoint schema opening.input opening.data)
  | .destroy id => service.demandEnd id (.error (.report Report.contextDestroyed))
  | .leave id _ | .drop id => service.demandEnd id (.ok .done)
  | .entrypointId entrypoint =>
    .answer ((service.resolve entrypoint).map fun e => .entrypoint e.2)

/-- Which work a use may ask for, and when. -/
inductive Asks (service : Service δ) : Host.Use → Work δ → Prop
  | install (value : Value) (raw : Bytes) (closed : service.current = none)
      (encoded : Payload.encode value = .ok raw) : Asks service (.setData value) (.install raw)
  | evaluate (entrypoint : String) (input : Value) (schema : Schema) (found : String × Int)
      (raw : Bytes) (data : δ) (closed : service.current = none)
      (resolved : service.resolve entrypoint = .ok found) (document : service.data = some data)
      (encoded : Payload.encode input = .ok raw) :
      Asks service (.eval entrypoint input schema) (.evaluate found.1 found.2 schema raw data)
  | decide (binding : Binding) (value input : Value) (found : String × Int) (raw : Bytes) (data : δ)
      (prepared : binding.prepareInput value = .ok input) (closed : service.current = none)
      (resolved : service.resolve binding.path = .ok found) (document : service.data = some data)
      (encoded : Payload.encode input = .ok raw) :
      Asks service (.decide binding value) (.evaluate found.1 found.2 binding.output raw data)
  | openContext (input : Value) (data : δ) (closed : service.current = none)
      (document : service.data = some data) :
      Asks service (.openContext input) (.openContext (Payload.encode input) data)
  | contextEval (id : ContextId) (entrypoint : String) (schema : Schema) (found : String × Int)
      (opening : Opening δ) (is_open : service.context id = .ok (some opening))
      (resolved : service.resolve entrypoint = .ok found) :
      Asks service (.contextEval id entrypoint schema)
        (.contextEval found.1 found.2 schema opening.input opening.data)
  | destroy (id : ContextId) (opening : Opening δ)
      (is_open : service.context id = .ok (some opening)) : Asks service (.destroy id) .close
  | leave (id : ContextId) (unwinding : Bool) (opening : Opening δ)
      (is_open : service.context id = .ok (some opening)) :
      Asks service (.leave id unwinding) .close
  | drop (id : ContextId) (opening : Opening δ)
      (is_open : service.context id = .ok (some opening)) : Asks service (.drop id) .close

theorem demandEnd_asks (service : Service δ) (id : ContextId) (again : Except Fault Host.Answer)
    (work : Work δ) (demanded : service.demandEnd id again = .work work) :
    work = .close ∧ ∃ opening, service.context id = .ok (some opening) := by
  unfold demandEnd at demanded
  cases found : service.context id with
  | error fault =>
    rw [found] at demanded
    cases demanded
  | ok opening =>
    rw [found] at demanded
    cases opening with
    | none => cases demanded
    | some opening =>
      cases demanded
      exact ⟨rfl, opening, rfl⟩

/-- A single evaluation asks for work if no context is open, the entrypoint is
known, there is a dataset and the input has a text. -/
theorem demandEval_asks (service : Service δ) (entrypoint : String) (input : Value)
    (schema : Schema) (work : Work δ)
    (demanded : service.demandEval entrypoint input schema = .work work) :
    service.current = none ∧ ∃ found raw data, service.resolve entrypoint = .ok found ∧
      service.data = some data ∧ Payload.encode input = .ok raw ∧
      work = .evaluate found.1 found.2 schema raw data := by
  unfold demandEval at demanded
  cases current : service.current with
  | some opening => simp [current] at demanded
  | none =>
    rw [current, Option.isSome_none, if_neg Bool.false_ne_true] at demanded
    cases resolved : service.resolve entrypoint with
    | error fault =>
      rw [resolved] at demanded
      cases demanded
    | ok found =>
      rw [resolved] at demanded
      cases document : service.data with
      | none =>
        rw [document] at demanded
        cases demanded
      | some data =>
        rw [document] at demanded
        cases encoded : Payload.encode input with
        | error r =>
          rw [encoded] at demanded
          cases demanded
        | ok raw =>
          rw [encoded] at demanded
          cases demanded
          exact ⟨rfl, found, raw, data, rfl, rfl, rfl, rfl⟩

theorem demand_asks (service : Service δ) (use : Host.Use) (work : Work δ)
    (demanded : service.demand use = .work work) : service.Asks use work := by
  cases use with
  | setData value =>
    unfold demand at demanded
    cases current : service.current with
    | some opening => simp [current] at demanded
    | none =>
      cases encoded : Payload.encode value with
      | error r => simp [current, encoded] at demanded
      | ok raw =>
        simp only [current, encoded, Option.isSome_none, Bool.false_eq_true, if_false,
          Demand.work.injEq] at demanded
        subst demanded
        exact .install value raw current encoded
  | eval entrypoint input schema =>
    rcases service.demandEval_asks entrypoint input schema work demanded with
      ⟨closed, found, raw, data, resolved, document, encoded, rfl⟩
    exact .evaluate entrypoint input schema found raw data closed resolved document encoded
  | decide binding value =>
    dsimp only [demand] at demanded
    cases prepared : binding.prepareInput value with
    | error r =>
      rw [prepared] at demanded
      cases demanded
    | ok input =>
      rw [prepared] at demanded
      rcases service.demandEval_asks _ _ _ work demanded with
        ⟨closed, found, raw, data, resolved, document, encoded, rfl⟩
      exact .decide binding value input found raw data prepared closed resolved document encoded
  | openContext input =>
    unfold demand at demanded
    cases current : service.current with
    | some opening => simp [current] at demanded
    | none =>
      cases document : service.data with
      | none => simp [current, document] at demanded
      | some data =>
        simp only [current, document, Option.isSome_none, Bool.false_eq_true, if_false,
          Demand.work.injEq] at demanded
        subst demanded
        exact .openContext input data current document
  | contextEval id entrypoint schema =>
    dsimp only [demand] at demanded
    cases found : service.context id with
    | error fault =>
      rw [found] at demanded
      cases demanded
    | ok opening =>
      rw [found] at demanded
      cases opening with
      | none => cases demanded
      | some opening =>
        cases resolved : service.resolve entrypoint with
        | error fault =>
          rw [resolved] at demanded
          cases demanded
        | ok pair =>
          rw [resolved] at demanded
          cases demanded
          exact .contextEval id entrypoint schema pair opening found resolved
  | destroy id =>
    rcases service.demandEnd_asks id _ work demanded with ⟨rfl, opening, is_open⟩
    exact .destroy id opening is_open
  | leave id unwinding =>
    rcases service.demandEnd_asks id _ work demanded with ⟨rfl, opening, is_open⟩
    exact .leave id unwinding opening is_open
  | drop id =>
    rcases service.demandEnd_asks id _ work demanded with ⟨rfl, opening, is_open⟩
    exact .drop id opening is_open
  | entrypointId entrypoint => cases demanded

/-- Installing a dataset takes work, unless it fails. -/
theorem demand_setData_answer (service : Service δ) (value : Value)
    (given : Except Fault Host.Answer)
    (demanded : service.demand (.setData value) = .answer given) :
    ∃ fault, given = .error fault := by
  unfold demand at demanded
  dsimp only at demanded
  split at demanded
  · cases demanded
    exact ⟨_, rfl⟩
  · split at demanded
    · cases demanded
      exact ⟨_, rfl⟩
    · cases demanded

/-- Opening a context takes work, unless it fails. -/
theorem demand_openContext_answer (service : Service δ) (input : Value)
    (given : Except Fault Host.Answer)
    (demanded : service.demand (.openContext input) = .answer given) :
    ∃ fault, given = .error fault := by
  unfold demand at demanded
  dsimp only at demanded
  split at demanded
  · cases demanded
    exact ⟨_, rfl⟩
  · split at demanded
    · cases demanded
      exact ⟨_, rfl⟩
    · cases demanded

/-- A use of the open context is remembered, also if it comes to nothing. -/
def noticed (service : Service δ) : Host.Use → Service δ
  | .contextEval id _ _ =>
    if id = service.ended then
      { service with current := service.current.map fun opening => { opening with used := true } }
    else service
  | _ => service

/-- Without an open context there is nothing to remember. -/
theorem noticed_closed (service : Service δ) (id : ContextId) (entrypoint : String)
    (schema : Schema) (closed : service.current = none) :
    service.noticed (.contextEval id entrypoint schema) = service := by
  unfold noticed
  dsimp only
  split
  · rw [closed, Option.map_none, ← closed]
  · rfl

/-- How a piece of work may end, and what the service is then. -/
inductive Does (discipline : Discipline) (semantics : Semantics δ) (service : Service δ) :
    Work δ → Except Fault Host.Answer → Service δ → Prop
  | installed (raw : Bytes) (d : δ) (accepted : semantics.parses raw (some d)) :
    Does discipline semantics service (.install raw) (.ok .done) { service with data := some d }
  /-- The old dataset is gone then. -/
  | discarded (raw : Bytes) (fault : Fault) (reason : semantics.Refuses (.ok raw) fault) :
    Does discipline semantics service (.install raw) (.error fault) { service with data := none }
  | evaluated (path : String) (entrypoint : Int) (schema : Schema) (raw : Bytes) (data : δ)
      (outcome : Except Fault Value)
      (judged : (∃ fault, outcome = .error fault ∧ fault.isShortage) ∨
        semantics.JudgesText path (UInt32.ofInt entrypoint) schema raw data discipline outcome) :
    Does discipline semantics service (.evaluate path entrypoint schema raw data)
      (outcome.map .value) service
  | opened (raw : Bytes) (input data : δ) (accepted : semantics.parses raw (some input)) :
    Does discipline semantics service (.openContext (.ok raw) data) (.ok (.context service.ended))
      { service with current := some ⟨false, input, data⟩ }
  | unopened (payload : Except Report Bytes) (data : δ) (fault : Fault)
      (reason : semantics.Refuses payload fault) :
    Does discipline semantics service (.openContext payload data) (.error fault) service
  | contextEvaluated (path : String) (entrypoint : Int) (schema : Schema) (input data : δ)
      (outcome : Except Fault Value)
      (judged : semantics.Judges Exchange.unread path (UInt32.ofInt entrypoint) schema input data
        outcome) :
    Does discipline semantics service (.contextEval path entrypoint schema input data)
      (outcome.map .value) service
  | closed :
    Does discipline semantics service .close (.ok .done)
      { service with ended := service.ended + 1, current := none }

/-- What a use may come to, and what the service is then. -/
def Step (discipline : Discipline) (semantics : Semantics δ) (service : Service δ)
    (use : Host.Use) (outcome : Except Fault Host.Answer) (after : Service δ) : Prop :=
  match service.demand use with
  | .answer given => outcome = given ∧ after = service.noticed use
  | .work work => Does discipline semantics (service.noticed use) work outcome after

variable {discipline : Discipline} {semantics : Semantics δ}

theorem Step.of_work {service after : Service δ} {use : Host.Use}
    {outcome : Except Fault Host.Answer} {work : Work δ}
    (demanded : service.demand use = .work work)
    (does : Does discipline semantics (service.noticed use) work outcome after) :
    service.Step discipline semantics use outcome after := by
  unfold Step
  rw [demanded]
  exact does

theorem Step.cases {service after : Service δ} {use : Host.Use}
    {outcome : Except Fault Host.Answer}
    (step : service.Step discipline semantics use outcome after) :
    (service.demand use = .answer outcome ∧ after = service.noticed use) ∨
      ∃ work, service.Asks use work ∧
        Does discipline semantics (service.noticed use) work outcome after := by
  unfold Step at step
  cases demanded : service.demand use with
  | answer given =>
    rw [demanded] at step
    exact Or.inl ⟨by rw [step.1], step.2⟩
  | work work =>
    rw [demanded] at step
    exact Or.inr ⟨work, service.demand_asks use work demanded, step⟩

/-- Noticing a use changes only what is known of the open context. -/
theorem noticed_eq (service : Service δ) (use : Host.Use) :
    ∃ current, current.isSome = service.current.isSome ∧
      service.noticed use = { service with current } := by
  cases use with
  | contextEval id entrypoint schema =>
    dsimp only [noticed]
    split
    · exact ⟨_, Option.isSome_map, rfl⟩
    · exact ⟨_, rfl, rfl⟩
  | _ => exact ⟨_, rfl, rfl⟩

theorem Step.ended_or_open {service after : Service δ} {use : Host.Use}
    {outcome : Except Fault Host.Answer}
    (step : service.Step discipline semantics use outcome after)
    (is_open : service.current.isSome = true) :
    after.ended = service.ended + 1 ∨
      after.ended = service.ended ∧ after.current.isSome = true := by
  rcases service.noticed_eq use with ⟨current, same, noticed⟩
  rw [is_open] at same
  have closed : ∀ {p : Prop}, service.current = none → p := by
    intro p closed
    rw [closed] at is_open
    cases is_open
  rcases step.cases with ⟨_, rfl⟩ | ⟨work, asks, does⟩
  · rw [noticed]
    exact Or.inr ⟨rfl, same⟩
  · rw [noticed] at does
    cases does with
    | installed | discarded =>
      cases asks with
      | install _ _ none _ => exact closed none
    | evaluated =>
      cases asks with
      | evaluate _ _ _ _ _ _ none _ _ _ => exact closed none
      | decide _ _ _ _ _ _ _ none _ _ _ => exact closed none
    | opened =>
      generalize work_eq : Work.openContext _ _ = work at asks
      cases asks with
      | openContext _ _ none _ => exact closed none
      | _ => cases work_eq
    | unopened =>
      cases asks with
      | openContext _ _ none _ => exact closed none
    | contextEvaluated => exact Or.inr ⟨rfl, same⟩
    | closed => exact Or.inl rfl

/-- Contexts are ended one at a time, and for good. -/
theorem Step.ended_le {service after : Service δ} {use : Host.Use}
    {outcome : Except Fault Host.Answer}
    (step : service.Step discipline semantics use outcome after) :
    service.ended ≤ after.ended := by
  rcases service.noticed_eq use with ⟨current, _, noticed⟩
  rcases step.cases with ⟨_, rfl⟩ | ⟨work, _, does⟩
  · exact Nat.le_of_eq (by rw [noticed])
  · rw [noticed] at does
    cases does with
    | closed => exact Nat.le_succ _
    | _ => exact Nat.le_refl _

/-- Nothing but a new dataset changes the dataset. -/
theorem Step.data_eq {service after : Service δ} {use : Host.Use}
    {outcome : Except Fault Host.Answer}
    (step : service.Step discipline semantics use outcome after)
    (keeps : ∀ value, use ≠ .setData value) : after.data = service.data := by
  rcases service.noticed_eq use with ⟨current, _, noticed⟩
  rcases step.cases with ⟨_, rfl⟩ | ⟨work, asks, does⟩
  · rw [noticed]
  · rw [noticed] at does
    cases does with
    | installed | discarded =>
      cases asks with
      | install value => exact absurd rfl (keeps value)
    | _ => rfl

/-- The entrypoint table never changes. -/
theorem Step.entrypoints_eq {service after : Service δ}
    {use : Host.Use} {outcome : Except Fault Host.Answer}
    (step : service.Step discipline semantics use outcome after) :
    after.entrypoints = service.entrypoints := by
  rcases service.noticed_eq use with ⟨current, _, noticed⟩
  rcases step.cases with ⟨_, rfl⟩ | ⟨work, _, does⟩
  · rw [noticed]
  · rw [noticed] at does
    cases does <;> rfl

theorem Step.installed_some {service after : Service δ} {value : Value}
    {outcome : Except Fault Host.Answer}
    (step : service.Step discipline semantics (.setData value) outcome after) (answer : Host.Answer)
    (succeeded : outcome = .ok answer) : after.data.isSome = true := by
  subst succeeded
  rcases step.cases with ⟨demanded, _⟩ | ⟨work, asks, does⟩
  · rcases service.demand_setData_answer value _ demanded with ⟨fault, impossible⟩
    cases impossible
  · cases asks
    cases does
    rfl

theorem Step.opened {service after : Service δ} {input : Value}
    {outcome : Except Fault Host.Answer}
    (step : service.Step discipline semantics (.openContext input) outcome after) (id : ContextId)
    (succeeded : outcome = .ok (.context id)) :
    id = service.ended ∧ ∃ raw x data, service.data = some data ∧
      Payload.encode input = .ok raw ∧ semantics.parses raw (some x) ∧
      after = { service with current := some ⟨false, x, data⟩ } := by
  subst succeeded
  rcases step.cases with ⟨demanded, _⟩ | ⟨work, asks, does⟩
  · rcases service.demand_openContext_answer input _ demanded with ⟨fault, impossible⟩
    cases impossible
  · cases asks with
    | openContext _ data _ document =>
      generalize encoded : Payload.encode input = payload at does
      cases does with
      | opened raw x _ accepted => exact ⟨rfl, raw, x, data, document, rfl, accepted, rfl⟩

/-- What several uses may come to, one after the other. -/
inductive Runs (discipline : Discipline) (semantics : Semantics δ) :
    Service δ → List Host.Use → List (Except Fault Host.Answer) → Service δ → Prop
  | nil (service : Service δ) : Runs discipline semantics service [] [] service
  | cons (use : Host.Use) (outcome : Except Fault Host.Answer) (service middle after : Service δ)
      (uses : List Host.Use) (outcomes : List (Except Fault Host.Answer))
      (step : service.Step discipline semantics use outcome middle)
      (rest : Runs discipline semantics middle uses outcomes after) :
      Runs discipline semantics service (use :: uses) (outcome :: outcomes) after

theorem Runs.ended_le {service after : Service δ}
    {uses : List Host.Use} {outcomes : List (Except Fault Host.Answer)}
    (runs : service.Runs discipline semantics uses outcomes after) :
    service.ended ≤ after.ended := by
  induction runs with
  | nil => exact Nat.le_refl _
  | cons use outcome service middle after uses outcomes step rest inductionHypothesis =>
    exact Nat.le_trans step.ended_le inductionHypothesis

/-- The service of a host that nothing was done with yet. -/
def unused (δ : Type) (entrypoints : List (String × Int)) : Service δ :=
  ⟨entrypoints, none, 0, none⟩

end Service
end PolicyHost
