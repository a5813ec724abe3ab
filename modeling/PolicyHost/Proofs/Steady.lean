import PolicyHost.Proofs.Echo
import PolicyHost.Proofs.Entrypoints
import PolicyHost.Proofs.Growth

namespace PolicyHost

/-!
# Hosts whose memory stays as it is

Under the rewinding discipline every single evaluation begins behind the dataset and
gives up what it has taken.  So a host that has once answered each of a number of
questions goes on to answer them in the memory that it has, however often and in
whatever order it is asked.

The heap pointer stays where it is as well, behind the dataset, but for one case.  A
context that could not be opened leaves the pointer behind what was allocated for it.
That is given up when the next context is opened, or by the next evaluation, which
moves the pointer back.
-/

variable {σ δ : Type} {module : Module σ} {short : Access σ → Prop}

namespace Host

open Operation

theorem run_cons (use : Use) (rest : List Use) (host : Host σ) :
    run (use :: rest) host =
      ((Operation.outcome (perform use) host).1 ::
          (run rest (Operation.outcome (perform use) host).2).1,
        (run rest (Operation.outcome (perform use) host).2).2) := rfl

/-- A use came to this during a run. -/
def Came (uses : List Use) (host : Host σ) (use : Use) (outcome : Except Fault Answer) : Prop :=
  ∃ earlier later, uses = earlier ++ use :: later ∧
    (Operation.outcome (perform use) (run earlier host).2).1 = outcome

theorem Came.append {earlier : List Use} {host : Host σ} {use : Use}
    {outcome : Except Fault Answer} (came : Came earlier host use outcome) (later : List Use) :
    Came (earlier ++ later) host use outcome := by
  rcases came with ⟨before, after, rfl, same⟩
  exact ⟨before, after ++ later, by simp, same⟩

@[simp] theorem came_nil (host : Host σ) (use : Use) (outcome : Except Fault Answer) :
    ¬ Came [] host use outcome := by
  rintro ⟨earlier, later, parts, _⟩
  simp at parts

@[simp] theorem came_cons (first : Use) (rest : List Use) (host : Host σ) (use : Use)
    (outcome : Except Fault Answer) :
    Came (first :: rest) host use outcome ↔
      first = use ∧ (Operation.outcome (perform first) host).1 = outcome ∨
        Came rest (Operation.outcome (perform first) host).2 use outcome := by
  constructor
  · rintro ⟨earlier, later, parts, same⟩
    cases earlier with
    | nil =>
      cases parts
      exact Or.inl ⟨rfl, same⟩
    | cons other earlier =>
      cases parts
      exact Or.inr ⟨earlier, later, rfl, same⟩
  · rintro (⟨rfl, same⟩ | ⟨earlier, later, rfl, same⟩)
    · exact ⟨[], rest, rfl, same⟩
    · exact ⟨first :: earlier, later, rfl, same⟩

theorem Came.now {use : Use} {rest : List Use} {host : Host σ} {outcome : Except Fault Answer}
    (same : (Operation.outcome (perform use) host).1 = outcome) :
    Came (use :: rest) host use outcome :=
  (came_cons ..).mpr (Or.inl ⟨rfl, same⟩)

theorem Came.later {first use : Use} {rest : List Use} {host : Host σ}
    {outcome : Except Fault Answer}
    (came : Came rest (Operation.outcome (perform first) host).2 use outcome) :
    Came (first :: rest) host use outcome :=
  (came_cons ..).mpr (Or.inr came)

theorem run_preserves (known : Host σ → Prop) {uses : List Use} {host : Host σ}
    (begun : known host)
    (preserved : ∀ earlier use later, uses = earlier ++ use :: later → known (run earlier host).2 →
      known (Operation.outcome (perform use) (run earlier host).2).2) :
    known (run uses host).2 := by
  induction uses generalizing host with
  | nil => exact begun
  | cons use rest inductionHypothesis =>
    apply inductionHypothesis (preserved [] use rest rfl begun)
    intro earlier later rest' parts held
    exact preserved (use :: earlier) later rest' (congrArg (use :: ·) parts) held

theorem usable_before {uses : List Use} {host : Host σ}
    (usable : (run uses host).2.guest.trapped = false) : host.guest.trapped = false := by
  cases lost : host.guest.trapped with
  | false => rfl
  | true =>
    have closed := (run_lives Instance.tracks_later uses host).guest.closed lost
    exact absurd (usable.symm.trans closed) Bool.false_ne_true

theorem usable_guest {host : Host σ} (usable : host.unusable = none) :
    host.guest.trapped = false := by
  unfold unusable at usable
  cases lost : host.guest.trapped with
  | false => rfl
  | true => cases leak : host.leak <;> simp [leak, lost] at usable

theorem calm_of_usable {uses : List Use} {host : Host σ}
    (usable : (run uses host).2.guest.trapped = false) : Calm (fun _ => False) uses host := by
  induction uses generalizing host with
  | nil => exact usable
  | cons use rest inductionHypothesis =>
    exact ⟨usable_before usable, fun _ _ => id, inductionHypothesis usable⟩

/-- Nothing spoke against an evaluation that returned. -/
theorem eval_due {host : Host σ} (exclusive : host.Exclusive) {name : String} {input : Value}
    {schema : Schema} {answer : Answer}
    (returned : (Operation.outcome (perform (.eval name input schema)) host).1 = .ok answer) :
    host.occupied = none ∧ host.dataless = none ∧ ∃ id, host.published name = some id := by
  have silent : host.evalObjection name = none := by
    cases objects : host.evalObjection name with
    | none => rfl
    | some r =>
      have refused := (perform_refused exclusive (.eval name input schema) (.report r)
        (by simp [objection, objects])).outcome
      simp [returned] at refused
  simp only [evalObjection, Option.or_eq_none_iff] at silent
  refine ⟨silent.2.1, silent.2.2.2, ?_⟩
  cases found : host.published name with
  | some id => exact ⟨id, rfl⟩
  | none => simp [unknown, found] at silent

/-- A single evaluation and the value that it came to. -/
structure Evaluation where
  name : String
  input : Value
  schema : Schema
  result : Value

def Evaluation.use (e : Evaluation) : Use := .eval e.name e.input e.schema

/-- Evaluations come to their values in the memory that there is, and leave the heap
pointer behind the dataset. -/
structure Repeats (heap : Heap module) (host : Host σ) (further : List Evaluation) : Prop where
  outcomes_eq : (run (further.map Evaluation.use) host).1 =
    further.map fun e => .ok (.value e.result)
  pages_eq : (run (further.map Evaluation.use) host).2.guest.memory.pages =
    host.guest.memory.pages
  behind : further ≠ [] → heap.top (run (further.map Evaluation.use) host).2.guest.snapshot =
    host.checkpoints.data.offset

end Host

theorem Service.current_of_context (service : Service δ) {id : ContextId} {opening : Opening δ}
    (found : service.context id = .ok (some opening)) : service.current = some opening := by
  unfold Service.context at found
  split at found
  · cases found
  · split at found
    · cases current : service.current with
      | none => simp [current] at found
      | some other =>
        rw [current] at found
        cases found
        rfl
    · cases found

/-- A single evaluation leaves a service as it is. -/
theorem Service.Step.eval_eq {discipline : Discipline} {semantics : Semantics δ}
    {service after : Service δ} {name : String} {input : Value} {schema : Schema}
    {outcome : Except Fault Host.Answer}
    (step : service.Step discipline semantics (.eval name input schema) outcome after) :
    after = service := by
  rcases step.cases with ⟨_, same⟩ | ⟨work, asks, does⟩
  · exact same
  · cases asks
    cases does
    rfl

namespace HeapRewind

open Host Operation

variable {conduct : Conduct δ} {heap : Heap module}
variable {meaning : HeapMeaning heap conduct.semantics}
variable {extent : UInt32 → Bytes → δ → UInt32 → Nat}
variable {equipped : Discipline.heapRewind.Equips module} {maxPages : Option Nat}
variable {service : Service δ} {host : Host σ}
variable {checkpoints : Checkpoints} {address : Address} {y : δ}

/-!
### From the installation of a dataset on
-/

/-- Since a dataset was installed, it was not replaced by another one.  It may have been
given up. -/
structure Lasts (meaning : HeapMeaning heap conduct.semantics)
    (equipped : Discipline.heapRewind.Equips module) (maxPages : Option Nat)
    (checkpoints : Checkpoints) (address : Address) (y : δ) (service : Service δ)
    (host : Host σ) : Prop where
  same : (contract meaning equipped maxPages).Matches service host
  checkpoints_eq : host.checkpoints = checkpoints
  data : service.data = none ∨ service.data = some y ∧ host.dataset = some address

/-- Unless a context is open, the heap pointer is behind the dataset. -/
def Low (heap : Heap module) (service : Service δ) (host : Host σ) : Prop :=
  service.current = none → service.data.isSome = true →
    heap.top host.guest.snapshot = host.checkpoints.data.offset

theorem Lasts.kept (lasts : Lasts meaning equipped maxPages checkpoints address y service host)
    {use : Use} {outcome : Except Fault Answer} {later : Host σ} {after : Service δ}
    (moved : (contract meaning equipped maxPages).Moved host later outcome (service.demand use))
    (step : service.Step .heapRewind conduct.semantics use outcome after)
    (matched : (contract meaning equipped maxPages).Matches after later)
    (other : ∀ value answer, use = .setData value → outcome ≠ .ok answer) :
    Lasts meaning equipped maxPages checkpoints address y after later where
  same := matched
  checkpoints_eq := by
    rw [← lasts.checkpoints_eq]
    rcases moved.cases with ⟨_, _, _, same⟩ | ⟨work, move, _, asks, makes, _, _, kept, _⟩
    · exact same
    · refine kept fun installed => ?_
      subst installed
      cases makes
      cases asks
      exact other _ _ rfl rfl
  data := by
    rcases service.noticed_eq use with ⟨current, _, noticed⟩
    have step' := step
    unfold Service.Step at step'
    cases demanded : service.demand use with
    | answer given =>
      rw [demanded] at step' moved
      have dataset := moved.dataset_eq fun raw same => nomatch same
      rw [step'.2, noticed, dataset]
      exact lasts.data
    | work work =>
      have asks := service.demand_asks use work demanded
      rw [demanded] at step' moved
      by_cases installs : ∃ raw, work = .install raw
      · rcases installs with ⟨raw, rfl⟩
        cases step' with
        | installed =>
          cases asks
          exact absurd rfl (other _ _ rfl)
        | discarded => exact Or.inl rfl
      · have dataset := moved.dataset_eq fun raw same => by
          cases same
          exact installs ⟨raw, rfl⟩
        have data := step.data_eq fun value same => by
          subst same
          cases asks
          exact installs ⟨_, rfl⟩
        rw [data, dataset]
        exact lasts.data

/-- Whatever is done leaves the heap pointer behind the dataset, but for a context that is
not opened. -/
theorem Low.kept {use : Use} {outcome : Except Fault Answer} {later : Host σ} {after : Service δ}
    (low : Low heap service host)
    (moved : (contract meaning equipped maxPages).Moved host later outcome (service.demand use))
    (step : service.Step .heapRewind conduct.semantics use outcome after)
    (other : ∀ value answer, use = .setData value → outcome ≠ .ok answer)
    (opens : ∀ input fault, use = .openContext input → outcome ≠ .error fault) :
    Low heap after later := by
  rcases service.noticed_eq use with ⟨current, same, noticed⟩
  unfold Service.Step at step
  rcases moved.cases with ⟨given, demanded, untouched, checkpoints_eq⟩ |
    ⟨work, move, demanded, asks, makes, moved, _, kept, _⟩
  · rw [demanded, noticed] at step
    rw [Low, step.2, untouched, checkpoints_eq]
    intro closed present
    refine low ?_ present
    rwa [← Option.not_isSome_iff_eq_none, ← same, Option.not_isSome_iff_eq_none]
  · rw [demanded, noticed] at step
    cases makes with
    | installed =>
      cases asks
      exact absurd rfl (other _ _ rfl)
    | discarded =>
      cases step
      exact fun _ present => nomatch present
    | evaluated =>
      have checkpoints_eq := kept fun impossible => nomatch impossible
      rcases moved with untouched | ⟨top, _⟩
      · cases step
        rw [Low, untouched, checkpoints_eq]
        intro closed present
        refine low ?_ present
        rwa [← Option.not_isSome_iff_eq_none, ← same, Option.not_isSome_iff_eq_none]
      · exact fun _ _ => top
    | opened =>
      generalize outcome_eq : Except.ok _ = outcome at step
      cases step with
      | opened => exact fun closed => nomatch closed
      | unopened => cases outcome_eq
    | unopened =>
      cases asks
      exact absurd rfl (opens _ _ rfl)
    | contextEvaluated =>
      cases asks with
      | contextEval _ _ _ _ opening is_open _ =>
        rw [service.current_of_context is_open] at same
        cases step
        intro closed
        rw [show current = none from closed] at same
        cases same
    | released => exact fun _ _ => moved.1

/-- A dataset that was just installed lasts, and the heap pointer is behind it. -/
theorem lasts_installed (same : (contract meaning equipped maxPages).Matches service host)
    (value : Value) (answer : Answer)
    (usable : (Operation.outcome (perform (.setData value)) host).2.guest.trapped = false)
    (succeeded : (Operation.outcome (perform (.setData value)) host).1 = .ok answer) :
    let installed := (Operation.outcome (perform (.setData value)) host).2
    ∃ address y after,
      Lasts meaning equipped maxPages installed.checkpoints address y after installed ∧
        Low heap after installed := by
  intro installed
  rcases Contract.step same (.setData value) (fun _ _ => id) usable with
    ⟨_, after, step, matched⟩
  have present := step.installed_some answer succeeded
  have has : installed.hasData = true := by rw [matched.hasData_eq, present]
  rcases Option.isSome_iff_exists.mp present with ⟨y, data⟩
  rcases Option.isSome_iff_exists.mp has with ⟨address, dataset⟩
  have top := (orderly same (.setData value) usable).installed value answer rfl succeeded
  exact ⟨address, y, after, ⟨matched, rfl, Or.inr ⟨data, dataset⟩⟩, fun _ _ => top⟩

/-- A dataset lasts through a run in which no other is installed, and the heap pointer
stays behind it if every context is opened that is asked for. -/
theorem Lasts.run (lasts : Lasts meaning equipped maxPages checkpoints address y service host)
    (low : Low heap service host) {uses : List Use}
    (usable : (Host.run uses host).2.guest.trapped = false)
    (other : ∀ value answer, ¬ Came uses host (.setData value) (.ok answer)) :
    ∃ after, Lasts meaning equipped maxPages checkpoints address y after (Host.run uses host).2 ∧
      ((∀ input fault, ¬ Came uses host (.openContext input) (.error fault)) →
        Low heap after (Host.run uses host).2) := by
  apply run_preserves fun later =>
    ∃ after, Lasts meaning equipped maxPages checkpoints address y after later ∧
      ((∀ input fault, ¬ Came uses host (.openContext input) (.error fault)) → Low heap after later)
  · exact ⟨service, lasts, fun _ => low⟩
  · rintro earlier use later rfl ⟨middle, lasting, lower⟩
    have usable' : (Operation.outcome (perform use) (Host.run earlier host).2).2.guest.trapped =
        false := by
      rw [run_append] at usable
      exact usable_before usable
    rcases Contract.step lasting.same use (fun _ _ => id) usable' with ⟨moved, after, step, matched⟩
    have other' : ∀ value answer, use = .setData value →
        (Operation.outcome (perform use) (Host.run earlier host).2).1 ≠ .ok answer := by
      intro value answer same installed
      subst same
      exact other value answer ⟨earlier, later, rfl, installed⟩
    refine ⟨after, lasting.kept moved step matched other', fun opens => ?_⟩
    refine (lower opens).kept moved step other' fun input fault same failed => ?_
    subst same
    exact opens input fault ⟨earlier, later, rfl, failed⟩

/-!
### Evaluations that are done again
-/

/-- A host that is ready for a single evaluation in front of a dataset. -/
structure Poised (meaning : HeapMeaning heap conduct.semantics)
    (equipped : Discipline.heapRewind.Equips module) (maxPages : Option Nat) (handlers : Handlers)
    (checkpoints : Checkpoints) (address : Address) (y : δ) (host : Host σ) : Prop where
  exclusive : host.Exclusive
  handlers_eq : host.guest.handlers = handlers
  checkpoints_eq : host.checkpoints = checkpoints
  dataset_eq : host.dataset = some address
  stands : ∃ service, (contract meaning equipped maxPages).Matches service host ∧
    service.current = none ∧ service.data = some y

/-- An evaluation that came to its value in front of a dataset, and for which there is
room. -/
def Rehearsed (conduct : Conduct δ) (extent : UInt32 → Bytes → δ → UInt32 → Nat)
    (checkpoints : Checkpoints) (y : δ) (host : Host σ) (e : Evaluation) : Prop :=
  ∃ id raw, host.published e.name = some id ∧ Payload.encode e.input = .ok raw ∧
    conduct.semantics.JudgesText (normalizePath e.name) (UInt32.ofInt id) e.schema raw y
      .heapRewind (.ok e.result) ∧
    Room extent checkpoints.data (UInt32.ofInt id) raw y host.guest.memory.size

theorem Rehearsed.mono {e : Evaluation} {later : Host σ}
    (rehearsed : Rehearsed conduct extent checkpoints y host e)
    (entrypoints_eq : later.entrypoints = host.entrypoints)
    (more : host.guest.memory.pages ≤ later.guest.memory.pages) :
    Rehearsed conduct extent checkpoints y later e := by
  rcases rehearsed with ⟨id, raw, published, encoded, judged, room⟩
  refine ⟨id, raw, ?_, encoded, judged, room.mono (Nat.mul_le_mul_right _ more)⟩
  unfold Host.published at published ⊢
  rwa [entrypoints_eq]

/-- A host with a dataset that lasts is ready, unless a context is open. -/
theorem Lasts.poised (lasts : Lasts meaning equipped maxPages checkpoints address y service host)
    (exclusive : host.Exclusive) (free : host.occupied = none) (installed : host.dataless = none) :
    Poised meaning equipped maxPages host.guest.handlers checkpoints address y host := by
  rcases ready lasts.same free installed with ⟨closed, y', present⟩
  rcases lasts.data with absent | ⟨data, dataset⟩
  · exact nomatch absent.symm.trans present
  · exact ⟨exclusive, rfl, lasts.checkpoints_eq, dataset, service, lasts.same, closed, data⟩

namespace Poised

variable {handlers : Handlers}
variable (poised : Poised meaning equipped maxPages handlers checkpoints address y host)
include poised

/-- The dataset is in front of the heap. -/
theorem level :
    Level meaning checkpoints.data.offset [installed checkpoints (address, y)] host.guest := by
  rcases poised.stands with ⟨service, same, closed, present⟩
  rcases same.idle closed with ⟨_, _, data, dataset, document, idle⟩
  rw [poised.dataset_eq] at dataset
  rw [present] at document
  cases data with
  | none => cases dataset
  | some data =>
    rcases data with ⟨address', y'⟩
    cases dataset
    cases document
    rw [poised.checkpoints_eq] at idle
    exact idle.level

theorem unusable_none : host.unusable = none := by
  rcases poised.stands with ⟨service, same, _, _⟩
  unfold Host.unusable
  rw [same.leak_eq, poised.level.open_eq]
  rfl

theorem occupied_none : host.occupied = none := by
  rcases poised.stands with ⟨service, same, closed, _⟩
  rw [poised.exclusive.occupied_eq, (same.idle closed).1]
  rfl

/-- A single evaluation comes to what it comes to in the guest. -/
theorem eval_ends (e : Evaluation) (id : Int) (published : host.published e.name = some id)
    {good : Value → Instance σ → Prop} {bad : Fault → Instance σ → Prop}
    (ends : Ends (Discipline.heapRewind.evaluate (Discipline.heapRewind.terms maxPages) checkpoints
      (normalizePath e.name) id address e.input e.schema) host.guest good bad) :
    Ends (perform e.use) host
      (fun answer after => ∃ value, answer = .value value ∧ good value after.guest)
      (fun fault after => bad fault after.guest) := by
  rcases poised.stands with ⟨service, same, _, _⟩
  have rewinds : host.discipline = .heapRewind := same.discipline_eq
  have terms_eq : host.terms = Discipline.heapRewind.terms maxPages := same.terms_eq
  have whole := Host.eval_ends poised.exclusive e.name id e.input e.schema address
    poised.unusable_none poised.occupied_none published poised.dataset_eq
  rw [rewinds, terms_eq, poised.checkpoints_eq] at whole
  have evaluated := ends.outcome
  refine whole.mono ?_ ?_
  · rintro answer after ⟨value, rfl, outcome⟩
    refine ⟨value, rfl, ?_⟩
    simpa [outcome] using evaluated
  · intro fault after outcome
    simpa [outcome] using evaluated

/-- An evaluation that comes to a value can be done again. -/
theorem rehearse (steady : meaning.Steady short extent) (e : Evaluation)
    (usable : (Operation.outcome (perform e.use) host).2.guest.trapped = false)
    (returned : (Operation.outcome (perform e.use) host).1 = .ok (.value e.result)) :
    Rehearsed conduct extent checkpoints y (Operation.outcome (perform e.use) host).2 e := by
  rcases eval_due poised.exclusive returned with ⟨_, _, id, published⟩
  have encoded : ∃ raw, Payload.encode e.input = .ok raw := by
    cases encoded : Payload.encode e.input with
    | ok raw => exact ⟨raw, rfl⟩
    | error r =>
      have failed := (poised.eval_ends e id published (Discipline.evaluate_unserializable
        .heapRewind _ checkpoints _ id address e.input e.schema host.guest r encoded
        (fun _ _ => False) (fun _ _ => True) trivial)).outcome
      simp [returned] at failed
  rcases encoded with ⟨raw, encoded⟩
  have entered := List.mem_singleton_self (installed checkpoints (address, y))
  have ends := (poised.eval_ends e id published
    ((evaluate_ends equipped _ checkpoints _ id address y _ e.input raw e.schema encoded
      poised.level entered).and
    (evaluate_room equipped steady encoded poised.level entered))).outcome
  rw [returned] at ends
  rcases ends with ⟨_, same, value, rfl, ⟨_, judged⟩, room⟩ | ⟨_, impossible, _⟩
  · cases same
    have lives := (perform_lives Instance.tracks_later e.use).outcome host
    refine ⟨id, raw, ?_, encoded, judged, room usable⟩
    unfold Host.published at published ⊢
    rwa [lives.entrypoints_eq]
  · cases impossible

/-- An evaluation that is done again comes to the same value, in the memory that there is,
and leaves the heap pointer behind the dataset. -/
theorem again (follows : meaning.Follows handlers short) (steady : meaning.Steady short extent)
    (e : Evaluation) (rehearsed : Rehearsed conduct extent checkpoints y host e) :
    let result := Operation.outcome (perform e.use) host
    result.1 = .ok (.value e.result) ∧
      result.2.guest.memory.pages = host.guest.memory.pages ∧
      heap.top result.2.guest.snapshot = checkpoints.data.offset ∧
      Poised meaning equipped maxPages handlers checkpoints address y result.2 := by
  rcases rehearsed with ⟨id, raw, published, encoded, judged, room⟩
  have entered := List.mem_singleton_self (installed checkpoints (address, y))
  have ends := (poised.eval_ends e id published
    ((evaluate_ends equipped _ checkpoints _ id address y _ e.input raw e.schema encoded
      poised.level entered).and
    (evaluate_again equipped follows steady encoded poised.level poised.handlers_eq entered judged
      room))).outcome
  rcases ends with ⟨_, outcome, value, rfl, ⟨rewound, _⟩, rfl, pages⟩ | ⟨_, _, _, impossible⟩
  case inr => exact impossible.elim
  refine ⟨outcome, pages, rewound.top_eq, ?_⟩
  rcases poised.stands with ⟨service, same, closed, present⟩
  rcases Contract.step same e.use (fun _ _ => False.elim) rewound.level.open_eq with
    ⟨moved, after, step, matched⟩
  have unchanged := step.eval_eq
  have kept := since_data moved fun _ same => nomatch same
  have lives := (perform_lives Instance.tracks_later e.use).outcome host
  exact ⟨poised.exclusive.run [e.use], lives.guest.handlers_eq.trans poised.handlers_eq,
    kept.1.trans poised.checkpoints_eq, kept.2.1.trans poised.dataset_eq, after, matched,
    by rw [unchanged, closed], by rw [unchanged, present]⟩

end Poised

/-- An evaluation that came to a value since the dataset was installed can be done again
as long as the dataset lasts. -/
theorem Lasts.rehearsed
    (lasts : Lasts meaning equipped maxPages checkpoints address y service host)
    (low : Low heap service host) (exclusive : host.Exclusive)
    (steady : meaning.Steady short extent) {since : List Use}
    (usable : (Host.run since host).2.guest.trapped = false)
    (other : ∀ value answer, ¬ Came since host (.setData value) (.ok answer)) {e : Evaluation}
    (came : Came since host e.use (.ok (.value e.result))) :
    Rehearsed conduct extent checkpoints y (Host.run since host).2 e := by
  rcases came with ⟨earlier, rest, rfl, returned⟩
  rw [run_append] at usable ⊢
  have evaluated : (Operation.outcome (perform e.use) (Host.run earlier host).2).2.guest.trapped =
      false := usable_before usable
  rcases lasts.run low (usable_before usable) fun value answer came =>
    other value answer (came.append _) with ⟨after, lasting, _⟩
  have exclusive' := exclusive.run earlier
  rcases eval_due exclusive' returned with ⟨free, present, _⟩
  have poised := lasting.poised exclusive' free present
  have lives := (perform_lives Instance.tracks_later e.use).outcome (Host.run earlier host).2
  have widened := run_lives Instance.tracks_widened rest
    (Operation.outcome (perform e.use) (Host.run earlier host).2).2
  refine (poised.rehearse steady e evaluated returned).mono widened.entrypoints_eq
    (widened.guest.pages_le ?_ usable)
  rw [lives.guest.module_eq, poised.level.module_eq]
  exact steady.widens

/-- Evaluations that were done before are done again and again. -/
theorem Poised.run {handlers : Handlers}
    (poised : Poised meaning equipped maxPages handlers checkpoints address y host)
    (follows : meaning.Follows handlers short) (steady : meaning.Steady short extent)
    {further : List Evaluation}
    (rehearsed : ∀ e ∈ further, Rehearsed conduct extent checkpoints y host e) :
    host.Repeats heap further := by
  induction further generalizing host with
  | nil => exact ⟨rfl, rfl, fun nonempty => absurd rfl nonempty⟩
  | cons e rest inductionHypothesis =>
    rcases poised.again follows steady e (rehearsed e (List.mem_cons_self ..)) with
      ⟨outcome, pages, top, poised'⟩
    have lives := (perform_lives Instance.tracks_later e.use).outcome host
    have others := inductionHypothesis poised' fun e' member =>
      (rehearsed e' (List.mem_cons_of_mem _ member)).mono lives.entrypoints_eq
        (Nat.le_of_eq pages.symm)
    constructor
    case outcomes_eq =>
      rw [List.map_cons, run_cons, List.map_cons, others.outcomes_eq, outcome]
    case pages_eq =>
      rw [List.map_cons, run_cons]
      exact others.pages_eq.trans pages
    case behind =>
      intro _
      rw [List.map_cons, run_cons, poised.checkpoints_eq]
      cases rest with
      | nil => exact top
      | cons e' rest =>
        have behind := others.behind (List.cons_ne_nil _ _)
        rwa [poised'.checkpoints_eq] at behind

end HeapRewind

namespace Host

section

variable {conduct : Conduct δ} {builder : Builder} {journal journal' : Journal} {host : Host σ}
variable {heap : Heap module} {meaning : HeapMeaning heap conduct.semantics}
variable {extent : UInt32 → Bytes → δ → UInt32 → Nat}

/-- Evaluations that were done once since a dataset was installed are done in the memory
that there is, and come to what they came to.  The heap pointer is behind the dataset
then, where it was before, unless a context was not opened since. -/
theorem memory_steady (built : builder.instantiate module journal = .ok host journal')
    (version : 2 ≤ host.minor) (follows : meaning.Follows host.guest.handlers short)
    (steady : meaning.Steady short extent) (before : List Use) (value : Value) (answer : Answer)
    (succeeded : (Operation.outcome (perform (.setData value)) (run before host).2).1 = .ok answer)
    (since : List Use) :
    let installed := (run (before ++ [.setData value]) host).2
    let later := (run since installed).2
    (∀ other answer, ¬ Came since installed (.setData other) (.ok answer)) →
    later.unusable = none → later.occupied = none → later.dataless = none →
    ∀ further : List Evaluation,
      (∀ e ∈ further, Came since installed e.use (.ok (.value e.result))) →
        later.Repeats heap further ∧
          ((∀ input fault, ¬ Came since installed (.openContext input) (.error fault)) →
            heap.top later.guest.snapshot = later.checkpoints.data.offset) := by
  intro installed later lasting usable free present further evaluated
  rcases HeapRewind.matches_built meaning built version with ⟨equipped, same⟩
  have exclusive : installed.Exclusive :=
    (Builder.instantiate_equips built).1.exclusive.run (before ++ [.setData value])
  have open_eq : later.guest.trapped = false := usable_guest usable
  have begun : installed = (Operation.outcome (perform (.setData value)) (run before host).2).2 :=
    congrArg Prod.snd (run_append before [.setData value] host)
  have installed_open : (Operation.outcome (perform (.setData value))
      (run before host).2).2.guest.trapped = false := by
    rw [← begun]
    exact usable_before open_eq
  have before_open : (run before host).2.guest.trapped = false :=
    @usable_before _ [.setData value] _ installed_open
  -- The dataset lasts from its installation on, and every evaluation is one in front of it.
  rcases Contract.runs same before (calm_of_usable before_open) with ⟨_, _, matched⟩
  rcases HeapRewind.lasts_installed matched value answer installed_open succeeded with
    ⟨address, y, service, lasts, low⟩
  rw [← begun] at lasts low
  rcases lasts.run low open_eq lasting with ⟨after, lasting', lower⟩
  have poised := lasting'.poised (exclusive.run since) free present
  have handlers_eq : later.guest.handlers = host.guest.handlers := by
    have first := run_lives Instance.tracks_later (before ++ [.setData value]) host
    exact (run_lives Instance.tracks_later since installed).guest.handlers_eq.trans
      first.guest.handlers_eq
  rw [handlers_eq] at poised
  refine ⟨poised.run follows steady fun e member => ?_, fun opens => ?_⟩
  · exact lasts.rehearsed low exclusive steady open_eq lasting (evaluated e member)
  · rcases ready lasting'.same free present with ⟨closed, y', data⟩
    exact lower opens closed (by rw [data]; rfl)

end

end Host

/-!
### A guest that is steady
-/

namespace Shelf

variable (rules : Rules δ) (table : δ) (minor : Int)

/-- Where the text ends with which the shelf answers an evaluation, behind all memory if
it cannot be written. -/
def extent (entrypoint : UInt32) (raw : Bytes) (y : δ) (start : UInt32) : Nat :=
  match rules.parse raw with
  | none => 2 ^ 32 + 1
  | some x =>
    let text := rules.dump (rules.answer entrypoint x y)
    if 0 ∉ text ∧ bottom ≤ start ∧ start.toNat + text.length + 1 < 2 ^ 32 then
      start.toNat + text.length + 1
    else 2 ^ 32 + 1

/-- What is inside memory that can be addressed was answered with. -/
theorem extent_le_iff {entrypoint : UInt32} {raw : Bytes} {y : δ} {start : UInt32} {size : Nat}
    (addressable : size ≤ 2 ^ 32) :
    extent rules entrypoint raw y start ≤ size ↔
      ∃ x, rules.parse raw = some x ∧ 0 ∉ rules.dump (rules.answer entrypoint x y) ∧
        bottom ≤ start ∧
        start.toNat + (rules.dump (rules.answer entrypoint x y)).length + 1 < 2 ^ 32 ∧
        start.toNat + (rules.dump (rules.answer entrypoint x y)).length < size := by
  unfold extent
  cases rules.parse raw with
  | none =>
    simp only [reduceCtorEq, false_and, exists_false, iff_false]
    omega
  | some x =>
    simp only [Option.some.injEq, exists_eq_left']
    split
    · rename_i fits
      simp only [fits.1, fits.2.1, fits.2.2, not_false_eq_true, true_and]
      exact Nat.lt_iff_add_one_le.symm
    · rename_i misfits
      have outside : ¬ 2 ^ 32 + 1 ≤ size := by omega
      simp only [outside, false_iff]
      exact fun ⟨nonzero, within, room, _⟩ => misfits ⟨nonzero, within, room⟩

theorem pages_kept {name : String} {arguments : List UInt32} {before after : Snapshot (Shelf δ)}
    {answer : Option UInt32}
    (answered : (toModule rules table minor).Answers name arguments before answer after) :
    after.memory.pages = before.memory.pages := by
  rw [answers_iff, enter] at answered
  split at answered
  · exact (Snapshot.hand_eq_some.mp answered).placed.pages_eq
  · rcases Option.bind_eq_some_iff.mp answered with ⟨request, _, served⟩
    exact (Request.serve_kept served).pages_eq

theorem not_stuck (handlers : Handlers) {request : Request} {found : Snapshot (Shelf δ)}
    {answer : Option UInt32} {after : Snapshot (Shelf δ)}
    (served : request.serve rules found = some (answer, after)) :
    ¬ (toModule rules table minor).Stuck handlers (.call request.name request.arguments found) := by
  have answered : request.Answered (toModule rules table minor) found answer after :=
    (answered_iff ..).mpr served
  have entered := (answers_iff ..).mp answered
  refine not_not.mpr ⟨answer, ?_⟩
  unfold toModule
  dsimp only
  rw [show enter rules table request.name request.arguments ⟨found.memory, found.state⟩ = _ from
    entered]
  rfl

theorem steady (garble : UInt32 → Bytes → δ → Instance.Ending (Option Bytes))
    (handlers : Handlers) :
    (computes rules table minor garble).Steady ((toModule rules table minor).Stuck handlers)
      (extent rules) where
  widens _ _ _ _ _ answered := Nat.le_of_eq (pages_kept rules table minor answered).symm
  reaches entrypoint data input length start y before answer after asked answered := by
    have intact : Intact before _ := asked.allowed.intact
    rcases asked.dataset with ⟨bound, _, thing, rests, same⟩
    rcases Request.serve_evaluate ((answered_iff ..).mp answered) with ⟨x, y', evaluated⟩
    cases (document_eq_some.mpr ⟨thing, rests.found, same⟩).symm.trans evaluated.found
    rw [Memory.size, pages_kept rules table minor answered]
    exact (extent_le_iff rules (Memory.size_le_of_pages _ intact.bounded)).mpr
      ⟨x, evaluated.parsed, evaluated.said.nonzero, evaluated.within, evaluated.said.room,
        evaluated.said.inside⟩
  stays _ _ _ _ _ _ _ _ _ _ answered _ := pages_kept rules table minor answered
  suits entrypoint data input length start y found asked inside := by
    have intact : Intact found _ := asked.allowed.intact
    rcases asked.dataset with ⟨bound, _, thing, rests, same⟩
    rcases (extent_le_iff rules (Memory.size_le_of_pages _ intact.bounded)).mp inside with
      ⟨x, parsed, nonzero, within, room, inside⟩
    have document := document_eq_some.mpr ⟨thing, rests.found, same⟩
    have said : Snapshot.Said ⟨found.memory, { found.state with pointer := start }⟩
        (rules.dump (rules.answer entrypoint x y)) (some start) ⟨_, _⟩ :=
      ⟨inside, nonzero, room, rfl, rfl, rfl⟩
    exact not_stuck rules table minor handlers
      (Request.serve_of_evaluated ⟨parsed, document, within, said⟩)
  moves _ _ _ _ _ answered := pages_kept rules table minor answered
  movable address found _ :=
    @not_stuck _ rules table minor handlers (.setHeapPointer address) found _ _ rfl

end Shelf

/-- The echo that does not take null for a document. -/
def Rules.wary : Rules Bytes :=
  { Rules.echo with parse := fun raw => if raw = Utf8.encode "null" then none else some raw }

/-- A guest that echoes, but for null. -/
def Shelf.wary : Module (Shelf Bytes) := toModule .wary echoTable 2

namespace Host

/-- Whether a use came to a truth value can be told. -/
instance (outcome : Except Fault Answer) (b : Bool) :
    Decidable (outcome = .ok (.value (.bool b))) :=
  match outcome with
  | .ok (.value (.bool other)) =>
    decidable_of_iff (other = b) ⟨fun same => by rw [same], fun same => by cases same; rfl⟩
  | .ok (.value .null) | .ok (.value (.int _)) | .ok (.value (.float _))
  | .ok (.value (.text _)) | .ok (.value (.unencodable _)) | .ok (.value (.bytes _))
  | .ok (.value (.list _))
  | .ok (.value (.tuple _)) | .ok (.value (.set _)) | .ok (.value (.mapping _))
  | .ok (.value (.record _ _ _ _)) | .ok (.value (.moment _)) | .ok (.value (.foreign _))
  | .ok .done | .ok (.context _) | .ok (.entrypoint _) | .error _ =>
    .isFalse fun same => nomatch same

theorem openContext_silent {host : Host σ} {input : Value}
    (silent : (host.objection (.openContext input)).isNone = true) :
    host.unusable = none ∧ host.occupied = none ∧ host.dataless = none := by
  simpa [objection, Option.or_eq_none_iff] using silent

def Evaluation.yes : Evaluation := ⟨"echo", .bool true, .any, .bool true⟩

def Evaluation.no : Evaluation := ⟨"echo", .bool false, .any, .bool false⟩

/-- Two truth values were answered, with a context in between, and are answered again and
again. -/
theorem memory_steady_wary :
    Builder.Builds {} Shelf.wary fun host =>
      let installed := (run ([.entrypointId "echo"] ++ [.setData (.list [])]) host).2
      let since := [Evaluation.yes.use, .openContext (.list []), .destroy 0, Evaluation.no.use]
      let later := (run since installed).2
      2 ≤ host.minor ∧ later.unusable = none ∧ later.occupied = none ∧ later.dataless = none ∧
        Came since installed Evaluation.yes.use (.ok (.value (.bool true))) ∧
        Came since installed Evaluation.no.use (.ok (.value (.bool false))) ∧
        later.Repeats (Shelf.heap .wary Shelf.echoTable 2) [.no, .no, .yes, .no] ∧
        (Shelf.heap .wary Shelf.echoTable 2).top later.guest.snapshot =
          later.checkpoints.data.offset := by
  have begun : Builder.Builds {} Shelf.wary fun host =>
      let before := (run [.entrypointId "echo"] host).2
      let installed := (run ([.entrypointId "echo"] ++ [.setData (.list [])]) host).2
      let since := [Evaluation.yes.use, .openContext (.list []), .destroy 0, Evaluation.no.use]
      let later := (run since installed).2
      let first := Operation.outcome (perform Evaluation.yes.use) installed
      let opened := Operation.outcome (perform (.openContext (.list []))) first.2
      let closed := Operation.outcome (perform (.destroy 0)) opened.2
      (Operation.outcome (perform (.setData (.list []))) before).1.toOption.isSome ∧
        2 ≤ host.minor ∧ (later.objection (.openContext .null)).isNone ∧
        first.1 = .ok (.value (.bool true)) ∧ opened.1 = .ok (.context 0) ∧
        (Operation.outcome (perform Evaluation.no.use) closed.2).1 =
          .ok (.value (.bool false)) := by
    decide +kernel
  rcases begun with ⟨host, journal, built, done, version, silent, first, opened, second⟩
  rcases openContext_silent silent with ⟨usable, free, present⟩
  let installed := (run ([.entrypointId "echo"] ++ [.setData (.list [])]) host).2
  let since := [Evaluation.yes.use, .openContext (.list []), .destroy 0, Evaluation.no.use]
  have succeeded : ∃ answer, (Operation.outcome (perform (.setData (.list [])))
      (run [.entrypointId "echo"] host).2).1 = .ok answer := by
    cases outcome : (Operation.outcome (perform (.setData (.list [])))
        (run [.entrypointId "echo"] host).2).1 with
    | ok answer => exact ⟨answer, rfl⟩
    | error fault => simp [outcome, Except.toOption] at done
  have yes : Came since installed Evaluation.yes.use (.ok (.value (.bool true))) := .now first
  have no : Came since installed Evaluation.no.use (.ok (.value (.bool false))) :=
    .later (.later (.later (.now second)))
  have lasting : ∀ other answer, ¬ Came since installed (.setData other) (.ok answer) := by
    simp [since, Evaluation.use]
  have opens : ∀ input fault, ¬ Came since installed (.openContext input) (.error fault) := by
    intro input fault came
    rcases (came_cons ..).mp came with ⟨impossible, _⟩ | came
    · cases impossible
    rcases (came_cons ..).mp came with ⟨_, failed⟩ | came
    · exact nomatch opened.symm.trans failed
    · simp [Evaluation.use] at came
  rcases succeeded with ⟨answer, succeeded⟩
  have steady := memory_steady built version (Shelf.computes_follows .wary Shelf.echoTable 2 _)
    (Shelf.steady .wary Shelf.echoTable 2 (fun _ _ _ => .trapped) _) [.entrypointId "echo"]
    (.list []) answer succeeded since lasting usable free present [.no, .no, .yes, .no]
    (by simpa only [List.forall_mem_cons] using ⟨no, no, yes, no, List.forall_mem_nil _⟩)
  exact ⟨host, journal, built, version, usable, free, present, yes, no, steady.1, steady.2 opens⟩

/-- After a context could not be opened, because the guest does not take the input for a
document, the heap pointer is not behind the dataset.  An evaluation that was done before
moves it there.  After an evaluation of that input, which fells the guest, an evaluation
that was done before comes to nothing. -/
theorem steadiness_lost :
    Builder.Builds {} Shelf.wary fun host =>
      let heap := Shelf.heap .wary Shelf.echoTable 2
      let conduct := Conduct.ofRules .wary fun _ _ _ => .trapped
      let installed := (run [.setData (.list [])] host).2
      let unopened := [Evaluation.yes.use, .openContext .null]
      let felled := [Evaluation.yes.use, .eval "echo" .null .any]
      let later := (run unopened installed).2
      let lost := (run felled installed).2
      (∃ (meaning : HeapMeaning heap conduct.semantics) (short : Access (Shelf Bytes) → Prop)
          (extent : UInt32 → Bytes → Bytes → UInt32 → Nat),
        meaning.Follows host.guest.handlers short ∧ meaning.Steady short extent) ∧
        2 ≤ host.minor ∧
        (Came unopened installed Evaluation.yes.use (.ok (.value (.bool true))) ∧
          later.unusable = none ∧ later.occupied = none ∧ later.dataless = none ∧
          heap.pointer (run [Evaluation.yes.use] later).2.guest.snapshot ≠
            heap.pointer later.guest.snapshot) ∧
        Came felled installed Evaluation.yes.use (.ok (.value (.bool true))) ∧
          lost.occupied = none ∧ lost.dataless = none ∧
          (Operation.outcome (perform Evaluation.yes.use) lost).1 ≠
            .ok (.value (.bool true)) := by
  have begun : Builder.Builds {} Shelf.wary fun host =>
      let heap := Shelf.heap .wary Shelf.echoTable 2
      let installed := (run [.setData (.list [])] host).2
      let later := (run [Evaluation.yes.use, .openContext .null] installed).2
      let lost := (run [Evaluation.yes.use, .eval "echo" .null .any] installed).2
      2 ≤ host.minor ∧ (later.objection (.openContext .null)).isNone ∧
        (Operation.outcome (perform Evaluation.yes.use) installed).1 = .ok (.value (.bool true)) ∧
        heap.pointer (run [Evaluation.yes.use] later).2.guest.snapshot ≠
          heap.pointer later.guest.snapshot ∧
        lost.occupied.isNone ∧ lost.dataless.isNone ∧
        (Operation.outcome (perform Evaluation.yes.use) lost).1 ≠ .ok (.value (.bool true)) := by
    decide +kernel
  rcases begun with
    ⟨host, journal, built, version, silent, first, moved, unoccupied, installed, unanswered⟩
  rcases openContext_silent silent with ⟨usable, free, present⟩
  have follows : (Shelf.computes Rules.wary Shelf.echoTable 2 fun _ _ _ => .trapped).Follows
      host.guest.handlers _ := Shelf.computes_follows ..
  have steady := Shelf.steady .wary Shelf.echoTable 2 (fun _ _ _ => .trapped) host.guest.handlers
  refine ⟨host, journal, built, ⟨_, _, _, follows, steady⟩, version, ?_, ?_⟩
  · exact ⟨.now first, usable, free, present, moved⟩
  · exact ⟨.now first, Option.isNone_iff_eq_none.mp unoccupied,
      Option.isNone_iff_eq_none.mp installed, unanswered⟩

end Host

end PolicyHost
