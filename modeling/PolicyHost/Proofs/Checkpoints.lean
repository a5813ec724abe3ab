import PolicyHost.Proofs.Construction
import PolicyHost.Proofs.Lockstep
import PolicyHost.Proofs.ShelfLaws

namespace PolicyHost

/-!
# Where a host lets its guest work

Under the rewinding discipline a host keeps two marks in the heap, one in
front of the dataset and one behind it.  Everything in front of the second one
stays as it was installed, because all that happens afterwards happens behind
it, and a context that is open keeps its input the same way.
-/

variable {σ δ : Type} {module : Module σ} {heap : Heap module} {semantics : Semantics δ}

namespace HeapRewind

/-- The mark below which the guest is the host's own while no context is open. -/
def mark (checkpoints : Checkpoints) (data : Option (Address × δ)) : Nat :=
  if data.isSome then checkpoints.data.offset else checkpoints.base.offset

/-- The dataset, which ends at the second checkpoint. -/
def installed (checkpoints : Checkpoints) (data : Address × δ) : Entry δ :=
  ⟨checkpoints.data.offset, data.1.toWord, .document data.2⟩

/-- No context is open: the dataset lies between the checkpoints. -/
structure Idle (meaning : HeapMeaning heap semantics) (checkpoints : Checkpoints)
    (data : Option (Address × δ)) (guest : Instance σ) : Prop where
  bottom_le : heap.bottom ≤ checkpoints.base.offset
  base_le : checkpoints.base.offset ≤ checkpoints.data.offset
  level : Level meaning (mark checkpoints data) (data.toList.map (installed checkpoints)) guest

/-- A context is open: its input and its record lie behind the dataset, the
record last, and the guest allocates behind all of them. -/
structure Held (meaning : HeapMeaning heap semantics) (checkpoints : Checkpoints)
    (data : Address × δ) (context : Handle × δ) (guest : Instance σ) : Prop where
  bottom_le : heap.bottom ≤ checkpoints.base.offset
  base_le : checkpoints.base.offset ≤ checkpoints.data.offset
  data_le : checkpoints.data.offset ≤ context.1.context.offset
  inside : context.1.context.offset ≤ heap.top guest.snapshot
  settled : ∃ bound inputBound entrypoint, inputBound ≤ context.1.context.offset ∧
    Settled meaning
      [⟨bound, context.1.context.toWord,
          .record ⟨some context.1.input.toWord, some data.1.toWord, entrypoint⟩⟩,
        ⟨inputBound, context.1.input.toWord, .document context.2⟩,
        installed checkpoints data] guest

/-- What a use did to the heap. -/
def Moved (heap : Heap module) (move : Move) (checkpoints : Checkpoints)
    (before after : Instance σ) : Prop :=
  match move with
  | .installed => heap.top after.snapshot = checkpoints.data.offset
  | .discarded => True
  | .evaluated =>
    after = before ∨ (heap.top after.snapshot = checkpoints.data.offset ∧
      Since heap checkpoints.data.offset checkpoints.data.offset before after)
  | .opened | .unopened =>
    Since heap checkpoints.data.offset checkpoints.data.offset before after
  | .contextEvaluated handle =>
    heap.top after.snapshot = heap.top before.snapshot ∧
      checkpoints.data.offset ≤ handle.context.offset ∧
      handle.context.offset ≤ heap.top before.snapshot ∧
      Since heap (heap.top before.snapshot) handle.context.offset before after
  | .released =>
    heap.top after.snapshot = checkpoints.data.offset ∧
      Since heap checkpoints.data.offset checkpoints.data.offset before after

variable {meaning : HeapMeaning heap semantics} {checkpoints : Checkpoints}
variable {guest : Instance σ}

/-- Without the dataset, the guest is the host's own below the base. -/
theorem Idle.base {data : Option (Address × δ)} (idle : Idle meaning checkpoints data guest) :
    Level meaning checkpoints.base.offset [] guest := by
  refine idle.level.lower ?_ idle.bottom_le (List.forall_mem_nil _) (List.forall_mem_nil _)
  unfold mark
  split
  · exact idle.base_le
  · exact Nat.le_refl _

/-- For a value without a document form the heap pointer is moved back, and that is all. -/
theorem openContext_unserializable (equipped : Discipline.heapRewind.Equips module)
    (terms : Region.Terms) (data : Address) (input : Value) (r : Report) {entries : List (Entry δ)}
    (encoded : Payload.encode input = .error r)
    (level : Level meaning checkpoints.data.offset entries guest) :
    Operation.Ends (Discipline.heapRewind.openContext terms checkpoints data input) guest
      (fun _ _ => False)
      (fun fault after => after.trapped = true ∨ fault = .report r ∧
        Rewound meaning checkpoints.data.offset checkpoints.data.offset checkpoints.data.offset
          entries guest after) := by
  unfold Discipline.openContext
  rw [Operation.ends_bind]
  refine (setHeapPointer_ends equipped checkpoints.data checkpoints.data.offset entries level
    (Nat.le_refl _) level.above (fun _ member => member) level.bounded).mono ?_
    (fun _ _ lost => Or.inl lost)
  intro _ after rewound
  rw [Discipline.bindContext_unserializable _ _ _ _ r encoded]
  exact Or.inr ⟨rfl, rewound⟩

/-- The rewinding discipline keeps levels, and excuses nothing. -/
def agreement (meaning : HeapMeaning heap semantics) (maxPages : Option Nat) : Agreement σ δ where
  discipline := .heapRewind
  terms := Discipline.heapRewind.terms maxPages
  excuses _ := False
  idle := Idle meaning
  held := Held meaning
  moved := Moved heap
  fell _ _ _ _ := True

section

variable (equipped : Discipline.heapRewind.Equips module) (maxPages : Option Nat)

include equipped

theorem installs : (agreement meaning maxPages).Installs semantics := by
  intro checkpoints data guest raw idle nonempty
  refine (installData_ends equipped _ rfl checkpoints _ raw nonempty idle.base).mono ?_ ?_
  · rintro installed after ⟨d, accepted, same, top, grew, level, since⟩
    refine ⟨d, accepted, same, ⟨?_, ?_, level⟩, top.symm⟩
    · rw [same]
      exact idle.bottom_le
    · rw [same]
      exact grew
  · rintro fault after (lost | ⟨refused, level, since⟩)
    · exact Or.inl ⟨lost, trivial⟩
    · refine Or.inr (Or.inr ⟨?_, ⟨idle.bottom_le, idle.base_le, level⟩, trivial⟩)
      exact refused.imp_left Or.inl

theorem evaluates : (agreement meaning maxPages).Evaluates semantics := by
  intro checkpoints data y guest path entrypoint input raw schema idle encoded
  refine (evaluate_ends equipped _ checkpoints path entrypoint data y _ input raw schema
    encoded idle.level (List.mem_singleton_self _)).mono ?_ ?_
  · rintro value after ⟨left, judged⟩
    exact ⟨⟨idle.bottom_le, idle.base_le, left.level⟩, judged,
      Or.inr ⟨left.top_eq, left.since⟩⟩
  · rintro fault after (lost | ⟨short, rfl⟩ | ⟨left, judged⟩)
    · exact Or.inl ⟨lost, trivial⟩
    · exact Or.inr (Or.inr ⟨idle, Or.inl short, Or.inl rfl⟩)
    · exact Or.inr (Or.inr ⟨⟨idle.bottom_le, idle.base_le, left.level⟩, judged,
        Or.inr ⟨left.top_eq, left.since⟩⟩)

theorem opens : (agreement meaning maxPages).Opens semantics := by
  intro checkpoints data y guest input idle
  cases encoded : Payload.encode input with
  | error r =>
    refine (openContext_unserializable equipped _ data input r encoded idle.level).mono
      (fun _ _ => False.elim) ?_
    rintro fault after (lost | ⟨rfl, left⟩)
    · exact Or.inl ⟨lost, trivial⟩
    · exact Or.inr (Or.inr ⟨rfl, ⟨idle.bottom_le, idle.base_le, left.level⟩, left.since⟩)
  | ok raw =>
    refine (openContext_ends equipped _ rfl checkpoints data y _ input raw encoded idle.level
      (List.mem_singleton_self _)).mono ?_ ?_
    · rintro handle after
        ⟨x, bound, inputBound, accepted, before, behind, inside, settled, since⟩
      exact ⟨raw, x, rfl, accepted, ⟨idle.bottom_le, idle.base_le, behind, inside, bound,
        inputBound, none, before, settled⟩, since⟩
    · rintro fault after (lost | ⟨refused, level, since⟩)
      · exact Or.inl ⟨lost, trivial⟩
      · exact Or.inr (Or.inr ⟨refused.imp_left Or.inl,
          ⟨idle.bottom_le, idle.base_le, level⟩, since⟩)

theorem evaluates_within : (agreement meaning maxPages).EvaluatesWithin semantics := by
  rintro checkpoints data y handle x guest path entrypoint schema
    ⟨bottom_le, base_le, data_le, inside, bound, inputBound, old, before, settled⟩
  have below : ∀ entry ∈ [⟨inputBound, handle.input.toWord, .document x⟩,
      installed checkpoints (data, y)], entry.bound ≤ handle.context.offset := by
    intro entry member
    rcases List.mem_cons.mp member with rfl | member
    · exact before
    · rw [List.mem_singleton.mp member]
      exact data_le
  have held : ∀ after, Rewound meaning (heap.top guest.snapshot) (heap.top guest.snapshot)
      handle.context.offset [⟨bound, handle.context.toWord, .record ⟨some handle.input.toWord,
        some data.toWord, some (UInt32.ofInt entrypoint)⟩⟩,
        ⟨inputBound, handle.input.toWord, .document x⟩, installed checkpoints (data, y)]
      guest after → Held meaning checkpoints (data, y) (handle, x) after := by
    intro after left
    refine ⟨bottom_le, base_le, data_le, ?_, bound, inputBound, _, before, left.settled⟩
    rw [left.top_eq]
    exact inside
  refine (contextEval_ends equipped _ rfl handle path entrypoint schema _ _ old x y bound
    inputBound _ settled below inside (List.mem_cons_self ..)
    (List.mem_cons_of_mem _ (List.mem_singleton_self _))).mono ?_ ?_
  · rintro value after ⟨left, judged⟩
    exact ⟨held after left, judged, left.top_eq, data_le, inside, left.since⟩
  · rintro fault after (lost | ⟨left, judged⟩)
    · exact Or.inl ⟨lost, trivial⟩
    · exact Or.inr ⟨held after left, judged, left.top_eq, data_le, inside, left.since⟩

theorem closes : (agreement meaning maxPages).Closes := by
  rintro checkpoints data context guest
    ⟨bottom_le, base_le, data_le, inside, bound, inputBound, old, before, settled⟩
  refine (closeContext_ends equipped _ checkpoints context.1 [installed checkpoints data] settled
    (Nat.le_trans data_le inside) (Nat.le_trans bottom_le base_le) ?_ ?_).mono ?_
    (fun _ _ lost => ⟨lost, trivial⟩)
  · intro entry member
    exact List.mem_cons_of_mem _ (List.mem_cons_of_mem _ member)
  · intro entry member
    rw [List.mem_singleton.mp member]
    exact Nat.le_refl _
  · intro _ after left
    exact ⟨⟨bottom_le, base_le, left.level⟩, left.top_eq, left.since⟩

end

def contract (meaning : HeapMeaning heap semantics)
    (equipped : Discipline.heapRewind.Equips module) (maxPages : Option Nat) :
    Contract σ semantics where
  toAgreement := agreement meaning maxPages
  idle_open _ _ _ idle := idle.level.open_eq
  held_open := by
    rintro _ _ _ _ ⟨_, _, _, _, _, _, _, _, settled⟩
    exact settled.open_eq
  idle_journal _ _ _ journal idle :=
    ⟨idle.bottom_le, idle.base_le, idle.level.journal journal⟩
  installed_journal _ _ _ _ moved := moved
  fell_journal _ _ _ _ _ _ := trivial
  install := installs equipped maxPages
  evaluate := evaluates equipped maxPages
  openContext := opens equipped maxPages
  contextEval := evaluates_within equipped maxPages
  closeContext := closes equipped maxPages

/-- A host that was built with the rewinding discipline begins where its
service begins. -/
theorem matches_built (meaning : HeapMeaning heap semantics) {builder : Builder}
    {journal journal' : Journal} {host : Host σ}
    (built : builder.instantiate module journal = .ok host journal') (version : 2 ≤ host.minor) :
    ∃ equipped, (contract meaning equipped host.maxPages).Matches (.unused δ host.entrypoints)
      host := by
  rcases heap.built built version with ⟨unused, rewinding, equipped, same, _, level⟩
  refine ⟨equipped, rewinding, ?_, rfl, unused.leak_eq, unused.busy_eq, ?_, none,
    unused.dataset_eq, rfl, level.above, ?_, level.module_eq, level.open_eq, level.intact,
    level.above, List.forall_mem_nil _, List.forall_mem_nil _⟩
  · unfold Host.terms
    rw [rewinding]
    rfl
  · rw [unused.contexts_eq]
    rfl
  · rw [same]

/-- What a use may do to the checkpoints and the heap pointer. -/
structure Orderly (heap : Heap module) (use : Host.Use) (before : Host σ)
    (outcome : Except Fault Host.Answer) (after : Host σ) : Prop where
  base_eq : after.checkpoints.base = before.checkpoints.base
  data_eq : (∀ value, use ≠ .setData value) → after.checkpoints.data = before.checkpoints.data
  /-- A dataset ends at the heap pointer when it is installed. -/
  installed : ∀ value answer, use = .setData value → outcome = .ok answer →
    heap.top after.guest.snapshot = after.checkpoints.data.offset
  /-- A single evaluation does not touch the guest at all, or ends behind the
  dataset. -/
  evaluated : (∃ entrypoint input schema, use = .eval entrypoint input schema) ∨
      (∃ binding input, use = .decide binding input) →
    after.guest = before.guest ∨ heap.top after.guest.snapshot = after.checkpoints.data.offset
  contextEvaluated : ∀ id entrypoint schema, use = .contextEval id entrypoint schema →
    heap.top after.guest.snapshot = heap.top before.guest.snapshot
  /-- A context that is ended gives up everything behind the dataset. -/
  released : ∀ id context,
    use = .destroy id ∨ (∃ unwinding, use = .leave id unwinding) ∨ use = .drop id →
    before.contexts[id]? = some context → context.phase ≠ .destroyed →
      heap.top after.guest.snapshot = after.checkpoints.data.offset

section

variable {equipped : Discipline.heapRewind.Equips module} {maxPages : Option Nat}
variable {service : Service δ} {host after : Host σ}

/-- Only the installation of a dataset works in front of the second
checkpoint, or moves it. -/
theorem since_data {use : Host.Use} {outcome : Except Fault Host.Answer}
    (moved : (contract meaning equipped maxPages).Moved host after outcome (service.demand use))
    (keeps : ∀ value, use ≠ .setData value) :
    after.checkpoints = host.checkpoints ∧ after.dataset = host.dataset ∧
      Since heap host.checkpoints.data.offset host.checkpoints.data.offset host.guest
        after.guest := by
  have stays : after.dataset = host.dataset := by
    refine moved.dataset_eq ?_
    intro raw demanded
    cases service.demand_asks use _ demanded with
    | install value => exact keeps value rfl
  rcases moved.cases with ⟨_, _, untouched, same⟩ |
    ⟨work, move, _, asks, makes, moved, _, kept, _⟩
  · rw [untouched]
    exact ⟨same, stays, Since.refl heap _ _ _⟩
  · have same : after.checkpoints = host.checkpoints := by
      apply kept
      rintro rfl
      cases makes
      cases asks with
      | install value => exact keeps value rfl
    refine ⟨same, stays, ?_⟩
    rw [same] at moved
    cases makes with
    | installed | discarded =>
      cases asks with
      | install value => exact absurd rfl (keeps value)
    | evaluated =>
      rcases moved with untouched | ⟨_, since⟩
      · rw [untouched]
        exact Since.refl heap _ _ _
      · exact since
    | opened => exact moved
    | unopened => exact moved
    | contextEvaluated =>
      rcases moved with ⟨_, behind, inside, since⟩
      exact since.mono (Nat.le_trans behind inside) behind
    | released => exact moved.2

/-- A use of a host that stands where its service stands, and that leaves the
guest usable, is orderly. -/
theorem orderly (same : (contract meaning equipped maxPages).Matches service host) (use : Host.Use)
    (usable : (Operation.outcome (Host.perform use) host).2.guest.trapped = false) :
    Orderly heap use host (Operation.outcome (Host.perform use) host).1
      (Operation.outcome (Host.perform use) host).2 := by
  rcases Contract.step same use (fun _ _ => False.elim) usable with ⟨moved, after, step, _⟩
  generalize Operation.outcome (Host.perform use) host = result at moved step
  rcases result with ⟨outcome, after⟩
  dsimp only at moved step ⊢
  refine ⟨?_, fun keeps => by rw [(since_data moved keeps).1], ?_, ?_, ?_, ?_⟩
  · rcases moved.cases with ⟨_, _, _, same⟩ | ⟨_, _, _, _, _, _, base, _⟩
    · rw [same]
    · exact base
  · rintro value answer rfl rfl
    rcases moved.cases with ⟨given, demanded, _⟩ | ⟨work, move, _, asks, makes, moved, _⟩
    · -- A dataset is not installed without work.
      rcases service.demand_setData_answer value given demanded with ⟨fault, rfl⟩
      unfold Service.Step at step
      rw [demanded] at step
      cases step.1
    · cases asks
      cases makes
      exact moved
  · intro evaluates
    rcases moved.cases with ⟨_, _, untouched, _⟩ | ⟨work, move, _, asks, makes, moved, _⟩
    · exact Or.inl untouched
    · rcases evaluates with ⟨entrypoint, input, schema, rfl⟩ | ⟨binding, input, rfl⟩
      · cases asks
        cases makes
        exact moved.imp_right And.left
      · cases asks
        cases makes
        exact moved.imp_right And.left
  · rintro id entrypoint schema rfl
    rcases moved.cases with ⟨_, _, untouched, _⟩ | ⟨work, move, _, asks, makes, moved, _⟩
    · rw [untouched]
    · cases asks
      cases makes
      exact moved.1
  · intro id context ends found going
    rcases same.context_cases id with ⟨_, missing, _⟩ | ⟨_, _, other, destroyed, phase⟩ |
      ⟨opening, is_open, _⟩
    · rw [missing] at found
      cases found
    · rw [destroyed] at found
      cases found
      exact absurd phase going
    · have worked := moved.worked
      have demanded : service.demand use = .work .close := by
        rcases ends with rfl | ⟨unwinding, rfl⟩ | rfl <;>
          simp only [Service.demand, Service.demandEnd, is_open]
      rw [demanded] at worked
      rcases worked with ⟨move, makes, moved, _⟩
      cases makes
      exact moved.1

/-- The base never moves. -/
theorem base_kept (same : (contract meaning equipped maxPages).Matches service host)
    (uses : List Host.Use) (calm : Host.Calm (fun _ => False) uses host) :
    (Host.run uses host).2.checkpoints.base = host.checkpoints.base := by
  induction uses generalizing service host with
  | nil => rfl
  | cons use rest inductionHypothesis =>
    rcases Contract.step same use calm.2.1 calm.2.2.open_eq with ⟨_, middle, _, standing⟩
    exact (inductionHypothesis standing calm.2.2).trans
      (orderly same use calm.2.2.open_eq).base_eq

/-- From one installation of a dataset to the next, everything happens behind
the dataset. -/
theorem data_kept (same : (contract meaning equipped maxPages).Matches service host)
    (uses : List Host.Use) (calm : Host.Calm (fun _ => False) uses host)
    (keeps : ∀ value, Host.Use.setData value ∉ uses) :
    (Host.run uses host).2.checkpoints = host.checkpoints ∧
      (Host.run uses host).2.dataset = host.dataset ∧
      Since heap host.checkpoints.data.offset host.checkpoints.data.offset host.guest
        (Host.run uses host).2.guest := by
  induction uses generalizing service host with
  | nil => exact ⟨rfl, rfl, Since.refl heap _ _ _⟩
  | cons use rest inductionHypothesis =>
    rcases Contract.step same use calm.2.1 calm.2.2.open_eq with ⟨moved, middle, _, standing⟩
    have first := since_data moved fun value equal =>
      keeps value (equal ▸ List.mem_cons_self ..)
    have others := inductionHypothesis standing calm.2.2 fun value member =>
      keeps value (List.mem_cons_of_mem _ member)
    rw [first.1, first.2.1] at others
    exact ⟨others.1, others.2.1, first.2.2.trans others.2.2⟩

/-- A use that leaves the open context open works behind what belongs to it,
and leaves the heap pointer where it was. -/
theorem since_input {use : Host.Use} {outcome : Except Fault Host.Answer} {later : Service δ}
    (same : (contract meaning equipped maxPages).Matches service host)
    (moved : (contract meaning equipped maxPages).Moved host after outcome (service.demand use))
    (step : service.Step discipline semantics use outcome later)
    (is_open : service.current.isSome = true)
    (still : later.ended = service.ended) (handle : Handle) (phase : Phase)
    (found : host.contexts[service.ended]? = some ⟨handle, phase⟩) :
    heap.top after.guest.snapshot = heap.top host.guest.snapshot ∧
      Since heap (heap.top host.guest.snapshot) handle.context.offset host.guest after.guest := by
  rcases moved.cases with ⟨_, _, untouched, _⟩ |
    ⟨work, move, demanded, asks, makes, moved, _, _, known⟩
  · rw [untouched]
    exact ⟨rfl, Since.refl heap _ _ _⟩
  · have closed : ∀ {p : Prop}, service.current = none → p := by
      intro p closed
      rw [closed] at is_open
      cases is_open
    cases makes with
    | contextEvaluated _ _ _ _ _ other =>
      rcases known other rfl with ⟨context, member, rfl, going⟩
      rw [same.handle_of_open handle phase found context member going] at moved
      exact ⟨moved.1, moved.2.2.2⟩
    | released =>
      rcases service.noticed_eq use with ⟨current, _, noticed⟩
      unfold Service.Step at step
      rw [demanded, noticed] at step
      cases step
      exact absurd still (Nat.succ_ne_self _)
    | installed | discarded =>
      cases asks with
      | install _ _ none _ => exact closed none
    | evaluated =>
      cases asks with
      | evaluate _ _ _ _ _ _ none _ _ _ => exact closed none
      | decide _ _ _ _ _ _ _ none _ _ _ => exact closed none
    | opened | unopened =>
      cases asks with
      | openContext _ _ none _ => exact closed none

/-- As long as a context is open, everything happens behind what belongs to
it. -/
theorem input_kept (same : (contract meaning equipped maxPages).Matches service host)
    (is_open : service.current.isSome = true) (handle : Handle) (phase : Phase)
    (found : host.contexts[service.ended]? = some ⟨handle, phase⟩) (uses : List Host.Use)
    (calm : Host.Calm (fun _ => False) uses host) (context : Context)
    (still : (Host.run uses host).2.contexts[service.ended]? = some context)
    (going : context.phase ≠ .destroyed) :
    context.handle = handle ∧
      heap.top (Host.run uses host).2.guest.snapshot = heap.top host.guest.snapshot ∧
      Since heap (heap.top host.guest.snapshot) handle.context.offset host.guest
        (Host.run uses host).2.guest := by
  induction uses generalizing service host phase with
  | nil =>
    rw [show (Host.run [] host).2 = host from rfl, found] at still
    cases still
    exact ⟨rfl, rfl, Since.refl heap _ _ _⟩
  | cons use rest inductionHypothesis =>
    rcases Contract.step same use (fun _ _ => False.elim) calm.2.2.open_eq with
      ⟨moved, middle, step, standing⟩
    rcases step.ended_or_open is_open with ended | ⟨ended, middle_open⟩
    · -- The context was ended, and stays ended.
      rcases Contract.runs standing rest calm.2.2 with ⟨final, runs, matched⟩
      have later := runs.ended_le
      change (Host.run rest _).2.contexts[service.ended]? = some context at still
      rcases matched.context_cases service.ended with ⟨_, missing, _⟩ |
        ⟨_, _, other, destroyed, phase⟩ | ⟨_, _, equal, _⟩
      · rw [missing] at still
        cases still
      · rw [destroyed] at still
        cases still
        exact absurd phase going
      · rw [ended, ← equal] at later
        exact absurd later (Nat.not_succ_le_self _)
    · rcases Option.isSome_iff_exists.mp middle_open with ⟨opening, current⟩
      rcases standing.last_context opening current with ⟨_, handle', _, _, _, found', _⟩
      have now := found'
      rw [ended] at now
      have kept : handle' = handle := moved.handle_eq service.ended _ _ found now
      rw [kept] at found'
      have first := since_input same moved step is_open ended handle phase found
      have others := inductionHypothesis standing middle_open _ found' calm.2.2 (by
        rw [ended]
        exact still)
      rw [first.1] at others
      exact ⟨others.1, others.2.1, first.2.trans others.2.2⟩

theorem stored_data (same : (contract meaning equipped maxPages).Matches service host)
    (present : host.hasData = true) :
    ∃ address, host.dataset = some address ∧ ∃ bound ≤ host.checkpoints.data.offset,
      heap.stores host.guest.snapshot bound address.toWord .document := by
  cases current : service.current with
  | none =>
    rcases same.idle current with ⟨_, _, data, dataset, _, idle⟩
    cases data with
    | none =>
      unfold Host.hasData at present
      rw [dataset] at present
      cases present
    | some data =>
      exact ⟨data.1, dataset, _, Nat.le_refl _,
        meaning.shaped _ _ _ _ (idle.level.holds _ (List.mem_singleton_self _))⟩
  | some opening =>
    rcases same.last_context opening current with ⟨_, _, address, _, _, _, _, dataset, _, held⟩
    rcases held.settled with ⟨_, _, _, _, settled⟩
    exact ⟨address, dataset, _, Nat.le_refl _, meaning.shaped _ _ _ _
      (settled.holds (installed host.checkpoints (address, opening.data)) (by simp))⟩

/-- What belongs to an open context lies behind the dataset, and in front of
the heap pointer. -/
theorem stored_input (same : (contract meaning equipped maxPages).Matches service host)
    (is_open : service.current.isSome = true) (handle : Handle) (phase : Phase)
    (found : host.contexts[service.ended]? = some ⟨handle, phase⟩) :
    host.checkpoints.data.offset ≤ handle.context.offset ∧
      handle.context.offset ≤ heap.top host.guest.snapshot ∧
      (∃ bound ≤ handle.context.offset,
        heap.stores host.guest.snapshot bound handle.input.toWord .document) ∧
      ∃ bound ≤ heap.top host.guest.snapshot,
        heap.stores host.guest.snapshot bound handle.context.toWord .record := by
  rcases Option.isSome_iff_exists.mp is_open with ⟨opening, current⟩
  rcases same.last_context opening current with ⟨_, last, _, _, _, found', _, _, _, held⟩
  rw [found] at found'
  cases found'
  rcases held.settled with ⟨bound, inputBound, entrypoint, before, settled⟩
  refine ⟨held.data_le, held.inside, ⟨inputBound, before, ?_⟩, bound, ?_, ?_⟩
  · exact meaning.shaped _ _ _ _
      (settled.holds _ (List.mem_cons_of_mem _ (List.mem_cons_self ..)))
  · exact settled.bounded _ (List.mem_cons_self ..)
  · exact meaning.shaped _ _ _ _ (settled.holds _ (List.mem_cons_self ..))

end

/-- From its installation on, a dataset is where it was, in front of the
second checkpoint, and nothing happened there. -/
structure DataKept (heap : Heap module) (installed now : Host σ) : Prop where
  checkpoints_eq : now.checkpoints = installed.checkpoints
  dataset : ∃ address, installed.dataset = some address ∧ now.dataset = some address ∧
    ∃ bound ≤ installed.checkpoints.data.offset,
      heap.stores now.guest.snapshot bound address.toWord .document
  since : Since heap installed.checkpoints.data.offset installed.checkpoints.data.offset
    installed.guest now.guest

/-- From its opening on, a context has its input and its record between the
dataset and what the guest allocates, where nothing was written but the record. -/
structure InputKept (heap : Heap module) (handle : Handle) (opened now : Host σ) : Prop where
  behind : opened.checkpoints.data.offset ≤ handle.context.offset
  inside : handle.context.offset ≤ heap.top opened.guest.snapshot
  input : ∃ bound ≤ handle.context.offset,
    heap.stores now.guest.snapshot bound handle.input.toWord .document
  record : ∃ bound ≤ heap.top opened.guest.snapshot,
    heap.stores now.guest.snapshot bound handle.context.toWord .record
  since : Since heap (heap.top opened.guest.snapshot) handle.context.offset opened.guest now.guest

section

variable {equipped : Discipline.heapRewind.Equips module} {maxPages : Option Nat}
variable {service : Service δ} {host : Host σ}

/-- A dataset that was installed is kept until the next one. -/
theorem dataKept (same : (contract meaning equipped maxPages).Matches service host)
    (value : Value) (answer : Host.Answer) (uses : List Host.Use)
    (calm : Host.Calm (fun _ => False) (.setData value :: uses) host)
    (succeeded : (Operation.outcome (Host.perform (.setData value)) host).1 = .ok answer)
    (keeps : ∀ other, Host.Use.setData other ∉ uses) :
    DataKept heap (Operation.outcome (Host.perform (.setData value)) host).2
      (Host.run (.setData value :: uses) host).2 := by
  rcases Contract.step same (.setData value) (fun _ _ => False.elim) calm.2.2.open_eq with
    ⟨_, middle, step, standing⟩
  have present : (Operation.outcome (Host.perform (.setData value)) host).2.hasData = true := by
    rw [standing.hasData_eq]
    exact step.installed_some answer succeeded
  have kept := data_kept standing uses calm.2.2 keeps
  rcases Contract.runs standing uses calm.2.2 with ⟨final, _, matched⟩
  rcases Option.isSome_iff_exists.mp present with ⟨address, dataset⟩
  refine ⟨kept.1, ⟨address, dataset, kept.2.1.trans dataset, ?_⟩, kept.2.2⟩
  have stored := stored_data matched (by
    unfold Host.hasData
    rw [kept.2.1]
    exact present)
  rcases stored with ⟨other, same, bound, below, stored⟩
  rw [kept.2.1, dataset] at same
  cases same
  rw [kept.1] at below
  exact ⟨bound, below, stored⟩

/-- What belongs to a context is kept until it is ended. -/
theorem inputKept (same : (contract meaning equipped maxPages).Matches service host)
    (input : Value) (id : ContextId) (uses : List Host.Use)
    (calm : Host.Calm (fun _ => False) (.openContext input :: uses) host)
    (succeeded : (Operation.outcome (Host.perform (.openContext input)) host).1 = .ok (.context id))
    (context : Context)
    (still : (Host.run (.openContext input :: uses) host).2.contexts[id]? = some context)
    (going : context.phase ≠ .destroyed) :
    InputKept heap context.handle (Operation.outcome (Host.perform (.openContext input)) host).2
      (Host.run (.openContext input :: uses) host).2 := by
  rcases Contract.step same (.openContext input) (fun _ _ => False.elim) calm.2.2.open_eq with
    ⟨_, middle, step, standing⟩
  rcases step.opened id succeeded with ⟨rfl, raw, x, data, _, _, _, rfl⟩
  rcases standing.last_context ⟨false, x, data⟩ rfl with ⟨_, handle, _, _, _, found, _⟩
  have kept := input_kept standing rfl handle _ found uses calm.2.2 context still going
  rcases Contract.runs standing uses calm.2.2 with ⟨final, runs, matched⟩
  have before := stored_input standing rfl handle _ found
  rw [kept.1]
  rcases matched.context_cases service.ended with ⟨_, missing, _⟩ |
    ⟨_, _, other, destroyed, phase⟩ | ⟨last, _, equal, current⟩
  · rw [show (Host.run uses _).2.contexts[service.ended]? = some context from still] at missing
    cases missing
  · rw [show (Host.run uses _).2.contexts[service.ended]? = some context from still] at destroyed
    cases destroyed
    exact absurd phase going
  · have now : (Host.run uses _).2.contexts[service.ended]? = some context := still
    rw [equal] at now
    have after := stored_input matched (by rw [current]; rfl) context.handle context.phase now
    rw [kept.1, kept.2.1] at after
    exact ⟨before.1, before.2.1, after.2.2.1, after.2.2.2, kept.2.2⟩

end

end HeapRewind

/-- Under the rewinding discipline every use is orderly, the base never moves,
a dataset is kept until the next one is installed, and what belongs to a
context is kept until it is ended. -/
theorem Host.heap_orderly (heap : Heap module) {builder : Builder} {journal journal' : Journal}
    {host : Host σ} (built : builder.instantiate module journal = .ok host journal')
    (version : 2 ≤ host.minor) (uses : List Host.Use)
    (calm : Host.Calm (fun _ => False) uses host) :
    (Host.run uses host).2.checkpoints.base = host.checkpoints.base ∧
      (∀ earlier use later, uses = earlier ++ use :: later →
        HeapRewind.Orderly heap use (Host.run earlier host).2
          (Operation.outcome (Host.perform use) (Host.run earlier host).2).1
          (Operation.outcome (Host.perform use) (Host.run earlier host).2).2) ∧
      (∀ earlier value later answer, uses = earlier ++ .setData value :: later →
        (Operation.outcome (Host.perform (.setData value)) (Host.run earlier host).2).1 =
          .ok answer →
        (∀ other, Host.Use.setData other ∉ later) →
          HeapRewind.DataKept heap
            (Operation.outcome (Host.perform (.setData value)) (Host.run earlier host).2).2
            (Host.run uses host).2) ∧
      ∀ earlier input later id context, uses = earlier ++ .openContext input :: later →
        (Operation.outcome (Host.perform (.openContext input)) (Host.run earlier host).2).1 =
          .ok (.context id) →
        (Host.run uses host).2.contexts[id]? = some context → context.phase ≠ .destroyed →
          HeapRewind.InputKept heap context.handle
            (Operation.outcome (Host.perform (.openContext input)) (Host.run earlier host).2).2
            (Host.run uses host).2 := by
  rcases HeapRewind.matches_built heap.silent built version with ⟨equipped, same⟩
  have cut : ∀ earlier later, uses = earlier ++ later →
      (∃ service, (HeapRewind.contract heap.silent equipped host.maxPages).Matches service
        (Host.run earlier host).2) ∧
        Host.Calm (fun _ => False) later (Host.run earlier host).2 ∧
        (Host.run later (Host.run earlier host).2).2 = (Host.run uses host).2 := by
    rintro earlier later rfl
    rw [Host.Calm.append] at calm
    rcases Contract.runs same earlier calm.1 with ⟨service, _, standing⟩
    refine ⟨⟨service, standing⟩, calm.2, ?_⟩
    rw [Host.run_append]
  refine ⟨HeapRewind.base_kept same uses calm, ?_, ?_, ?_⟩
  · intro earlier use later parts
    rcases cut earlier (use :: later) parts with ⟨⟨service, standing⟩, calm, _⟩
    exact HeapRewind.orderly standing use calm.2.2.open_eq
  · intro earlier value later answer parts succeeded keeps
    rcases cut earlier (.setData value :: later) parts with ⟨⟨service, standing⟩, calm, same⟩
    rw [← same]
    exact HeapRewind.dataKept standing value answer later calm succeeded keeps
  · intro earlier input later id context parts succeeded still going
    rcases cut earlier (.openContext input :: later) parts with ⟨⟨service, standing⟩, calm, same⟩
    rw [← same] at still ⊢
    exact HeapRewind.inputKept standing input id later calm succeeded context still going

/-- The heap of an echo. -/
theorem Host.heap_orderly_echo :
    Builder.Builds {} (Shelf.echo 2) fun host =>
      2 ≤ host.minor ∧ Host.Calm (fun _ => False) Shelf.echoUses host ∧
        (Host.run Shelf.echoUses host).2.checkpoints.base = host.checkpoints.base ∧
        ∀ earlier use later, Shelf.echoUses = earlier ++ use :: later →
          HeapRewind.Orderly (Shelf.heap .echo Shelf.echoTable 2) use (Host.run earlier host).2
            (Operation.outcome (Host.perform use) (Host.run earlier host).2).1
            (Operation.outcome (Host.perform use) (Host.run earlier host).2).2 := by
  have begun : Builder.Builds {} (Shelf.echo 2) fun host =>
      2 ≤ host.minor ∧ Host.Calm (fun _ => False) Shelf.echoUses host := by
    decide +kernel
  rcases begun with ⟨host, journal, built, version, calm⟩
  have orderly :=
    heap_orderly (Shelf.heap .echo Shelf.echoTable 2) built version Shelf.echoUses calm
  exact ⟨host, journal, built, version, calm, orderly.1, orderly.2.1⟩

end PolicyHost
