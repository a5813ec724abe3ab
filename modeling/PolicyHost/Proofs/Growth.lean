import PolicyHost.Proofs.Twins

namespace PolicyHost

/-!
# How far memory grows

A guest that evaluates an input allocates from where it is told to begin, and has
its memory grow when that does not suffice.  If what it allocates depends on what
is evaluated and on where it begins, and on nothing else, then every evaluation
takes a stretch of memory of its own.  It was made to fit when the evaluation was
done first, and it fits ever after, because memory is not given back.

So an evaluation that is done again, in front of the same dataset, finds all the
room that it needs.  Nothing can go wrong with it that did not go wrong before.
-/

variable {σ δ : Type} {module : Module σ} {handlers : Handlers} {short : Access σ → Prop}

/-- Code of the module does not take pages away. -/
def Module.Widens (module : Module σ) : Prop :=
  ∀ name arguments before answer after, module.Answers name arguments before answer after →
    before.memory.pages ≤ after.memory.pages

namespace Instance

open Operation

/-- A guest at a later time, whose memory did not shrink if it is not lost. -/
structure Widened (before after : Instance σ) : Prop extends Later before after where
  pages_le : before.module.Widens → after.trapped = false →
    before.memory.pages ≤ after.memory.pages

instance : IsPreorder (Instance σ) Widened where
  refl guest := ⟨refl guest, fun _ _ => Nat.le_refl _⟩
  trans first middle last early late := by
    refine ⟨IsTrans.trans _ _ _ early.toLater late.toLater, fun widens usable => ?_⟩
    have between : middle.trapped = false := by
      cases lost : middle.trapped with
      | false => rfl
      | true => exact nomatch usable.symm.trans (late.closed lost)
    have widens' : middle.module.Widens := by rwa [early.module_eq]
    exact Nat.le_trans (early.pages_le widens between) (late.pages_le widens' usable)

/-- Whatever the host does, memory does not shrink. -/
theorem tracks_widened : Tracks (fun _ _ => True) (Widened (σ := σ)) where
  call name arguments listed allowed guest := by
    refine ((tracks_later.call name arguments listed allowed guest).and
      (call_cases guest name arguments)).mono ?_ ?_
    · rintro answer after ⟨later, _, _, _, answered⟩
      exact ⟨later, fun widens _ => widens _ _ _ _ _ answered⟩
    · rintro fault after ⟨later, ⟨rfl, _⟩ | ⟨_, _, journal, rfl, _⟩ | ⟨_, lost, _⟩⟩
      · exact refl after
      · exact ⟨later, fun _ usable => nomatch usable⟩
      · exact ⟨later, fun _ usable => nomatch usable.symm.trans lost⟩
  grown guest memory leads := ⟨tracks_later.grown guest memory leads, fun _ _ => leads.pages_le⟩
  written guest memory address bytes leads :=
    ⟨tracks_later.written guest memory address bytes leads, fun _ _ => leads.pages_le⟩
  logged guest journal := ⟨tracks_later.logged guest journal, fun _ _ => Nat.le_refl _⟩

/-- A function that is known to come back is called without fail. -/
theorem call_returns {guest : Instance σ} {name : String} {arguments : List Int}
    (fits : guest.module.Fits) (listed : (name, arguments.length) ∈ abi)
    (exported : guest.module.hasFunction name = true) (usable : guest.trapped = false)
    (returns : ∃ answer,
      guest.callEnding name (arguments.map UInt32.ofInt) = .returned answer) :
    Ends (call name arguments) guest (fun _ after => after.trapped = false)
      (fun _ _ => False) := by
  refine (call_cases guest name arguments).mono (fun _ _ done => done.2.1) ?_
  rcases returns with ⟨answer, returned⟩
  rintro fault after (⟨_, reason⟩ | ⟨_, ⟨arity, found, count⟩, _⟩ | ⟨_, _, ended⟩)
  · exact nomatch usable.symm.trans (reason exported).1
  · have same := fits _ listed exported
    rw [found] at same
    cases same
    exact count rfl
  · rcases ended with ⟨ended, _⟩ | ended <;> cases returned.symm.trans ended

/-- So is one that is called for an address, unless it answers with none.  The
guest is not lost then. -/
theorem callAddress_returns {guest : Instance σ} {name : String} {arguments : List Int}
    (fits : guest.module.Fits) (listed : (name, arguments.length) ∈ abi)
    (exported : guest.module.hasFunction name = true) (usable : guest.trapped = false)
    (returns : ∃ answer,
      guest.callEnding name (arguments.map UInt32.ofInt) = .returned answer) :
    Ends (callAddress name arguments) guest (fun _ _ => True)
      (fun _ after => after.trapped = false) := by
  rw [callAddress, ends_bind, callWord, ends_bind]
  refine (call_returns fits listed exported usable returns).mono ?_ (fun _ _ => False.elim)
  intro answer after stayed
  cases answer with
  | some word => trivial
  | none => exact stayed

end Instance

theorem Region.write_level (terms : Region.Terms) (address : Address) (bytes : Bytes)
    (guest : Instance σ) (nonempty : bytes ≠ [])
    (inside : address.offset + bytes.length ≤ guest.memory.size) :
    Operation.Ends (Region.write terms address bytes) guest
      (fun _ after => after.memory.pages = guest.memory.pages) (fun _ _ => False) := by
  have length : 0 < bytes.length := List.length_pos_iff.mpr nonempty
  refine (Region.write_inside terms address bytes guest inside).mono ?_ ?_
  · rintro _ after ⟨_, rfl⟩
    rfl
  · rintro _ _ ⟨behind, _⟩
    omega

/-!
### Guests whose evaluations take as much as before
-/

section Laws

variable {heap : Heap module} {semantics : Semantics δ}

/-- A guest may be asked to evaluate a text in front of a dataset. -/
structure HeapMeaning.Asked (meaning : HeapMeaning heap semantics)
    (entrypoint data input length start : UInt32) (y : δ) (found : Snapshot σ) : Prop where
  allowed : heap.Allows (.evaluate entrypoint data input length start) found
  dataset : ∃ bound ≤ input.toNat, meaning.holds found bound data (.document y)

/-- What an evaluation allocates depends on the entrypoint, the text, the dataset and
where the heap begins, so that it ends at an extent that these decide.  Memory grows
when that is not inside, and only then. -/
structure HeapMeaning.Steady (meaning : HeapMeaning heap semantics) (short : Access σ → Prop)
    (extent : UInt32 → Bytes → δ → UInt32 → Nat) : Prop where
  widens : module.Widens
  reaches : ∀ entrypoint data input length start y before answer after,
    meaning.Asked entrypoint data input length start y before →
    (Request.evaluate entrypoint data input length start).Answered module before answer after →
      extent entrypoint (before.memory.bytes input.toNat length.toNat) y start ≤
        after.memory.size
  stays : ∀ entrypoint data input length start y before answer after,
    meaning.Asked entrypoint data input length start y before →
    (Request.evaluate entrypoint data input length start).Answered module before answer after →
    extent entrypoint (before.memory.bytes input.toNat length.toNat) y start ≤
        before.memory.size →
      after.memory.pages = before.memory.pages
  /-- Memory suffices for what is inside. -/
  suits : ∀ entrypoint data input length start y found,
    meaning.Asked entrypoint data input length start y found →
    extent entrypoint (found.memory.bytes input.toNat length.toNat) y start ≤
        found.memory.size →
      ¬ short (.call "opa_eval" [0, entrypoint, data, input, length, start, 0] found)
  /-- Moving the heap pointer takes no memory. -/
  moves : ∀ address before answer after, heap.Allows (.setHeapPointer address) before →
    (Request.setHeapPointer address).Answered module before answer after →
      after.memory.pages = before.memory.pages
  movable : ∀ address found, heap.Allows (.setHeapPointer address) found →
    ¬ short (.call "opa_heap_ptr_set" [address] found)

end Laws

/-- A policy that came to a value did not give up. -/
theorem Conduct.judged_returns {conduct : Conduct δ} {path : String} {entrypoint : UInt32}
    {schema : Schema} {raw : Bytes} {y : δ} {value : Value}
    (judged : conduct.semantics.JudgesText path entrypoint schema raw y .heapRewind (.ok value)) :
    (∃ x set, conduct.parse raw = some x ∧ conduct.judge entrypoint x y = .returned set) ∨
      (conduct.parse raw = none ∧ ∃ text, conduct.garble entrypoint raw y = .returned text) := by
  cases judged with
  | parsed _ x _ accepted judged =>
    rcases judged with ⟨set, _, _, answered, _, _⟩
    exact Or.inl ⟨x, set, Eq.symm accepted, answered⟩
  | garbled text _ unparsed answered _ =>
    refine Or.inr ⟨?_, text, answered⟩
    cases parsed : conduct.parse raw with
    | none => rfl
    | some x => exact absurd ⟨x, parsed.symm⟩ unparsed

theorem Instance.Ending.Like.returns {α β : Type} {a : α} {ending : Ending β}
    (like : (Ending.returned a).Like ending) : ∃ b, ending = .returned b := by
  cases like with
  | returned _ b => exact ⟨b, rfl⟩

namespace HeapRewind

open Instance Operation

variable {conduct : Conduct δ} {heap : Heap module}
variable {meaning : HeapMeaning heap conduct.semantics}
variable {entries : List (Entry δ)} {guest : Instance σ}
variable {extent : UInt32 → Bytes → δ → UInt32 → Nat}

/-- There is room for a text behind an address, and for what its evaluation takes. -/
def Room (extent : UInt32 → Bytes → δ → UInt32 → Nat) (behind : Address) (entrypoint : UInt32)
    (raw : Bytes) (y : δ) (size : Nat) : Prop :=
  ∃ start, behind.advance raw.length = .ok start ∧ behind.offset + raw.length ≤ size ∧
    extent entrypoint raw y start.toWord ≤ size

theorem Room.mono {behind : Address} {entrypoint : UInt32} {raw : Bytes} {y : δ}
    {size size' : Nat} (room : Room extent behind entrypoint raw y size) (more : size ≤ size') :
    Room extent behind entrypoint raw y size' := by
  rcases room with ⟨start, advanced, written, taken⟩
  exact ⟨start, advanced, Nat.le_trans written more, Nat.le_trans taken more⟩

section

variable {entrypoint : Int} {data behind start : Address} {raw : Bytes} {y : δ} {dataBound : Nat}

/-- A text behind the dataset may be evaluated. -/
theorem evaluation_asked (starts : start.offset = behind.offset + raw.length)
    (level : Level meaning behind.offset entries guest)
    (entered : ⟨dataBound, data.toWord, Object.document y⟩ ∈ entries) :
    meaning.Asked (UInt32.ofInt entrypoint) data.toWord behind.toWord (UInt32.ofInt raw.length)
      start.toWord y guest.snapshot where
  allowed := evaluation_allowed starts entrypoint level entered
  dataset := by
    refine ⟨dataBound, ?_, level.holds _ entered⟩
    rw [Address.toWord_toNat]
    exact level.bounded _ entered

theorem evaluateText_answered (equipped : Discipline.heapRewind.Equips module)
    (starts : start.offset = behind.offset + raw.length)
    (level : Level meaning behind.offset entries guest)
    (entered : ⟨dataBound, data.toWord, Object.document y⟩ ∈ entries) :
    Ends (callAddress "opa_eval" (Discipline.evalArguments entrypoint data behind raw.length start))
      guest
      (fun result after => after.module = module ∧
        (evaluation entrypoint data behind start raw).Answered module guest.snapshot
          (some result.toWord) after.snapshot)
      (fun _ after => after.trapped = true) := by
  have allowed := evaluation_allowed starts entrypoint level entered
  refine (level.callAddress_ends equipped (evaluation entrypoint data behind start raw) _
    evaluation_words allowed rfl).mono ?_ (fun _ _ lost => lost)
  exact fun result after done => ⟨done.1.module_eq.trans level.module_eq, level.answered done.1⟩

/-- An evaluation leaves memory that reaches as far as it does, and as far as before. -/
theorem evaluateText_reaches (equipped : Discipline.heapRewind.Equips module)
    (steady : meaning.Steady short extent)
    (starts : start.offset = behind.offset + raw.length)
    (level : Level meaning behind.offset entries guest)
    (entered : ⟨dataBound, data.toWord, Object.document y⟩ ∈ entries)
    (stored : guest.memory.bytes behind.offset raw.length = raw) :
    Ends (callAddress "opa_eval" (Discipline.evalArguments entrypoint data behind raw.length start))
      guest
      (fun _ after => after.module = module ∧ guest.memory.pages ≤ after.memory.pages ∧
        extent (UInt32.ofInt entrypoint) raw y start.toWord ≤ after.memory.size)
      (fun _ after => after.trapped = true) := by
  refine (evaluateText_answered equipped starts level entered).mono ?_ (fun _ _ lost => lost)
  rintro result after ⟨module_eq, answered⟩
  have reached := steady.reaches _ _ _ _ _ _ _ _ _ (evaluation_asked starts level entered) answered
  rw [evaluation_read starts stored] at reached
  exact ⟨module_eq, steady.widens _ _ _ _ _ answered, reached⟩

/-- An evaluation that came to a value comes back when it is done again, and takes no
more memory if there is room for it. -/
theorem evaluateText_stays (equipped : Discipline.heapRewind.Equips module)
    (follows : meaning.Follows handlers short) (steady : meaning.Steady short extent)
    (starts : start.offset = behind.offset + raw.length)
    (level : Level meaning behind.offset entries guest) (handlers_eq : guest.handlers = handlers)
    (entered : ⟨dataBound, data.toWord, Object.document y⟩ ∈ entries)
    (stored : guest.memory.bytes behind.offset raw.length = raw) {path : String} {schema : Schema}
    {value : Value} (judged : conduct.semantics.JudgesText path (UInt32.ofInt entrypoint) schema raw
      y .heapRewind (.ok value))
    (inside : extent (UInt32.ofInt entrypoint) raw y start.toWord ≤ guest.memory.size) :
    Ends (callAddress "opa_eval" (Discipline.evalArguments entrypoint data behind raw.length start))
      guest (fun _ after => after.memory.pages = guest.memory.pages) (fun _ _ => False) := by
  have asked : meaning.Asked (UInt32.ofInt entrypoint) _ _ _ _ y guest.snapshot :=
    evaluation_asked starts level entered
  have read := evaluation_read starts stored
  have fits : guest.module.Fits := by
    rw [level.module_eq]
    exact follows.fits
  have exported : guest.module.hasFunction "opa_eval" = true := by
    rw [level.module_eq]
    exact Request.exported_heap equipped (evaluation entrypoint data behind start raw) rfl
  have taken : extent (UInt32.ofInt entrypoint)
      (guest.snapshot.memory.bytes behind.toWord.toNat (UInt32.ofInt (raw.length : Int)).toNat) y
      start.toWord ≤ guest.snapshot.memory.size := by
    rw [read]
    exact inside
  have ample := steady.suits _ _ _ _ _ _ _ asked taken
  have returns : ∃ answer, guest.callEnding "opa_eval"
      ((Discipline.evalArguments entrypoint data behind raw.length start).map UInt32.ofInt) =
        .returned answer := by
    unfold callEnding
    rw [evaluation_words, level.module_eq, handlers_eq]
    rcases asked.dataset with ⟨bound, below, held⟩
    rcases conduct.judged_returns judged with ⟨x, _, parsed, returned⟩ | ⟨unparsed, _, returned⟩
    · have like := follows.evaluates _ _ _ _ _ x y bound _ asked.allowed below held
        (by rw [read]; exact parsed) ample
      rw [returned] at like
      exact like.returns
    · have like := follows.garbles _ _ _ _ _ y bound _ asked.allowed below held
        (by rw [read]; exact unparsed) ample
      rw [read, returned] at like
      exact like.returns
  refine ((evaluateText_answered equipped starts level entered).and (callAddress_returns fits
    (by simp [abi, Discipline.evalArguments]) exported level.open_eq returns)).mono ?_ ?_
  · intro result after ends
    exact steady.stays _ _ _ _ _ _ _ _ _ asked ends.1.2 taken
  · intro fault after ends
    exact nomatch ends.2.symm.trans ends.1

end

/-- The heap pointer is moved back without fail and without memory. -/
theorem rewind_stays (equipped : Discipline.heapRewind.Equips module)
    (follows : meaning.Follows handlers short) (steady : meaning.Steady short extent)
    (address : Address) (level : Level meaning address.offset entries guest)
    (handlers_eq : guest.handlers = handlers) :
    Ends (Region.rewind address) guest
      (fun _ after => after.memory.pages = guest.memory.pages) (fun _ _ => False) := by
  have allowed : heap.Allows (.setHeapPointer address.toWord) guest.snapshot := by
    refine level.allows _ rfl (Address.toWord_toNat address) (fun _ member => nomatch member) ?_
      (fun _ _ _ _ _ same => nomatch same)
    intro other same
    cases same
    rw [Address.toWord_toNat]
    exact level.above
  have fits : guest.module.Fits := by
    rw [level.module_eq]
    exact follows.fits
  have exported : guest.module.hasFunction "opa_heap_ptr_set" = true := by
    rw [level.module_eq]
    exact Request.exported_heap equipped (.setHeapPointer address.toWord) rfl
  have words : [(address.offset : Int)].map UInt32.ofInt = [address.toWord] := by simp
  have returns : ∃ answer, guest.callEnding "opa_heap_ptr_set"
      ([(address.offset : Int)].map UInt32.ofInt) = .returned answer := by
    have other : "opa_heap_ptr_set" ∉ evaluators := by decide
    have returned := follows.returns (.call "opa_heap_ptr_set" [address.toWord] guest.snapshot)
      other (steady.movable _ _ allowed)
    unfold callEnding
    rw [words, level.module_eq, handlers_eq]
    exact returned
  have moved : Ends (Region.setHeapPointer address) guest
      (fun _ after => after.memory.pages = guest.memory.pages) (fun _ _ => False) := by
    have calls := (call_called guest "opa_heap_ptr_set" [(address.offset : Int)]).and
      (call_returns fits (by simp [abi]) exported level.open_eq returns)
    rw [Region.setHeapPointer, callVoid, ends_bind]
    refine calls.mono ?_ (fun _ _ ended => ended.2)
    rintro answer after ⟨called, _⟩
    have answered := called.answered
    rw [words, level.module_eq] at answered
    exact steady.moves _ _ _ _ allowed answered
  exact Region.rewind_ends address guest level.open_eq _ _ moved

/-- What reading a result set comes to, and where. -/
def Told {S : Type} (good : Value → S → Prop) (bad : Fault → S → Prop) (after : S) :
    Except Fault Value → Prop
  | .ok value => good value after
  | .error fault => bad fault after

variable {terms : Region.Terms} {checkpoints : Checkpoints} {path : String} {entrypoint : Int}
variable {data start : Address} {input : Value} {raw : Bytes} {schema : Schema} {y : δ}
variable {dataBound : Nat}

/-- A single evaluation, step by step.  Whatever its steps come to, it ends with the heap
pointer moved back. -/
theorem evaluate_steps (encoded : Payload.encode input = .ok raw)
    (advanced : checkpoints.data.advance raw.length = .ok start)
    (good : Value → Instance σ → Prop) (bad : Fault → Instance σ → Prop) :
    let back := fun fault middle =>
      Ends (Region.rewind checkpoints.data) middle (fun _ after => bad fault after) bad
    Ends (Region.write terms checkpoints.data raw) guest
      (fun _ written =>
        Ends (callAddress "opa_eval"
          (Discipline.evalArguments entrypoint data checkpoints.data raw.length start)) written
          (fun result evaluated => Ends (Region.rewind checkpoints.data) evaluated
            (fun _ after => Told good bad after
              (textOutcome path schema result (evaluated.memory.untilZero result.offset))) bad)
          back) back →
      Ends (Discipline.heapRewind.evaluate terms checkpoints path entrypoint data input schema)
        guest good bad := by
  intro back steps
  unfold Discipline.evaluate
  rw [ends_bind, ends_liftReport, encoded]
  dsimp only
  rw [ends_bind, ends_lift, advanced]
  dsimp only
  rw [ends_bind, ends_ensuring, ends_bind]
  refine steps.mono ?_ (fun _ _ moved => moved)
  intro _ written ends
  rw [ends_bind]
  refine ends.mono ?_ (fun _ _ moved => moved)
  intro result evaluated ends
  rw [ends_bind, Region.readUntilZero_ends, ends_pure]
  refine ends.mono ?_ (fun _ _ failed => failed)
  intro _ after told
  cases found : evaluated.memory.untilZero result.offset with
  | none =>
    rw [found] at told
    exact told
  | some text =>
    rw [found] at told
    dsimp only
    rw [Semantics.ends_lastResult]
    cases valued : Semantics.valueIn path schema text with
    | ok value => rwa [textOutcome, valued] at told
    | error fault => rwa [textOutcome, valued] at told

/-- An evaluation that comes to a value leaves room for the next one like it. -/
theorem evaluate_room (equipped : Discipline.heapRewind.Equips module)
    (steady : meaning.Steady short extent) (encoded : Payload.encode input = .ok raw)
    (level : Level meaning checkpoints.data.offset entries guest)
    (entered : ⟨dataBound, data.toWord, Object.document y⟩ ∈ entries) :
    Ends (Discipline.heapRewind.evaluate terms checkpoints path entrypoint data input schema) guest
      (fun _ after => after.trapped = false →
        Room extent checkpoints.data (UInt32.ofInt entrypoint) raw y after.memory.size)
      (fun _ _ => True) := by
  rcases Address.advance_cases checkpoints.data raw.length with
    ⟨start, advanced, starts⟩ | ⟨offset, outside⟩
  case inr =>
    unfold Discipline.evaluate
    rw [ends_bind, ends_liftReport, encoded]
    dsimp only
    rw [ends_bind, ends_lift, outside]
    trivial
  have anyway : ∀ middle, Ends (Region.rewind (σ := σ) checkpoints.data) middle
      (fun _ _ => True) (fun _ _ => True) := fun middle => ends_nothing _ middle
  have nonempty := Payload.encode_ne_nil input raw encoded
  refine evaluate_steps encoded advanced _ _ (((write_ends terms checkpoints.data raw nonempty
    level).and (Region.write_ends terms checkpoints.data raw guest nonempty)).mono ?_
    (fun _ middle _ => anyway middle))
  rintro _ written ⟨⟨levelWritten, _, stored⟩, wrote⟩
  have room : checkpoints.data.offset + raw.length ≤ written.memory.size := by
    rcases wrote with ⟨pages, _, _, enough, rfl⟩
    exact enough
  refine (evaluateText_reaches equipped steady starts levelWritten entered stored).mono ?_
    (fun _ middle _ => anyway middle)
  rintro result evaluated ⟨module_eq, more, reached⟩
  refine (tracks_widened.rewind checkpoints.data evaluated).mono ?_ (fun _ _ _ => trivial)
  intro _ after widened
  have held : after.trapped = false →
      Room extent checkpoints.data (UInt32.ofInt entrypoint) raw y after.memory.size := by
    intro usable
    have pages := widened.pages_le (by rw [module_eq]; exact steady.widens) usable
    have sizes : written.memory.size ≤ evaluated.memory.size ∧
        evaluated.memory.size ≤ after.memory.size :=
      ⟨Nat.mul_le_mul_right _ more, Nat.mul_le_mul_right _ pages⟩
    exact ⟨start, advanced, by omega, by omega⟩
  cases textOutcome path schema result (evaluated.memory.untilZero result.offset) with
  | ok value => exact held
  | error fault => trivial

/-- An evaluation that came to a value comes to it again, in the memory that there is, if
there is room for it. -/
theorem evaluate_again (equipped : Discipline.heapRewind.Equips module)
    (follows : meaning.Follows handlers short) (steady : meaning.Steady short extent)
    (encoded : Payload.encode input = .ok raw)
    (level : Level meaning checkpoints.data.offset entries guest)
    (handlers_eq : guest.handlers = handlers)
    (entered : ⟨dataBound, data.toWord, Object.document y⟩ ∈ entries) {value : Value}
    (judged : conduct.semantics.JudgesText path (UInt32.ofInt entrypoint) schema raw y .heapRewind
      (.ok value))
    (room : Room extent checkpoints.data (UInt32.ofInt entrypoint) raw y guest.memory.size) :
    Ends (Discipline.heapRewind.evaluate terms checkpoints path entrypoint data input schema) guest
      (fun again after => again = value ∧ after.memory.pages = guest.memory.pages)
      (fun _ _ => False) := by
  rcases room with ⟨start, advanced, inside, taken⟩
  have starts : start.offset = checkpoints.data.offset + raw.length := by
    rcases Address.advance_cases checkpoints.data raw.length with ⟨_, same, starts⟩ | ⟨_, outside⟩
    · cases advanced.symm.trans same
      exact starts
    · exact nomatch advanced.symm.trans outside
  have nonempty := Payload.encode_ne_nil input raw encoded
  refine evaluate_steps encoded advanced _ _ ((((write_ends terms checkpoints.data raw nonempty
    level).and (Region.write_level terms checkpoints.data raw guest nonempty inside)).and
    (tracks_later.write terms checkpoints.data raw guest)).mono ?_
    (fun _ _ failed => failed.1.2.elim))
  rintro _ written ⟨⟨⟨levelWritten, _, stored⟩, pagesWritten⟩, later⟩
  have handlersWritten := later.handlers_eq.trans handlers_eq
  have sizeWritten : written.memory.size = guest.memory.size := by
    unfold Memory.size
    rw [pagesWritten]
  have calls : Keeps Later (callAddress (σ := σ) "opa_eval"
      (Discipline.evalArguments entrypoint data checkpoints.data raw.length start)) :=
    callAddress_keeps (tracks_later.call _ _ (by simp [abi, Discipline.evalArguments])
      fun _ => trivial)
  refine (((evaluateText_ends starts equipped path y dataBound schema levelWritten entered
    stored).and (evaluateText_stays equipped follows steady starts levelWritten handlersWritten
    entered stored judged (by rw [sizeWritten]; exact taken))).and (calls written)).mono ?_
    (fun _ _ failed => failed.1.2.elim)
  rintro result evaluated ⟨⟨⟨levelEvaluated, _, told⟩, pagesEvaluated⟩, again⟩
  have handlersEvaluated := again.handlers_eq.trans handlersWritten
  refine (rewind_stays equipped follows steady checkpoints.data levelEvaluated
    handlersEvaluated).mono ?_ (fun _ _ => False.elim)
  intro _ after pagesAfter
  have same : textOutcome path schema result (evaluated.memory.untilZero result.offset) =
      .ok value := by
    generalize textOutcome path schema result _ = outcome at told
    cases conduct.judgesText_alike judged told with
    | same => rfl
  rw [same]
  exact ⟨rfl, pagesAfter.trans (pagesEvaluated.trans pagesWritten)⟩

end HeapRewind

end PolicyHost
