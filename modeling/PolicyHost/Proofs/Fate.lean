import PolicyHost.Proofs.Checkpoints
import PolicyHost.Proofs.Conduct
import PolicyHost.Proofs.Ownership

namespace PolicyHost

/-!
# How a guest is lost

A guest that follows a conduct is lost for one reason only, as long as its
memory suffices: its policy gave up.  Each operation of a discipline is gone
through once more with that in mind.  Nearly all of what an operation does
runs no policy, so that only the one call that does has to be looked at.
-/

variable {σ δ α β : Type} {module : Module σ} {handlers : Handlers} {short : Access σ → Prop}

namespace Instance

variable {before middle after : Instance σ} {kind kind' : Access σ → Prop}

theorem Adds.mono (adds : Adds kind before after) (more : ∀ access, kind access → kind' access) :
    Adds kind' before after := by
  rcases adds with ⟨recent, history, all⟩
  exact ⟨recent, history, fun access member => more access (all access member)⟩

theorem Adds.and (first : Adds kind before after) (second : Adds kind' before after) :
    Adds (fun access => kind access ∧ kind' access) before after := by
  rcases first with ⟨recent, history, all⟩
  rcases second with ⟨recent', history', all'⟩
  rw [history] at history'
  cases List.append_cancel_right history'
  exact ⟨recent, history, fun access member => ⟨all access member, all' access member⟩⟩

/-- What was done in between was done before or after a time in between. -/
theorem Adds.split (adds : Adds kind before after) (earlier : before.history <:+ middle.history)
    (later : middle.history <:+ after.history) :
    Adds kind before middle ∧ Adds kind middle after := by
  rcases adds with ⟨recent, history, all⟩
  rcases earlier with ⟨first, firstEq⟩
  rcases later with ⟨second, secondEq⟩
  rw [← secondEq, ← firstEq, ← List.append_assoc] at history
  cases List.append_cancel_right history
  exact ⟨⟨first, firstEq.symm, fun access member => all access (List.mem_append_right _ member)⟩,
    ⟨second, secondEq.symm, fun access member => all access (List.mem_append_left _ member)⟩⟩

/-- A guest at a later time, whose policy did not run in between.  It is not
lost if all code that was entered in between came back. -/
structure Quiet (before after : Instance σ) : Prop extends Later before after where
  quiet : Adds (fun access => ¬ access.Evaluates) before after
  stays : before.module.Fits → before.trapped = false →
    Adds (Access.Returned before.module before.handlers) before after → after.trapped = false

instance : IsPreorder (Instance σ) Quiet where
  refl guest := ⟨refl guest, refl guest, fun _ usable _ => usable⟩
  trans first middle last early late := by
    refine ⟨IsTrans.trans _ _ _ early.toLater late.toLater,
      IsTrans.trans _ _ _ early.quiet late.quiet, ?_⟩
    intro fits usable returned
    have parts := returned.split early.history late.history
    have stays := late.stays
    rw [early.module_eq, early.handlers_eq] at stays
    exact stays fits (early.stays fits usable parts.1) parts.2

/-- All that was done when an export was entered is that it was entered. -/
theorem Entered.adds {name : String} {arguments : List UInt32}
    (entered : Entered name arguments before after) :
    Adds kind before after ↔ kind (.call name arguments before.snapshot) := by
  constructor
  · rintro ⟨recent, history, all⟩
    rw [entered.history_eq] at history
    cases List.append_cancel_right
      (show [Access.call name arguments before.snapshot] ++ before.history =
        recent ++ before.history from history)
    exact all _ (List.mem_singleton_self _)
  · exact fun held => ⟨[_], entered.history_eq, List.forall_mem_singleton.mpr held⟩

/-- An export was entered that does not run the policy. -/
theorem Quiet.entered {name : String} {arguments : List UInt32} (other : name ∉ evaluators)
    (entered : Entered name arguments before after) (later : Later before after)
    (ended : after.trapped = true →
      ∀ answer, before.callEnding name arguments ≠ .returned answer) : Quiet before after := by
  refine ⟨later, entered.adds.mpr other, fun _ _ returned => ?_⟩
  rcases entered.adds.mp returned with ⟨answer, returned⟩
  cases lost : after.trapped with
  | false => rfl
  | true => exact absurd returned (ended lost answer)

/-- As long as no policy runs, nothing loses a guest but its own code. -/
theorem tracks_quiet : Tracks (fun name _ => name ∉ evaluators) (Quiet (σ := σ)) where
  call name arguments listed allowed guest := by
    have other : name ∉ evaluators := by
      intro evaluates
      exact allowed (List.mem_cons_of_mem _ evaluates) evaluates
    refine ((tracks_later.call name arguments listed (fun _ => trivial) guest).and
      (call_cases guest name arguments)).mono ?_ ?_
    · rintro answer after ⟨later, entered, usable, _⟩
      exact Quiet.entered other entered later fun lost => nomatch usable.symm.trans lost
    · rintro fault after ⟨later, ⟨rfl, _⟩ | ⟨_, ⟨arity, found, count⟩, journal, rfl, _⟩ |
        ⟨entered, _, ended⟩⟩
      · exact refl after
      · refine ⟨later, ⟨[], rfl, List.forall_mem_nil _⟩, fun fits _ _ => ?_⟩
        have same := fits _ listed (by rw [Module.hasFunction, found])
        rw [found] at same
        cases same
        exact absurd rfl count
      · refine Quiet.entered other entered later fun _ answer returned => ?_
        rcases ended with ⟨ended, _⟩ | ended <;> cases ended.symm.trans returned
  grown guest memory leads := ⟨tracks_later.grown guest memory leads,
    ⟨[], rfl, List.forall_mem_nil _⟩, fun _ usable _ => usable⟩
  written guest memory address bytes leads :=
    ⟨tracks_later.written guest memory address bytes leads,
      ⟨[.write address bytes], rfl, List.forall_mem_singleton.mpr id⟩, fun _ usable _ => usable⟩
  logged guest journal := ⟨tracks_later.logged guest journal, ⟨[], rfl, List.forall_mem_nil _⟩,
    fun _ usable _ => usable⟩

/-- The guest is an instance of a prompt module. -/
def Prompt (short : Access σ → Prop) (guest : Instance σ) : Prop :=
  guest.module.Prompt guest.handlers short

theorem Later.prompt (later : Later before after) (prompt : before.Prompt short) :
    after.Prompt short := by
  unfold Prompt
  rwa [later.module_eq, later.handlers_eq]

/-- What runs no policy does not lose a prompt guest. -/
theorem Quiet.usable (quiet : Quiet before after) (prompt : before.Prompt short)
    (usable : before.trapped = false) (ample : Adds (fun access => ¬ short access) before after) :
    after.trapped = false :=
  quiet.stays prompt.fits usable
    ((quiet.quiet.and ample).mono fun access both => prompt.returns access both.1 both.2)

/-- If the guest is lost, and its memory sufficed, then the fault has a reason
of this kind. -/
structure Explains (short : Access σ → Prop) (reason : Fault → Prop) (before : Instance σ)
    (fault : Fault) (after : Instance σ) : Prop where
  later : Later before after
  lost : after.trapped = true → Adds (fun access => ¬ short access) before after → reason fault

variable {reason : Fault → Prop} {fault fault' : Fault}

theorem Quiet.explains (quiet : Quiet before after) (prompt : before.Prompt short)
    (usable : before.trapped = false) : Explains short reason before fault after :=
  ⟨quiet.toLater, fun lost ample => nomatch (quiet.usable prompt usable ample).symm.trans lost⟩

theorem Explains.usable (later : Later before after) (usable : after.trapped = false) :
    Explains short reason before fault after :=
  ⟨later, fun lost => nomatch usable.symm.trans lost⟩

theorem Explains.since (explains : Explains short reason middle fault after)
    (later : Later before middle) : Explains short reason before fault after :=
  ⟨IsTrans.trans _ _ _ later explains.later, fun lost ample =>
    explains.lost lost (ample.split later.history explains.later.history).2⟩

/-- After a cleanup that keeps the fault and runs no policy, the fault is
explained as before. -/
theorem Explains.cleaned (explains : Explains short reason before fault middle)
    (prompt : before.Prompt short) (quiet : Quiet middle after) :
    Explains short reason before fault after := by
  refine ⟨IsTrans.trans _ _ _ explains.later quiet.toLater, fun lost ample => ?_⟩
  have parts := ample.split explains.later.history quiet.history
  cases usable : middle.trapped with
  | true => exact explains.lost usable parts.1
  | false =>
    exact nomatch (quiet.usable (explains.later.prompt prompt) usable parts.2).symm.trans lost

end Instance

namespace Operation

open Instance

/-- If the operation loses the guest, it fails for a reason of this kind. -/
def Fated (short : Access σ → Prop) (reason : Fault → Prop) (operation : Operation (Instance σ) α)
    (guest : Instance σ) (good : α → Instance σ → Prop) : Prop :=
  Ends operation guest (fun a after => good a after ∧ Later guest after)
    (fun fault after => Explains short reason guest fault after)

variable {operation : Operation (Instance σ) α} {next : α → Operation (Instance σ) β}
variable {cleanup : Operation (Instance σ) Unit} {guest : Instance σ} {reason : Fault → Prop}
variable {good good' : α → Instance σ → Prop} {done : β → Instance σ → Prop}

theorem Fated.mono (fated : Fated short reason operation guest good)
    (more : ∀ a after, good a after → good' a after) :
    Fated short reason operation guest good' :=
  Ends.mono fated (fun a after held => ⟨more a after held.1, held.2⟩) fun _ _ explains => explains

theorem Fated.because {reason' : Fault → Prop} (fated : Fated short reason operation guest good)
    (because : ∀ fault, reason fault → reason' fault) :
    Fated short reason' operation guest good :=
  Ends.mono fated (fun _ _ both => both) fun _ _ explains =>
    ⟨explains.later, fun lost ample => because _ (explains.lost lost ample)⟩

theorem Fated.and {bad : Fault → Instance σ → Prop}
    (fated : Fated short reason operation guest good) (ends : Ends operation guest good' bad) :
    Fated short reason operation guest fun a after => good a after ∧ good' a after :=
  (Ends.and fated ends).mono (fun _ _ both => ⟨⟨both.1.1, both.2⟩, both.1.2⟩)
    (fun _ _ both => both.1)

theorem Fated.of_quiet {bad : Fault → Instance σ → Prop} (keeps : Keeps Quiet operation)
    (prompt : guest.Prompt short) (usable : guest.trapped = false)
    (ends : Ends operation guest good bad) : Fated short reason operation guest good :=
  ((keeps guest).and ends).mono (fun _ _ both => ⟨both.2, both.1.toLater⟩)
    (fun _ _ both => both.1.explains prompt usable)

theorem fated_lift (result : Except Fault α) (usable : guest.trapped = false)
    (held : ∀ a, result = .ok a → good a guest) :
    Fated short reason (lift result) guest good := by
  unfold Fated
  rw [ends_lift]
  cases result with
  | ok a => exact ⟨held a rfl, refl guest⟩
  | error fault => exact Explains.usable (refl guest) usable

theorem fated_liftReport (result : Except Report α) (usable : guest.trapped = false)
    (held : ∀ a, result = .ok a → good a guest) :
    Fated short reason (liftReport result) guest good := by
  unfold Fated
  rw [ends_liftReport]
  cases result with
  | ok a => exact ⟨held a rfl, refl guest⟩
  | error r => exact Explains.usable (refl guest) usable

theorem Fated.bind (first : Fated short reason operation guest good)
    (second : ∀ a middle, good a middle → Later guest middle →
      Fated short reason (next a) middle done) :
    Fated short reason (operation >>= next) guest done := by
  unfold Fated
  rw [ends_bind]
  refine Ends.mono first ?_ fun _ _ explains => explains
  rintro a middle ⟨held, later⟩
  exact Ends.mono (second a middle held later)
    (fun _ _ both => ⟨both.1, IsTrans.trans _ _ _ later both.2⟩)
    (fun _ _ explains => explains.since later)

theorem Fated.onFault (fated : Fated short reason operation guest good)
    (prompt : guest.Prompt short)
    (cleans : ∀ middle, Ends cleanup middle (fun _ after => Quiet middle after)
      (fun _ _ => False)) :
    Fated short reason (onFault operation cleanup) guest good := by
  unfold Fated
  rw [ends_onFault]
  refine Ends.mono fated (fun _ _ both => both) ?_
  intro fault middle explains
  exact (cleans middle).mono (fun _ _ quiet => explains.cleaned prompt quiet)
    (fun _ _ => False.elim)

/-- The heap pointer is moved back, unless the guest was lost. -/
theorem Fated.rewound (fated : Fated short reason operation guest good)
    (prompt : guest.Prompt short) (usable : ∀ a after, good a after → after.trapped = false)
    (address : Address) :
    Fated short reason (ensuring operation (Region.rewind address)) guest
      fun _ after => after.trapped = false := by
  have rewinds : ∀ middle : Instance σ, middle.trapped = false →
      Ends (Region.rewind address) middle
        (fun _ after => Quiet middle after ∧ after.trapped = false)
        (fun _ after => Quiet middle after) := by
    intro middle usable
    have moved : Ends (Region.setHeapPointer address) middle
        (fun _ after => after.trapped = false) (fun _ _ => True) := by
      rw [Region.setHeapPointer, callVoid, ends_bind]
      exact (call_cases middle _ _).mono (fun _ _ called => called.2.1) (fun _ _ _ => trivial)
    exact ((tracks_quiet.rewind address middle).and
      (Region.rewind_ends address middle usable _ _ moved)).mono (fun _ _ both => both)
        (fun _ _ both => both.1)
  unfold Fated
  rw [ends_ensuring]
  refine Ends.mono fated ?_ ?_
  · rintro a middle ⟨held, later⟩
    exact (rewinds middle (usable a middle held)).mono
      (fun _ _ both => ⟨both.2, IsTrans.trans _ _ _ later both.1.toLater⟩)
      (fun _ _ quiet => (quiet.explains (later.prompt prompt) (usable a middle held)).since later)
  · intro fault middle explains
    cases lost : middle.trapped with
    | true =>
      unfold Ends Region.rewind
      rw [if_pos lost]
      exact explains
    | false =>
      refine (rewinds middle lost).mono (fun _ _ both => explains.cleaned prompt both.1) ?_
      intro later after quiet
      exact (quiet.explains (explains.later.prompt prompt) lost).since explains.later

end Operation

open Instance Operation

variable {guest : Instance σ} {conduct : Conduct δ}

section Policy

variable {judgement : Ending β} {name : String} {arguments : List Int}

theorem Instance.call_fated (prompt : guest.Prompt short)
    (listed : (name, arguments.length) ∈ abi)
    (exported : guest.module.hasFunction name = true) (usable : guest.trapped = false)
    (like : ¬ short (.call name (arguments.map UInt32.ofInt) guest.snapshot) →
      judgement.Like (guest.callEnding name (arguments.map UInt32.ofInt))) :
    Fated short (judgement.Fatal name) (call name arguments) guest
      fun _ after => after.trapped = false := by
  refine ((tracks_later.call name arguments listed (fun _ => trivial) guest).and
    (call_cases guest name arguments)).mono ?_ ?_
  · rintro answer after ⟨later, _, stayed, _⟩
    exact ⟨stayed, later⟩
  · rintro fault after ⟨later, ⟨rfl, reason⟩ | ⟨_, ⟨arity, found, count⟩, _⟩ |
      ⟨entered, _, ended⟩⟩
    · exact nomatch (reason exported).1.symm.trans usable
    · have same := prompt.fits _ listed exported
      rw [found] at same
      cases same
      exact absurd rfl count
    · refine ⟨later, fun _ ample => ?_⟩
      have alike := like (entered.adds.mp ample)
      rcases ended with ⟨ended, rfl⟩ | ended
      · rw [ended] at alike
        cases alike
        rfl
      · rw [ended] at alike
        cases alike
        rfl

theorem Instance.callVoid_fated
    (fated : Fated short (judgement.Fatal name) (call name arguments) guest
      fun _ after => after.trapped = false) :
    Fated short (judgement.Fatal name) (callVoid name arguments) guest
      fun _ after => after.trapped = false :=
  fated.bind fun _ after usable _ => ⟨usable, refl after⟩

/-- An answer that is no address is a fault, but the guest is not lost. -/
theorem Instance.callAddress_fated
    (fated : Fated short (judgement.Fatal name) (call name arguments) guest
      fun _ after => after.trapped = false) :
    Fated short (judgement.Fatal name) (callAddress name arguments) guest
      fun _ after => after.trapped = false := by
  have word : Fated short (judgement.Fatal name) (callWord name arguments) guest
      fun _ after => after.trapped = false := by
    refine fated.bind fun answer after usable _ => ?_
    cases answer with
    | some word => exact ⟨usable, refl after⟩
    | none => exact Explains.usable (refl after) usable
  exact word.bind fun _ after usable _ => ⟨usable, refl after⟩

/-- A run in a record is fatal if the policy gives up once the entrypoint was
chosen. -/
theorem Discipline.runContext_fated {handle : Handle} {entrypoint : Int} {good : Instance σ → Prop}
    {bad : Fault → Instance σ → Prop} (prompt : guest.Prompt short)
    (exported : guest.module.hasFunction "eval" = true) (usable : guest.trapped = false)
    (chooses : Ends (callVoid "opa_eval_ctx_set_entrypoint" [handle.context.offset, entrypoint])
      guest (fun _ chosen => good chosen) bad)
    (stays : ∀ chosen, good chosen → chosen.trapped = false)
    (like : ∀ chosen, good chosen → Later guest chosen →
      ¬ short (.call "eval" [handle.context.toWord] chosen.snapshot) →
      judgement.Like (chosen.callEnding "eval" [handle.context.toWord])) :
    Fated short (judgement.Fatal "eval") (Discipline.runContext handle entrypoint) guest
      fun _ _ => True := by
  have words : [(handle.context.offset : Int)].map UInt32.ofInt = [handle.context.toWord] := by
    simp
  refine Fated.bind (Fated.of_quiet (callVoid_keeps (tracks_quiet.plain _ _)) prompt usable
    chooses) ?_
  intro _ chosen held later
  refine Fated.bind (callVoid_fated (call_fated (later.prompt prompt) (by simp [abi])
    (by rwa [later.module_eq]) (stays chosen held) ?_)) ?_
  · rw [words]
    exact like chosen held later
  · intro _ evaluated usable again
    exact Fated.of_quiet (callAddress_keeps (tracks_quiet.plain _ _))
      (again.prompt (later.prompt prompt)) usable (ends_nothing _ _)

end Policy

namespace ExplicitFree

variable {accounts : Accounts module} {meaning : Meaning accounts conduct.semantics}
variable {base : Finset UInt32} {ledger rest : List (UInt32 × Object δ)}

theorem Tally.prompt (follows : meaning.Follows handlers short)
    (tally : Tally meaning base ledger guest) (handlers_eq : guest.handlers = handlers) :
    guest.Prompt short := by
  unfold Prompt
  rw [tally.module_eq, handlers_eq]
  exact follows.toPrompt

/-- A run in a record is fatal if the policy gives up. -/
theorem runContext_fated (equipped : Discipline.explicitFree.Equips module)
    (follows : meaning.Follows handlers short) (handle : Handle) (entrypoint : Int)
    (input data : UInt32) (old : Option UInt32) (x y : δ)
    (tally : Tally meaning base
      ((handle.context.toWord, .record ⟨some input, some data, old⟩) :: rest) guest)
    (handlers_eq : guest.handlers = handlers)
    (inputListed : (input, Object.document x) ∈ rest)
    (dataListed : (data, Object.document y) ∈ rest) :
    Fated short ((conduct.judge (UInt32.ofInt entrypoint) x y).Fatal "eval")
      (Discipline.runContext handle entrypoint) guest fun _ _ => True := by
  refine Discipline.runContext_fated (Tally.prompt follows tally handlers_eq) ?_ tally.open_eq
    (setEntrypoint_ends equipped handle.context entrypoint _ tally)
    (fun _ tally => tally.open_eq) ?_
  · rw [tally.module_eq]
    exact Request.exported equipped (.run handle.context.toWord) rfl
  · intro chosen tally later ample
    have allowed : accounts.Allows (.run handle.context.toWord) chosen.snapshot :=
      tally.allows _ rfl rfl (record_listed rest)
    have like := follows.runs _ input data _ x y _ tally.sound allowed
      (tally.holds _ (List.mem_cons_self ..))
      (tally.live _ (List.mem_cons_of_mem _ inputListed))
      (tally.holds _ (List.mem_cons_of_mem _ inputListed))
      (tally.live _ (List.mem_cons_of_mem _ dataListed))
      (tally.holds _ (List.mem_cons_of_mem _ dataListed)) ample
    unfold callEnding
    rw [tally.module_eq, later.handlers_eq, handlers_eq]
    exact like

/-- So is an evaluation in a context, which runs no policy apart from that. -/
theorem contextEval_fated (equipped : Discipline.explicitFree.Equips module)
    (follows : meaning.Follows handlers short) (terms : Region.Terms) (handle : Handle)
    (path : String) (entrypoint : Int) (schema : Schema) (input data : UInt32)
    (old : Option UInt32) (x y : δ)
    (tally : Tally meaning base
      ((handle.context.toWord, .record ⟨some input, some data, old⟩) :: rest) guest)
    (handlers_eq : guest.handlers = handlers)
    (inputListed : (input, Object.document x) ∈ rest)
    (dataListed : (data, Object.document y) ∈ rest) :
    Fated short ((conduct.judge (UInt32.ofInt entrypoint) x y).Fatal "eval")
      (Discipline.explicitFree.contextEval terms handle path entrypoint schema) guest
      fun _ _ => True := by
  have prompt := Tally.prompt follows tally handlers_eq
  refine Fated.bind (Fated.and (runContext_fated equipped follows handle entrypoint input data old
    x y tally handlers_eq inputListed dataListed) (runContext_ends equipped handle entrypoint input
    data old x y tally inputListed dataListed)) ?_
  rintro result evaluated ⟨_, _, _, tally⟩ later
  refine Fated.of_quiet ?_ (later.prompt prompt) tally.open_eq (ends_nothing _ _)
  exact ((tracks_quiet.readRaw terms result).ensuring (tracks_quiet.free terms result)).bind
    fun raw => keeps_liftReport _

/-- A single evaluation is fatal if its text is a document for which the policy
gives up. -/
theorem evaluate_fated (equipped : Discipline.explicitFree.Equips module)
    (follows : meaning.Follows handlers short) (terms : Region.Terms)
    (releases : terms.rewinds = false) (checkpoints : Checkpoints) (path : String)
    (entrypoint : Int) (data : Address) (y : δ) (input : Value) (raw : Bytes) (schema : Schema)
    (encoded : Payload.encode input = .ok raw) (tally : Tally meaning base ledger guest)
    (handlers_eq : guest.handlers = handlers)
    (entered : (data.toWord, Object.document y) ∈ ledger) :
    Fated short (conduct.Fells .explicitFree (.evaluate path entrypoint schema raw y))
      (Discipline.explicitFree.evaluate terms checkpoints path entrypoint data input schema) guest
      fun _ _ => True := by
  have prompt := Tally.prompt follows tally handlers_eq
  refine Fated.bind (Fated.of_quiet (tracks_quiet.openContext .explicitFree terms checkpoints data
    input (fun _ => by decide)) prompt tally.open_eq
    (bindContext_ends equipped terms releases data y input raw encoded tally entered)) ?_
  rintro handle opened ⟨x, accepted, tally⟩ later
  have evaluated := contextEval_fated equipped follows terms handle path entrypoint schema
    handle.input.toWord data.toWord none x y tally (later.handlers_eq.trans handlers_eq)
    (List.mem_cons_self ..) (List.mem_cons_of_mem _ entered)
  -- Closing quietly keeps the failure, so what is fatal in the context is fatal here.
  have fells : ∀ fault, (conduct.judge (UInt32.ofInt entrypoint) x y).Fatal "eval" fault →
      conduct.Fells .explicitFree (.evaluate path entrypoint schema raw y) fault :=
    fun fault fatal => .evaluate path entrypoint schema raw x y fault accepted.symm fatal
  refine Fated.bind (((evaluated.because fells).and (contextEval_ends equipped terms releases handle
    path entrypoint schema handle.input.toWord data.toWord none x y tally (List.mem_cons_self ..)
    (List.mem_cons_of_mem _ entered))).onFault (later.prompt prompt)
    (tracks_quiet.closeQuietly_returns .explicitFree terms checkpoints handle)) ?_
  rintro value after ⟨_, tally, _⟩ again
  refine Fated.of_quiet ?_ (again.prompt (later.prompt prompt)) tally.open_eq (ends_nothing _ _)
  exact (tracks_quiet.closeContext .explicitFree terms checkpoints handle).bind fun _ =>
    keeps_pure value

end ExplicitFree

namespace HeapRewind

variable {heap : Heap module} {meaning : HeapMeaning heap conduct.semantics} {mark : Nat}
variable {entries : List (Entry δ)}

theorem Level.prompt (follows : meaning.Follows handlers short)
    (level : Level meaning mark entries guest) (handlers_eq : guest.handlers = handlers) :
    guest.Prompt short := by
  unfold Prompt
  rw [level.module_eq, handlers_eq]
  exact follows.toPrompt

/-- A run in a record is fatal if the policy gives up. -/
theorem runContext_fated (equipped : Discipline.heapRewind.Equips module)
    (follows : meaning.Follows handlers short) (handle : Handle) (entrypoint : Int)
    (input data : UInt32) (old : Option UInt32) (x y : δ) (bound inputBound dataBound : Nat)
    (settled : Settled meaning
      (⟨bound, handle.context.toWord, .record ⟨some input, some data, old⟩⟩ :: entries) guest)
    (handlers_eq : guest.handlers = handlers)
    (below : ∀ entry ∈ entries, entry.bound ≤ handle.context.offset)
    (inputListed : ⟨inputBound, input, Object.document x⟩ ∈ entries)
    (dataListed : ⟨dataBound, data, Object.document y⟩ ∈ entries) :
    Fated short ((conduct.judge (UInt32.ofInt entrypoint) x y).Fatal "eval")
      (Discipline.runContext handle entrypoint) guest fun _ _ => True := by
  refine Discipline.runContext_fated (Level.prompt follows settled handlers_eq) ?_ settled.open_eq
    (setEntrypoint_ends equipped (heap.top guest.snapshot) entrypoint settled below)
    (fun _ chosen => chosen.1.open_eq) ?_
  · rw [settled.module_eq]
    exact Request.exported_heap equipped (.run handle.context.toWord) rfl
  · rintro chosen ⟨settledChosen, _⟩ later ample
    have allowed : heap.Allows (.run handle.context.toWord) chosen.snapshot :=
      settledChosen.allows _ rfl (record_listed entries)
    have atContext : handle.context.toWord.toNat = handle.context.offset :=
      Address.toWord_toNat handle.context
    have like := follows.runs _ input data _ x y bound inputBound dataBound _ allowed
      (settledChosen.bounded _ (List.mem_cons_self ..))
      (settledChosen.holds _ (List.mem_cons_self ..))
      (by rw [atContext]; exact below _ inputListed)
      (settledChosen.holds _ (List.mem_cons_of_mem _ inputListed))
      (by rw [atContext]; exact below _ dataListed)
      (settledChosen.holds _ (List.mem_cons_of_mem _ dataListed)) ample
    unfold callEnding
    rw [settledChosen.module_eq, later.handlers_eq, handlers_eq]
    exact like

/-- So is an evaluation in a context, which runs no policy apart from that. -/
theorem contextEval_fated (equipped : Discipline.heapRewind.Equips module)
    (follows : meaning.Follows handlers short) (terms : Region.Terms)
    (rewinds : terms.rewinds = true) (handle : Handle) (path : String) (entrypoint : Int)
    (schema : Schema) (input data : UInt32) (old : Option UInt32) (x y : δ)
    (bound inputBound dataBound : Nat)
    (settled : Settled meaning
      (⟨bound, handle.context.toWord, .record ⟨some input, some data, old⟩⟩ :: entries) guest)
    (handlers_eq : guest.handlers = handlers)
    (below : ∀ entry ∈ entries, entry.bound ≤ handle.context.offset)
    (inside : handle.context.offset ≤ heap.top guest.snapshot)
    (inputListed : ⟨inputBound, input, Object.document x⟩ ∈ entries)
    (dataListed : ⟨dataBound, data, Object.document y⟩ ∈ entries) :
    Fated short ((conduct.judge (UInt32.ofInt entrypoint) x y).Fatal "eval")
      (Discipline.heapRewind.contextEval terms handle path entrypoint schema) guest
      fun _ _ => True := by
  have prompt := Level.prompt follows settled handlers_eq
  refine Fated.bind (Fated.of_quiet tracks_quiet.heapPointer prompt settled.open_eq
    (heapPointer_ends equipped settled)) ?_
  rintro saved marked ⟨_, markedTop, settledMarked, _⟩ later
  have ran := (runContext_fated equipped follows handle entrypoint input data old x y bound
    inputBound dataBound settledMarked (later.handlers_eq.trans handlers_eq) below inputListed
    dataListed).and (runContext_ends equipped handle entrypoint input data old x y bound inputBound
      dataBound settledMarked below (by rw [markedTop]; exact inside) inputListed dataListed)
  have read : Fated short ((conduct.judge (UInt32.ofInt entrypoint) x y).Fatal "eval")
      (do Exchange.readRaw terms (← Discipline.runContext handle entrypoint)) marked
      fun _ after => after.trapped = false := by
    refine Fated.bind ran ?_
    rintro result evaluated ⟨_, set, _, settledEvaluated, _⟩ again
    exact (Fated.of_quiet (tracks_quiet.readRaw terms result) (again.prompt (later.prompt prompt))
      settledEvaluated.open_eq (readRaw_ends equipped terms rewinds result set _ settledEvaluated
        (List.mem_cons_self ..))).mono fun _ _ read => read.2.1.open_eq
  refine Fated.bind (read.rewound (later.prompt prompt) (fun _ _ usable => usable) saved) ?_
  intro raw after usable _
  exact fated_liftReport _ usable fun _ _ => trivial

/-- The evaluation of an input text is fatal if the policy gives up. -/
theorem evaluateText_fated (equipped : Discipline.heapRewind.Equips module)
    (follows : meaning.Follows handlers short) (path : String) {entrypoint : Int}
    {data behind start : Address} (y : δ) (dataBound : Nat) {raw : Bytes} (schema : Schema)
    (starts : start.offset = behind.offset + raw.length)
    (level : Level meaning behind.offset entries guest) (handlers_eq : guest.handlers = handlers)
    (entered : ⟨dataBound, data.toWord, Object.document y⟩ ∈ entries)
    (stored : guest.memory.bytes behind.offset raw.length = raw) :
    Fated short (conduct.Fells .heapRewind (.evaluate path entrypoint schema raw y))
      (callAddress "opa_eval" (Discipline.evalArguments entrypoint data behind raw.length start))
      guest fun _ after => after.trapped = false := by
  have prompt := Level.prompt follows level handlers_eq
  have allowed := evaluation_allowed starts entrypoint level entered
  have read := evaluation_read starts stored
  have below : dataBound ≤ behind.toWord.toNat := by
    rw [Address.toWord_toNat]
    exact level.bounded _ entered
  have exported : guest.module.hasFunction "opa_eval" = true := by
    rw [level.module_eq]
    exact Request.exported_heap equipped (evaluation entrypoint data behind start raw) rfl
  cases parsed : conduct.parse raw with
  | some x =>
    refine (callAddress_fated (call_fated prompt (by simp [abi, Discipline.evalArguments]) exported
      level.open_eq ?_)).because
      fun fault fatal => .evaluate path entrypoint schema raw x y fault parsed fatal
    rw [evaluation_words]
    intro ample
    unfold callEnding
    rw [level.module_eq, handlers_eq]
    exact follows.evaluates _ _ _ _ _ x y dataBound _ allowed below (level.holds _ entered)
      (by rw [read]; exact parsed) ample
  | none =>
    refine (callAddress_fated (call_fated prompt (by simp [abi, Discipline.evalArguments]) exported
      level.open_eq ?_)).because
      fun fault fatal => .garble path entrypoint schema raw y fault rfl parsed fatal
    rw [evaluation_words]
    intro ample
    have like := follows.garbles _ _ _ _ _ y dataBound _ allowed below (level.holds _ entered)
      (by rw [read]; exact parsed) ample
    rw [read] at like
    unfold callEnding
    rw [level.module_eq, handlers_eq]
    exact like

/-- So is a single evaluation, which runs no policy apart from that. -/
theorem evaluate_fated (equipped : Discipline.heapRewind.Equips module)
    (follows : meaning.Follows handlers short) (terms : Region.Terms) (checkpoints : Checkpoints)
    (path : String) (entrypoint : Int) (data : Address) (y : δ) (dataBound : Nat) (input : Value)
    (raw : Bytes) (schema : Schema) (encoded : Payload.encode input = .ok raw)
    (level : Level meaning checkpoints.data.offset entries guest)
    (handlers_eq : guest.handlers = handlers)
    (entered : ⟨dataBound, data.toWord, Object.document y⟩ ∈ entries) :
    Fated short (conduct.Fells .heapRewind (.evaluate path entrypoint schema raw y))
      (Discipline.heapRewind.evaluate terms checkpoints path entrypoint data input schema) guest
      fun _ _ => True := by
  have prompt := Level.prompt follows level handlers_eq
  have text : Fated short (conduct.Fells .heapRewind (.evaluate path entrypoint schema raw y))
      (liftReport (Payload.encode input)) guest fun text after => raw = text ∧ guest = after := by
    refine fated_liftReport _ level.open_eq fun text same => ?_
    rw [encoded] at same
    exact ⟨Except.ok.inj same, rfl⟩
  refine text.bind ?_
  rintro _ _ ⟨rfl, rfl⟩ _
  have behind : Fated short (conduct.Fells .heapRewind (.evaluate path entrypoint schema raw y))
      (lift (checkpoints.data.advance raw.length)) guest fun start after =>
        start.offset = checkpoints.data.offset + raw.length ∧ guest = after := by
    refine fated_lift _ level.open_eq fun start same => ?_
    rcases Address.advance_cases checkpoints.data raw.length with
      ⟨further, advanced, startEq⟩ | ⟨_, failed⟩
    · rw [advanced] at same
      cases same
      exact ⟨startEq, rfl⟩
    · rw [failed] at same
      cases same
  refine behind.bind ?_
  rintro start _ ⟨starts, rfl⟩ _
  have evaluated : Fated short (conduct.Fells .heapRewind (.evaluate path entrypoint schema raw y))
      (do
        Region.write terms checkpoints.data raw
        let result ← callAddress "opa_eval"
          (Discipline.evalArguments entrypoint data checkpoints.data raw.length start)
        return (result, ← Region.readUntilZero result)) guest
      fun _ after => after.trapped = false := by
    refine Fated.bind (Fated.of_quiet (tracks_quiet.write terms checkpoints.data raw) prompt
      level.open_eq (write_ends terms checkpoints.data raw
        (Payload.encode_ne_nil input raw encoded) level)) ?_
    rintro _ written ⟨levelWritten, _, stored⟩ later
    refine Fated.bind (evaluateText_fated equipped follows path y dataBound schema starts
      levelWritten (later.handlers_eq.trans handlers_eq) entered stored) ?_
    exact fun result after usable _ => ⟨usable, refl after⟩
  refine (evaluated.rewound prompt (fun _ _ usable => usable) checkpoints.data).bind ?_
  rintro ⟨result, text⟩ after usable _
  cases text with
  | some text => exact fated_liftReport _ usable fun _ _ => trivial
  | none => exact Explains.usable (refl after) usable

end HeapRewind

namespace Contract

variable {semantics : Semantics δ}

/-- Why the work that a contract is about may lose the guest. -/
structure Fates (contract : Contract σ semantics) (handlers : Handlers) (short : Access σ → Prop)
    (fells : Work δ → Fault → Prop) : Prop where
  idle_prompt : ∀ checkpoints data guest, contract.idle checkpoints data guest →
    guest.handlers = handlers → guest.Prompt short
  held_prompt : ∀ checkpoints data context guest, contract.held checkpoints data context guest →
    guest.handlers = handlers → guest.Prompt short
  evaluate : ∀ checkpoints data y guest path entrypoint input raw schema,
    contract.idle checkpoints (some (data, y)) guest → guest.handlers = handlers →
    Payload.encode input = .ok raw →
    Fated short (fells (.evaluate path entrypoint schema raw y))
      (contract.discipline.evaluate contract.terms checkpoints path entrypoint data input schema)
      guest fun _ _ => True
  contextEval : ∀ checkpoints data y handle x guest path entrypoint schema,
    contract.held checkpoints (data, y) (handle, x) guest → guest.handlers = handlers →
    Fated short (fells (.contextEval path entrypoint schema x y))
      (contract.discipline.contextEval contract.terms handle path entrypoint schema) guest
      fun _ _ => True

variable {contract : Contract σ semantics} {fells : Work δ → Fault → Prop}

/-- The agreement of a contract, with what is known of how a guest with these handlers is
lost as long as memory suffices. -/
def known (contract : Contract σ semantics) (handlers : Handlers) (short : Access σ → Prop)
    (fells : Work δ → Fault → Prop) : Agreement σ δ where
  discipline := contract.discipline
  terms := contract.terms
  excuses := contract.excuses
  idle checkpoints data guest := contract.idle checkpoints data guest ∧ guest.handlers = handlers
  held checkpoints data context guest :=
    contract.held checkpoints data context guest ∧ guest.handlers = handlers
  moved := contract.moved
  fell work fault guest after := Adds (fun access => ¬ short access) guest after → fells work fault

theorem Fates.installs (fates : contract.Fates handlers short fells) :
    (contract.known handlers short fells).Installs semantics := by
  rintro checkpoints data guest raw ⟨idle, same⟩ nonempty
  have fated : Fated short (fells (.install raw)) _ guest fun _ _ => True :=
    Fated.of_quiet (tracks_quiet.installData contract.discipline contract.terms checkpoints
      (data.map (·.1)) raw) (fates.idle_prompt _ _ _ idle same)
      (contract.idle_open _ _ _ idle) (ends_nothing _ _)
  refine ((contract.install checkpoints data guest raw idle nonempty).and fated).mono ?_ ?_
  · rintro installed after ⟨⟨d, accepted, base, idle, moved⟩, _, later⟩
    exact ⟨d, accepted, base, ⟨idle, later.handlers_eq.trans same⟩, moved⟩
  · rintro fault after ⟨⟨lost, _⟩ | excused | ⟨refused, idle, moved⟩, explains⟩
    · exact Or.inl ⟨lost, explains.lost lost⟩
    · exact Or.inr (Or.inl excused)
    · exact Or.inr (Or.inr ⟨refused, ⟨idle, explains.later.handlers_eq.trans same⟩, moved⟩)

theorem Fates.evaluates (fates : contract.Fates handlers short fells) :
    (contract.known handlers short fells).Evaluates semantics := by
  rintro checkpoints data y guest path entrypoint input raw schema ⟨idle, same⟩ encoded
  refine ((contract.evaluate checkpoints data y guest path entrypoint input raw schema idle
    encoded).and (fates.evaluate checkpoints data y guest path entrypoint input raw schema idle
    same encoded)).mono ?_ ?_
  · rintro value after ⟨⟨idle, judged, moved⟩, _, later⟩
    exact ⟨⟨idle, later.handlers_eq.trans same⟩, judged, moved⟩
  · rintro fault after ⟨⟨lost, _⟩ | excused | ⟨idle, judged, moved⟩, explains⟩
    · exact Or.inl ⟨lost, explains.lost lost⟩
    · exact Or.inr (Or.inl excused)
    · exact Or.inr (Or.inr ⟨⟨idle, explains.later.handlers_eq.trans same⟩, judged, moved⟩)

theorem Fates.opens (fates : contract.Fates handlers short fells) :
    (contract.known handlers short fells).Opens semantics := by
  rintro checkpoints data y guest input ⟨idle, same⟩
  have fated : Fated short (fells (.openContext (Payload.encode input) y)) _ guest
      fun _ _ => True :=
    Fated.of_quiet (tracks_quiet.openContext contract.discipline contract.terms checkpoints data
      input (fun _ => by decide)) (fates.idle_prompt _ _ _ idle same)
      (contract.idle_open _ _ _ idle) (ends_nothing _ _)
  refine ((contract.openContext checkpoints data y guest input idle).and fated).mono ?_ ?_
  · rintro handle after ⟨⟨raw, x, encoded, accepted, held, moved⟩, _, later⟩
    exact ⟨raw, x, encoded, accepted, ⟨held, later.handlers_eq.trans same⟩, moved⟩
  · rintro fault after ⟨⟨lost, _⟩ | excused | ⟨refused, idle, moved⟩, explains⟩
    · exact Or.inl ⟨lost, explains.lost lost⟩
    · exact Or.inr (Or.inl excused)
    · exact Or.inr (Or.inr ⟨refused, ⟨idle, explains.later.handlers_eq.trans same⟩, moved⟩)

theorem Fates.evaluates_within (fates : contract.Fates handlers short fells) :
    (contract.known handlers short fells).EvaluatesWithin semantics := by
  rintro checkpoints data y handle x guest path entrypoint schema ⟨held, same⟩
  refine ((contract.contextEval checkpoints data y handle x guest path entrypoint schema
    held).and (fates.contextEval checkpoints data y handle x guest path entrypoint schema held
    same)).mono ?_ ?_
  · rintro value after ⟨⟨held, judged, moved⟩, _, later⟩
    exact ⟨⟨held, later.handlers_eq.trans same⟩, judged, moved⟩
  · rintro fault after ⟨⟨lost, _⟩ | ⟨held, judged, moved⟩, explains⟩
    · exact Or.inl ⟨lost, explains.lost lost⟩
    · exact Or.inr ⟨⟨held, explains.later.handlers_eq.trans same⟩, judged, moved⟩

theorem Fates.closes (fates : contract.Fates handlers short fells) :
    (contract.known handlers short fells).Closes := by
  rintro checkpoints data context guest ⟨held, same⟩
  have fated : Fated short (fells .close) _ guest fun _ _ => True :=
    Fated.of_quiet (tracks_quiet.closeContext contract.discipline contract.terms checkpoints
      context.1) (fates.held_prompt _ _ _ _ held same) (contract.held_open _ _ _ _ held)
      (ends_nothing _ _)
  refine ((contract.closeContext checkpoints data context guest held).and fated).mono ?_ ?_
  · rintro _ after ⟨⟨idle, moved⟩, _, later⟩
    exact ⟨⟨idle, later.handlers_eq.trans same⟩, moved⟩
  · rintro fault after ⟨⟨lost, _⟩, explains⟩
    exact ⟨lost, explains.lost lost⟩

/-- A contract that knows, as long as memory suffices, how its guest is lost. -/
def fated (contract : Contract σ semantics) (fates : contract.Fates handlers short fells) :
    Contract σ semantics where
  toAgreement := contract.known handlers short fells
  idle_open _ _ _ idle := contract.idle_open _ _ _ idle.1
  held_open _ _ _ _ held := contract.held_open _ _ _ _ held.1
  idle_journal _ _ _ journal idle := ⟨contract.idle_journal _ _ _ journal idle.1, idle.2⟩
  installed_journal := contract.installed_journal
  fell_journal _ _ _ _ _ fell := fell
  install := fates.installs
  evaluate := fates.evaluates
  openContext := fates.opens
  contextEval := fates.evaluates_within
  closeContext := fates.closes

/-- A host that stands where its service stands, also does as far as it is
known how its guest is lost. -/
theorem Matches.fated {service : Service δ} {host : Host σ} (same : contract.Matches service host)
    (fates : contract.Fates host.guest.handlers short fells) :
    (contract.fated fates).Matches service host := by
  refine ⟨same.discipline_eq, same.terms_eq, same.entrypoints_eq, same.leak_eq, ?_⟩
  have holds := same.holds
  unfold Holds at holds ⊢
  cases current : service.current with
  | none =>
    rw [current] at holds
    rcases holds with ⟨busy, ended, data, dataset, document, idle⟩
    exact ⟨busy, ended, data, dataset, document, idle, rfl⟩
  | some opening =>
    rw [current] at holds
    rcases holds with ⟨busy, old, handle, address, contexts, ended, dataset, document, held⟩
    exact ⟨busy, old, handle, address, contexts, ended, dataset, document, held, rfl⟩

end Contract

theorem ExplicitFree.fates {accounts : Accounts module}
    {meaning : Meaning accounts conduct.semantics} (follows : meaning.Follows handlers short)
    (equipped : Discipline.explicitFree.Equips module) (maxPages : Option Nat) :
    (ExplicitFree.loose meaning equipped maxPages).Fates handlers short
      (conduct.Fells .explicitFree) where
  idle_prompt := by
    rintro _ _ _ ⟨_, _, tally⟩ same
    exact Tally.prompt follows tally same
  held_prompt := by
    rintro _ _ _ _ ⟨_, _, _, tally⟩ same
    exact Tally.prompt follows tally same
  evaluate := by
    rintro checkpoints data y guest path entrypoint input raw schema ⟨base, _, tally⟩ same encoded
    exact evaluate_fated equipped follows _ rfl checkpoints path entrypoint data y input raw schema
      encoded tally same (List.mem_singleton_self _)
  contextEval := by
    rintro checkpoints data y handle x guest path entrypoint schema ⟨base, old, _, tally⟩ same
    exact (contextEval_fated equipped follows _ handle path entrypoint schema _ _ old x y tally
      same (List.mem_cons_self ..) (List.mem_cons_of_mem _ (List.mem_singleton_self _))).because
      fun fault fatal => .contextEval path entrypoint schema x y fault fatal

theorem HeapRewind.fates {heap : Heap module} {meaning : HeapMeaning heap conduct.semantics}
    (follows : meaning.Follows handlers short)
    (equipped : Discipline.heapRewind.Equips module) (maxPages : Option Nat) :
    (HeapRewind.contract meaning equipped maxPages).Fates handlers short
      (conduct.Fells .heapRewind) where
  idle_prompt _ _ _ idle same := Level.prompt follows idle.level same
  held_prompt := by
    rintro _ _ _ _ ⟨_, _, _, _, _, _, _, _, settled⟩ same
    exact Level.prompt follows settled same
  evaluate := by
    intro checkpoints data y guest path entrypoint input raw schema idle same encoded
    exact evaluate_fated equipped follows _ checkpoints path entrypoint data y _ input raw schema
      encoded idle.level same (List.mem_singleton_self _)
  contextEval := by
    rintro checkpoints data y handle x guest path entrypoint schema
      ⟨_, _, data_le, inside, bound, inputBound, old, before, settled⟩ same
    have below : ∀ entry ∈ [⟨inputBound, handle.input.toWord, .document x⟩,
        installed checkpoints (data, y)], entry.bound ≤ handle.context.offset :=
      List.forall_mem_cons.mpr ⟨before, List.forall_mem_singleton.mpr data_le⟩
    exact (contextEval_fated equipped follows _ rfl handle path entrypoint schema _ _ old x y bound
      inputBound _ settled same below inside (List.mem_cons_self ..)
      (List.mem_cons_of_mem _ (List.mem_singleton_self _))).because
      fun fault fatal => .contextEval path entrypoint schema x y fault fatal

/-- A contract that says how its guest is lost: as long as memory suffices, the
policy gave up. -/
structure Contract.Honours (contract : Contract σ conduct.semantics) (discipline : Discipline)
    (short : Access σ → Prop) : Prop where
  discipline_eq : contract.discipline = discipline
  excuses : ∀ fault, ¬ contract.excuses fault
  fells : ∀ work fault guest after, contract.fell work fault guest after →
    Adds (fun access => ¬ short access) guest after → conduct.Fells discipline work fault

/-- A host begins where its service begins, and what its guest was built with
decides how it may be lost. -/
theorem Obeys.matches_built {builder : Builder} {journal journal' : Journal} {host : Host σ}
    (built : builder.instantiate module journal = .ok host journal')
    (obeys : Obeys module host.guest.handlers conduct short (.ofMinor host.minor)) :
    ∃ contract : Contract σ conduct.semantics, contract.Honours (.ofMinor host.minor) short ∧
      contract.Matches (.unused δ host.entrypoints) host := by
  unfold Discipline.ofMinor at obeys ⊢
  by_cases version : 2 ≤ host.minor
  · rw [if_pos version] at obeys ⊢
    rcases obeys with - | ⟨heap, meaning, follows⟩
    rcases HeapRewind.matches_built meaning built version with ⟨equipped, same⟩
    exact ⟨_, ⟨rfl, fun _ => id, fun _ _ _ _ fell => fell⟩,
      same.fated (HeapRewind.fates follows equipped host.maxPages)⟩
  · rw [if_neg version] at obeys ⊢
    rcases obeys with ⟨accounts, meaning, follows⟩
    rcases meaning.loose_built built (Int.not_le.mp version) with ⟨equipped, same⟩
    exact ⟨_, ⟨rfl, fun _ => id, fun _ _ _ _ fell => fell⟩,
      same.fated (ExplicitFree.fates follows equipped host.maxPages)⟩

end PolicyHost
