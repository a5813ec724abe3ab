import PolicyHost.Proofs.Erasure
import PolicyHost.Proofs.Recovery

namespace PolicyHost

/-!
# Replacing the dataset

The old dataset is given up before the new one is written, and that can fail in
the middle.  A caller is told which of three things happened.  The new dataset
is in place, and the policy is given nothing else from now on.  Or the host did
not begin, and everything is as it was.  Or it began and failed; then there is
no dataset any more, and until there is one nothing is evaluated.
-/

variable {σ δ : Type}

namespace Instance

variable {before middle after : Instance σ} {raw : Bytes} {document : Address}

/-- The host wrote a text and had the guest parse it, and this document is what
the guest answered with. -/
structure Loads (raw : Bytes) (document : Address) (before after : Instance σ) : Prop where
  parsed : ∃ newer text found older,
    after.history = newer ++ .call "opa_json_parse" [text.toWord, UInt32.ofInt raw.length] found ::
      .write text raw :: older ∧
    before.history <:+ older ∧
    before.module.ending before.handlers "opa_json_parse"
      [text.toWord, UInt32.ofInt raw.length] found = .returned (some document.toWord)
  accepted : document.toWord ≠ 0

theorem Loads.later (loads : Loads raw document before middle) (later : Later middle after) :
    Loads raw document before after := by
  rcases loads.parsed with ⟨newer, text, found, older, history, earlier, answered⟩
  rcases later.history with ⟨newest, same⟩
  refine ⟨⟨newest ++ newer, text, found, older, ?_, earlier, answered⟩, loads.accepted⟩
  rw [← same, history, List.append_assoc]

theorem Loads.since (loads : Loads raw document middle after) (later : Later before middle) :
    Loads raw document before after := by
  rcases loads.parsed with ⟨newer, text, found, older, history, earlier, answered⟩
  refine ⟨⟨newer, text, found, older, history, IsTrans.trans _ _ _ later.history earlier, ?_⟩,
    loads.accepted⟩
  rwa [later.module_eq, later.handlers_eq] at answered

/-- Whatever block was released in between, the host had just written the text
into it. -/
def Clears (raw : Bytes) (before after : Instance σ) : Prop :=
  ∃ recent, after.history = recent ++ before.history ∧
    ∀ arguments found, Access.call "opa_free" arguments found ∈ recent →
      ∃ text : Address, arguments = [text.toWord] ∧ Access.write text raw ∈ recent

instance : IsPreorder (Instance σ) (Clears raw) where
  refl _ := ⟨[], rfl, fun _ _ impossible => nomatch impossible⟩
  trans := by
    rintro first second third ⟨earlier, history, all⟩ ⟨later, history', all'⟩
    refine ⟨later ++ earlier, by rw [history', history, List.append_assoc], ?_⟩
    intro arguments found member
    rcases List.mem_append.mp member with member | member
    · rcases all' arguments found member with ⟨text, same, written⟩
      exact ⟨text, same, List.mem_append_left _ written⟩
    · rcases all arguments found member with ⟨text, same, written⟩
      exact ⟨text, same, List.mem_append_right _ written⟩

theorem call_clears (raw : Bytes) {name : String} {arguments : List Int}
    (other : name ≠ "opa_free") :
    Operation.Keeps (Clears raw) (call (σ := σ) name arguments) := by
  intro guest
  have clears : ∀ after, Adds (fun access => ∀ arguments found,
      access ≠ Access.call "opa_free" arguments found) guest after → Clears raw guest after := by
    rintro after ⟨recent, history, all⟩
    exact ⟨recent, history, fun arguments found member =>
      absurd rfl (all _ member arguments found)⟩
  refine (call_adds (fun found arguments' found' same => ?_) guest).mono
    (fun _ => clears) (fun _ => clears)
  exact other (Access.call.inj same).1

/-- A text was written in between. -/
def Writes (text : Address) (raw : Bytes) (before after : Instance σ) : Prop :=
  ∃ recent, after.history = recent ++ before.history ∧ Access.write text raw ∈ recent

/-- After the text was written into a block, that block may be released. -/
theorem Clears.release {text : Address} (clears : Clears raw before middle)
    (writes : Writes text raw before middle)
    (adds : Adds (fun access => ∀ arguments found,
      access = .call "opa_free" arguments found → arguments = [text.toWord]) middle after) :
    Clears raw before after := by
  rcases clears with ⟨recent, history, all⟩
  rcases writes with ⟨recent', history', written⟩
  rcases adds with ⟨later, history'', released⟩
  rw [history] at history'
  cases List.append_cancel_right history'
  refine ⟨later ++ recent, by rw [history'', history, List.append_assoc], ?_⟩
  intro arguments found member
  rcases List.mem_append.mp member with member | member
  · exact ⟨text, released _ member arguments found rfl, List.mem_append_right _ written⟩
  · rcases all arguments found member with ⟨text, same, written⟩
    exact ⟨text, same, List.mem_append_right _ written⟩

theorem callWord_entered (guest : Instance σ) (name : String) (arguments : List Int) :
    Operation.Ends (callWord name arguments) guest
      (fun word after => Entered name (arguments.map UInt32.ofInt) guest after ∧
        guest.callEnding name (arguments.map UInt32.ofInt) = .returned (some word))
      (fun _ _ => True) := by
  rw [callWord, Operation.ends_bind]
  refine (call_cases guest name arguments).mono ?_ (fun _ _ _ => trivial)
  rintro answer after ⟨entered, _, returned, _⟩
  cases answer with
  | some word => exact ⟨entered, returned⟩
  | none => trivial

end Instance

open Instance

namespace Region

variable {guest : Instance σ}

/-- The last that was done is that the text was written into this block. -/
structure Placed (raw : Bytes) (block : Address) (before after : Instance σ) : Prop where
  later : Later before after
  clears : Clears raw before after
  written : ∃ older, after.history = .write block raw :: older ∧ before.history <:+ older

/-- Placing a text releases nothing, and writes the text last. -/
theorem place_placed (terms : Terms) {raw : Bytes} (nonempty : raw ≠ []) (guest : Instance σ) :
    Operation.Ends (place terms raw) guest (fun block after => Placed raw block guest after)
      (fun _ after => Clears raw guest after) := by
  rw [place, Operation.ends_bind, allocate, Operation.ends_bind]
  refine ((callAddress_keeps (tracks_later.plain "opa_malloc" _) guest).and
    (callAddress_keeps (call_clears raw (by decide)) guest)).mono ?_ fun _ _ both => both.2
  rintro block allocated ⟨later, clears⟩
  rw [Operation.ends_pure, Operation.ends_bind, writeView_eq]
  refine ((tracks_later.write terms block raw allocated).and
    (write_ends terms block raw allocated nonempty)).mono ?_ ?_
  · rintro _ after ⟨laterAfter, _, _, _, _, rfl⟩
    refine ⟨IsTrans.trans _ _ _ later laterAfter, IsTrans.trans _ _ _ clears ?_,
      allocated.history, rfl, later.history⟩
    refine ⟨[.write block raw], rfl, fun _ _ member => ?_⟩
    cases List.mem_singleton.mp member
  · rintro _ after ⟨_, _, rfl⟩
    exact clears

theorem free_adds (terms : Terms) (block : Address) :
    Operation.Keeps (Adds fun access : Access σ => ∀ arguments found,
      access = .call "opa_free" arguments found → arguments = [block.toWord])
      (free terms block) := by
  unfold free
  split
  · exact Operation.keeps_pure _
  · refine callVoid_keeps (call_adds fun found arguments found' same => ?_)
    rw [← (Access.call.inj same).2.1]
    simp

end Region

section Loading

variable {guest : Instance σ} {raw : Bytes}

/-- Writing a document loads its text, and releases at most the block of the
text. -/
theorem Exchange.writeEncoded_loads (terms : Region.Terms) (nonempty : raw ≠ [])
    (guest : Instance σ) :
    Operation.Ends (Exchange.writeEncoded terms raw) guest
      (fun document after => Loads raw document guest after ∧ Clears raw guest after)
      (fun _ after => Clears raw guest after) := by
  rw [Exchange.writeEncoded, Operation.ends_bind]
  refine (Region.place_placed terms nonempty guest).mono ?_ fun _ _ clears => clears
  rintro block placed ⟨laterPlaced, clearsPlaced, older, written, earlier⟩
  rw [Operation.ends_bind]
  refine ((callWord_keeps (tracks_later.plain "opa_json_parse" _) placed).and
    ((callWord_keeps (call_clears raw (by decide)) placed).and
      (callWord_entered placed _ _))).mono ?_ fun _ _ both =>
        IsTrans.trans _ _ _ clearsPlaced both.2.1
  rintro word parsed ⟨_, clearsParsed, entered, returned⟩
  have words : ([(block.offset : Int), (raw.length : Int)]).map UInt32.ofInt =
      [block.toWord, UInt32.ofInt raw.length] := by simp
  rw [words] at entered returned
  have history := entered.history_eq.trans (congrArg _ written)
  have writes : Writes block raw guest parsed := by
    rcases earlier with ⟨first, rfl⟩
    exact ⟨.call _ _ _ :: .write block raw :: first, history, by simp⟩
  rw [Operation.ends_bind]
  have released : ∀ after, Adds (fun access => ∀ arguments found,
      access = .call "opa_free" arguments found → arguments = [block.toWord]) parsed after →
      Clears raw guest after := fun after adds =>
    (show Clears raw guest parsed from IsTrans.trans _ _ _ clearsPlaced clearsParsed).release writes
      adds
  refine ((tracks_later.free terms block parsed).and
    (Region.free_adds terms block parsed)).mono ?_ fun _ after both => released after both.2
  rintro _ after ⟨laterAfter, adds⟩
  by_cases null : word = 0
  · rw [if_pos null]
    exact released after adds
  · rw [if_neg null]
    refine ⟨Loads.later ⟨⟨[], block, placed.snapshot, older, history, earlier, ?_⟩, ?_⟩ laterAfter,
      released after adds⟩
    · rw [Address.toWord_ofWord, ← returned]
      unfold callEnding Module.ending
      rw [laterPlaced.module_eq, laterPlaced.handlers_eq]
      rfl
    · rwa [Address.toWord_ofWord]

/-- Installing a dataset loads its text.  If there is no old one, then at most
the block of that text is released. -/
theorem Discipline.installData_loads (discipline : Discipline) (terms : Region.Terms)
    (checkpoints : Checkpoints) (previous : Option Address) (nonempty : raw ≠ [])
    (guest : Instance σ) :
    Operation.Ends (discipline.installData terms checkpoints previous raw) guest
      (fun installed after => Loads raw installed.1 guest after ∧
        (previous = none → Clears raw guest after))
      (fun _ after => previous = none → Clears raw guest after) := by
  cases discipline with
  | explicitFree =>
    have written : ∀ middle : Instance σ, Operation.Ends (do
        return (← Exchange.writeEncoded terms raw, checkpoints)) middle
        (fun installed after => Loads raw installed.1 middle after ∧ Clears raw middle after)
        (fun _ after => Clears raw middle after) := by
      intro middle
      rw [Operation.ends_bind]
      exact Exchange.writeEncoded_loads terms nonempty middle
    cases previous with
    | none =>
      exact (written guest).mono (fun _ _ both => ⟨both.1, fun _ => both.2⟩)
        (fun _ _ clears _ => clears)
    | some address =>
      unfold installData
      rw [Operation.ends_bind]
      refine (tracks_later.free terms address guest).mono ?_ fun _ _ _ impossible =>
        nomatch impossible
      intro _ freed later
      -- The old block was freed in between, so nothing is claimed about what was cleared.
      exact (written freed).mono (fun _ _ both => ⟨both.1.since later, nofun⟩) fun _ _ _ => nofun
  | heapRewind =>
    unfold installData
    rw [Operation.ends_bind]
    refine ((tracks_later.setHeapPointer checkpoints.base guest).and
      (callVoid_keeps (call_clears raw (by decide)) guest)).mono ?_ fun _ _ both _ => both.2
    rintro _ moved ⟨later, clears⟩
    rw [Operation.ends_bind]
    refine (Exchange.writeEncoded_loads terms nonempty moved).mono ?_ fun _ _ clearsAfter _ =>
      IsTrans.trans _ _ _ clears clearsAfter
    rintro document written ⟨loads, clearsWritten⟩
    rw [Operation.ends_bind]
    refine ((tracks_later.heapPointer written).and
      (callAddress_keeps (call_clears raw (by decide)) written)).mono ?_ ?_
    · rintro data after ⟨laterAfter, clearsAfter⟩
      exact ⟨(loads.since later).later laterAfter, fun _ =>
        IsTrans.trans _ _ _ clears (IsTrans.trans _ _ _ clearsWritten clearsAfter)⟩
    · rintro _ after ⟨_, clearsAfter⟩ _
      exact IsTrans.trans _ _ _ clears (IsTrans.trans _ _ _ clearsWritten clearsAfter)

end Loading

/-- The dataset that is given to the guest here, if one is, is this one. -/
def Access.Takes (data : Address) : Access σ → Prop
  | .call name arguments _ =>
    (name = "opa_eval_ctx_set_data" → arguments[1]? = some data.toWord) ∧
      (name = "opa_eval" → arguments[2]? = some data.toWord)
  | .write _ _ => True

/-- Only the exports of the policy are given datasets. -/
theorem Access.takes_of_plain {data : Address} {name : String} {arguments : List UInt32}
    {found : Snapshot σ} (plain : name ∉ policyExports) :
    (Access.call name arguments found).Takes data := by
  constructor
  · rintro rfl
    exact absurd (by decide) plain
  · rintro rfl
    exact absurd (by decide) plain

namespace Host

variable {host : Host σ}

/-- The dataset is not touched, because the host may not be used, or is busy, or
the value has no text. -/
def Declines (host : Host σ) (value : Value) : Prop :=
  host.leak.isSome = true ∨ host.guest.trapped = true ∨ host.busy = true ∨
    (Payload.encode value).isOk = false

instance (host : Host σ) (value : Value) : Decidable (host.Declines value) :=
  inferInstanceAs (Decidable (_ ∨ _ ∨ _ ∨ _))

/-- The host began to replace the dataset. -/
structure Begins (host after : Host σ) (value : Value) (raw : Bytes) : Prop where
  encoded : Payload.encode value = .ok raw
  accepts : ¬ host.Declines value
  busy_eq : after.busy = false
  contexts_eq : after.contexts = host.contexts
  clears : host.dataset = none → Clears raw host.guest after.guest

/-- A host that gave its lock back is the same but for the record of it. -/
theorem SameBut.relocked (free : host.busy = false) (lockings : List Locking) :
    SameBut host { host with busy := false, lockings } := by
  cases host
  cases free
  exact ⟨lockings, rfl⟩

theorem checkUsable_cases {good : Unit → Host σ → Prop} {bad : Fault → Host σ → Prop}
    (returned : host.leak = none → host.guest.trapped = false → good () host)
    (failed : ∀ fault, host.leak.isSome = true ∨ host.guest.trapped = true → bad fault host) :
    Operation.Ends checkUsable host good bad := by
  unfold Operation.Ends checkUsable
  cases leak : host.leak with
  | some r => exact failed _ (Or.inl (by rw [leak]; rfl))
  | none =>
    dsimp only
    by_cases lost : host.guest.trapped = true
    · rw [if_pos lost]
      exact failed _ (Or.inr lost)
    · rw [if_neg lost]
      exact returned leak (Bool.eq_false_iff.mpr lost)

/-- All that an attempt to replace the dataset can come to. -/
theorem setData_cases (host : Host σ) (value : Value) :
    Operation.Ends (perform (.setData value)) host
      (fun _ after => ∃ raw document, host.Begins after value raw ∧
        Loads raw document host.guest after.guest ∧ after.dataset = some document)
      (fun _ after => (host.Declines value ∧ SameBut host after) ∨
        ∃ raw, host.Begins after value raw ∧ after.dataset = none) := by
  unfold perform setData
  rw [Operation.ends_bind, Operation.ends_bind]
  refine checkUsable_cases ?_ fun _ unusable =>
    Or.inl ⟨unusable.imp_right Or.inl, host.lockings, rfl⟩
  intro sound usable
  cases free : host.busy with
  | true =>
    rw [exclusively_busy free]
    exact Or.inl ⟨Or.inr (Or.inr (Or.inl free)), host.lockings, rfl⟩
  | false =>
    refine exclusively_free free ?_
    rw [Operation.ends_bind, Operation.ends_liftReport]
    cases encoded : Payload.encode value with
    | error r =>
      exact ⟨rfl, Or.inl ⟨Or.inr (Or.inr (Or.inr (by rw [encoded]; rfl))),
        SameBut.relocked free _⟩⟩
    | ok raw =>
      have accepts : ¬ host.Declines value := by
        rintro (leaked | lost | busy | unserializable)
        · rw [sound] at leaked
          cases leaked
        · cases usable.symm.trans lost
        · cases free.symm.trans busy
        · rw [encoded] at unserializable
          cases unserializable
      dsimp only
      rw [Operation.ends_bind, Operation.ends_get, Operation.ends_bind, Operation.ends_modify,
        Operation.ends_bind, onGuest_ends]
      refine (Discipline.installData_loads _ _ _ host.dataset
        (Payload.encode_ne_nil value raw encoded) host.guest).mono ?_ ?_
      · rintro installed after ⟨loads, clears⟩
        rw [Operation.ends_bind, Operation.ends_modify]
        refine log_ends _ _ _ _ _ _ fun journal => ?_
        exact ⟨rfl, raw, installed.1, ⟨encoded, accepts, rfl, rfl, clears⟩,
          loads.later (tracks_later.logged after journal), rfl⟩
      · intro _ after clears
        exact ⟨rfl, Or.inr ⟨raw, ⟨encoded, accepts, rfl, rfl, clears⟩, rfl⟩⟩

/-!
### With a dataset
-/

/-- A use of a host with a dataset gives the guest no other dataset. -/
theorem perform_takes {data : Address} (dataset : host.dataset = some data) (use : Use)
    (other : ∀ value, use ≠ .setData value) :
    (Operation.outcome (perform use) host).2.dataset = some data ∧
      Adds (Access.Takes data) host.guest (Operation.outcome (perform use) host).2.guest := by
  let kind (given : Option Address) (access : Access σ) : Prop :=
    ∀ address ∈ given, access.Takes address
  have tracks : ∀ given, Tracks (fun name arguments => ∀ found,
      kind given (.call name arguments found)) (Adds (kind given)) := fun given =>
    tracks_adds (kind given) (fun _ _ _ _ => trivial) fun name arguments found plain _ _ =>
      Access.takes_of_plain plain
  have grants : Grants fun given name arguments => ∀ found : Snapshot σ,
      kind given (.call name arguments found) := by
    refine ⟨?_, fun _ _ _ _ _ => ⟨nofun, nofun⟩, ?_⟩
    · rintro data context found _ ⟨⟩
      exact ⟨fun _ => rfl, nofun⟩
    · rintro data _ _ _ _ _ _ found _ ⟨⟩
      exact ⟨nofun, fun _ => rfl⟩
  have kept := (perform_kept tracks grants use other).outcome host
  refine ⟨kept.dataset_eq.trans dataset, kept.guest.mono fun access held => ?_⟩
  exact held data dataset

/-- So does a run, until another dataset is installed. -/
theorem run_takes {data : Address} (dataset : host.dataset = some data) (uses : List Use)
    (other : ∀ value, Use.setData value ∉ uses) :
    (run uses host).2.dataset = some data ∧
      Adds (Access.Takes data) host.guest (run uses host).2.guest := by
  induction uses generalizing host with
  | nil => exact ⟨dataset, refl host.guest⟩
  | cons use rest inductionHypothesis =>
    rcases perform_takes dataset use fun value same => other value (by rw [same]; simp) with
      ⟨still, taken⟩
    rcases inductionHypothesis still fun value member => other value (List.mem_cons_of_mem _ member)
      with ⟨last, takenLast⟩
    exact ⟨last, IsTrans.trans _ _ _ taken takenLast⟩

/-!
### Without a dataset
-/

/-- There is no dataset, and nothing is going on. -/
structure Bare (host : Host σ) : Prop where
  dataset_eq : host.dataset = none
  busy_eq : host.busy = false
  ended : ∀ context ∈ host.contexts, context.phase = .destroyed

namespace Bare

theorem sameBut {after : Host σ} (bare : host.Bare) (same : SameBut host after) : after.Bare := by
  rcases same with ⟨lockings, rfl⟩
  exact ⟨bare.dataset_eq, bare.busy_eq, bare.ended⟩

theorem eval (bare : host.Bare) (entrypoint : String) (input : Value) (schema : Schema) :
    Operation.Ends (eval entrypoint input schema) host (fun _ _ => False)
      (fun _ after => SameBut host after) := by
  unfold Host.eval
  rw [Operation.ends_bind]
  refine checkUsable_cases (fun _ _ => ?_) fun _ _ => ⟨host.lockings, rfl⟩
  refine exclusively_free bare.busy_eq ?_
  refine (resolve_reads entrypoint).bind (fun found => ?_) fun _ =>
    ⟨rfl, SameBut.relocked bare.busy_eq _⟩
  rw [Operation.ends_bind, requireData_none _ (by exact bare.dataset_eq)]
  exact ⟨rfl, SameBut.relocked bare.busy_eq _⟩

theorem openContext (bare : host.Bare) (input : Value) :
    Operation.Ends (openContext input) host (fun _ _ => False)
      (fun _ after => SameBut host after) := by
  unfold Host.openContext
  rw [Operation.ends_bind]
  refine checkUsable_cases (fun _ _ => ?_) fun _ _ => ⟨host.lockings, rfl⟩
  rw [Operation.ends_bind, acquire_free bare.busy_eq, Operation.ends_bind, Operation.ends_onFault,
    Operation.ends_bind, requireData_none _ (by exact bare.dataset_eq), release_ends _ _ rfl]
  exact SameBut.relocked bare.busy_eq _

theorem context (bare : host.Bare) (id : ContextId) {α : Type}
    {next : Context → Operation (Host σ) α} {good : α → Host σ → Prop} {bad : Fault → Host σ → Prop}
    (unknown : bad .noSlot host)
    (ended : ∀ context : Context, context.phase = .destroyed →
      Operation.Ends (next context) host good bad) :
    Operation.Ends (context id >>= next) host good bad := by
  rw [Operation.ends_bind, context_ends]
  cases found : host.contexts[id]? with
  | none => exact unknown
  | some context => exact ended context (bare.ended context (List.mem_of_getElem? found))

/-- Whatever is done short of installing a dataset, the host stays as it is, and
nothing is evaluated. -/
theorem perform (bare : host.Bare) (use : Use) (other : ∀ value, use ≠ .setData value) :
    Operation.Ends (perform use) host
      (fun _ after => ¬ use.IsEvaluation ∧ SameBut host after)
      (fun _ after => SameBut host after) := by
  have unchanged : SameBut host host := ⟨host.lockings, rfl⟩
  unfold Host.perform
  cases use with
  | setData value => exact absurd rfl (other value)
  | eval entrypoint input schema =>
    rw [Operation.ends_bind]
    exact (bare.eval entrypoint input schema).mono (fun _ _ => False.elim) fun _ _ same => same
  | decide binding input =>
    unfold Host.decide
    rw [Operation.ends_bind, Operation.ends_bind, Operation.ends_liftReport]
    cases binding.prepareInput input with
    | error r => exact unchanged
    | ok input =>
      exact (bare.eval binding.path input binding.output).mono (fun _ _ => False.elim)
        fun _ _ same => same
  | openContext input =>
    rw [Operation.ends_bind]
    exact (bare.openContext input).mono (fun _ _ => False.elim) fun _ _ same => same
  | contextEval id entrypoint schema =>
    unfold Host.contextEval
    rw [Operation.ends_bind]
    refine bare.context id unchanged fun context ended => ?_
    rw [if_pos ended]
    exact unchanged
  | destroy id =>
    unfold Host.destroy
    rw [Operation.ends_bind]
    refine bare.context id unchanged fun context ended => ?_
    rw [if_pos ended]
    exact unchanged
  | leave id unwinding =>
    unfold teardown
    rw [Operation.ends_bind]
    refine bare.context id unchanged fun context ended => ?_
    rw [if_pos ended]
    exact ⟨nofun, unchanged⟩
  | drop id =>
    unfold Host.drop
    rw [Operation.ends_bind]
    refine bare.context id unchanged fun context ended => ?_
    rw [if_pos ended]
    exact ⟨nofun, unchanged⟩
  | entrypointId entrypoint =>
    exact (resolve_reads entrypoint).bind (fun _ => ⟨nofun, unchanged⟩) fun _ => unchanged

end Bare

/-- No dataset was installed in the course of a run. -/
def Uninstalled (uses : List Use) (outcomes : List (Except Fault Answer)) : Prop :=
  ∀ pair ∈ uses.zip outcomes, ∀ value, pair.1 = .setData value → ∃ fault, pair.2 = .error fault

theorem uninstalled_nil (outcomes : List (Except Fault Answer)) : Uninstalled [] outcomes :=
  List.forall_mem_nil _

/-- An attempt to install a dataset that fails leaves none where there is
none. -/
theorem Bare.setData (bare : host.Bare) (value : Value) (fault : Fault)
    (failed : (Operation.outcome (Host.perform (.setData value)) host).1 = .error fault) :
    (Operation.outcome (Host.perform (.setData value)) host).2.Bare := by
  rcases (setData_cases host value).outcome with ⟨_, succeeded, _⟩ |
    ⟨_, _, ⟨_, same⟩ | ⟨raw, begins, dataset⟩⟩
  · exact nomatch failed.symm.trans succeeded
  · exact bare.sameBut same
  · exact ⟨dataset, begins.busy_eq, by rw [begins.contexts_eq]; exact bare.ended⟩

theorem Bare.run (bare : host.Bare) (uses : List Use)
    (uninstalled : Uninstalled uses (Host.run uses host).1) : (Host.run uses host).2.Bare := by
  induction uses generalizing host with
  | nil => exact bare
  | cons use rest inductionHypothesis =>
    rcases List.forall_mem_cons.mp uninstalled with ⟨first, others⟩
    refine inductionHypothesis ?_ others
    by_cases installs : ∃ value, use = .setData value
    · rcases installs with ⟨value, rfl⟩
      rcases first value rfl with ⟨fault, failed⟩
      exact bare.setData value fault failed
    · rcases (bare.perform use (not_exists.mp installs)).outcome with ⟨_, _, _, same⟩ | ⟨_, _, same⟩
      · exact bare.sameBut same
      · exact bare.sameBut same

end Host

/-!
### Beginning anew
-/

/-- A dataset is installed while no context is open, and it is the document of
its text. -/
theorem Service.Step.installed {discipline : Discipline} {semantics : Semantics δ}
    {service after : Service δ} {value : Value} {answer : Host.Answer}
    (step : service.Step discipline semantics (.setData value) (.ok answer) after) :
    answer = .done ∧ service.current = none ∧ ∃ raw d, Payload.encode value = .ok raw ∧
      semantics.parses raw (some d) ∧ after = { service with data := some d } := by
  rcases step.cases with ⟨demanded, _⟩ | ⟨work, asks, does⟩
  · rcases service.demand_setData_answer value _ demanded with ⟨fault, impossible⟩
    cases impossible
  · cases asks with
    | install _ raw closed encoded =>
      cases does with
      | installed _ d accepted => exact ⟨rfl, closed, raw, d, encoded, accepted, rfl⟩

namespace Host

variable {conduct : Conduct δ} {contract : Contract σ conduct.semantics} {discipline : Discipline}
variable {short : Access σ → Prop} {host fresh : Host σ}

theorem standing_installed (honours : contract.Honours discipline short)
    (standing : Standing contract host) (equipped : host.Equipped) {value : Value} {answer : Answer}
    (installed : (Operation.outcome (perform (.setData value)) host).1 = .ok answer) :
    ∃ service service' : Service δ, contract.Matches service host ∧
      service.Step discipline conduct.semantics (.setData value) (.ok answer) service' ∧
      contract.Matches service' (Operation.outcome (perform (.setData value)) host).2 := by
  rcases standing with lost | ⟨service, same⟩
  · have done := congrArg Prod.fst (perform_lost_eq lost equipped (.setData value)).1
    exact nomatch installed.symm.trans done
  · rcases Contract.carries same (.setData value) with
      ⟨_, work, fault, demanded, _, rfl | ⟨failed, _⟩⟩ | ⟨fault, failed, _⟩ |
      ⟨_, service', step, matched⟩
    · exact nomatch service.demand_asks _ _ demanded
    · exact nomatch installed.symm.trans failed
    · exact nomatch installed.symm.trans failed
    · rw [installed, honours.discipline_eq] at step
      exact ⟨service, service', same, step, matched⟩

/-- As long as memory suffices, a host that was not used before installs
whatever dataset another host has installed, and is its twin then. -/
theorem twins_installed (honours : contract.Honours discipline short)
    (standing : Standing contract host) (equipped : host.Equipped)
    (same : contract.Matches (.unused δ fresh.entrypoints) fresh)
    (entrypoints_eq : host.entrypoints = fresh.entrypoints) {value : Value} {answer : Answer}
    (installed : (Operation.outcome (perform (.setData value)) host).1 = .ok answer)
    (ample : Ample short [.setData value] fresh) :
    (Operation.outcome (perform (.setData value)) fresh).1 = .ok .done ∧
      Twins contract host.contexts.length (Operation.outcome (perform (.setData value)) host).2
        (Operation.outcome (perform (.setData value)) fresh).2 := by
  rcases standing_installed honours standing equipped installed with
    ⟨service, service', matched, step, standing'⟩
  rcases step.installed with ⟨_, closed, raw, d, encoded, accepted, rfl⟩
  rcases honest honours same (.setData value) ample.2.1 with
    ⟨work, fault, demanded, fells, _⟩ | ⟨loaded, freshStep, freshMatched⟩
  · cases Service.demand_asks _ _ _ demanded
    cases fells
  have demanded : (Service.unused δ fresh.entrypoints).demand (.setData value) =
      .work (.install raw) := by
    simp [Service.demand, Service.unused, encoded]
  unfold Service.Step at freshStep
  rw [demanded] at freshStep
  generalize outcome_eq : (Operation.outcome (perform (.setData value)) fresh).1 = outcome
    at freshStep
  cases freshStep with
  | installed _ d' accepted' =>
    cases (show some d = _ from accepted).trans (Eq.symm accepted')
    have holds := matched.holds
    unfold Contract.Holds at holds
    rw [closed] at holds
    have ended : service.ended = host.contexts.length := by
      have length := congrArg List.length holds.2.1
      rw [List.length_map, List.length_replicate] at length
      exact length.symm
    refine ⟨rfl, .serving { service with data := some d }
      { Service.unused δ fresh.entrypoints with data := some d } ⟨?_, rfl, ended, ?_⟩ standing'
      freshMatched⟩
    · exact matched.entrypoints_eq.symm.trans entrypoints_eq
    · exact congrArg (Option.map Opening.documents) closed
  | discarded _ fault reason =>
    rcases reason with shortage | rejected
    · exact absurd shortage (ample.1 fault outcome_eq)
    · cases (show some d = _ from accepted).trans (Eq.symm rejected.1)

/-- What an attempt to replace the dataset means for whoever makes it. -/
structure Replaced (host : Host σ) (value : Value) (outcome : Except Fault Answer)
    (after : Host σ) : Prop where
  /-- The new dataset is what the guest made of the text of the value, and until
  there is another one the guest is given nothing else. -/
  installed : ∀ answer, outcome = .ok answer → ∃ raw document, Payload.encode value = .ok raw ∧
    Loads raw document host.guest after.guest ∧
    ∀ later, (∀ next, Use.setData next ∉ later) →
      (run later after).2.dataset = some document ∧
        Adds (Access.Takes document) after.guest (run later after).2.guest
  /-- A host that does not begin is as it was, and goes on from there. -/
  declined : host.Declines value → (∃ fault, outcome = .error fault) ∧ SameBut host after ∧
    ∀ later, (run later after).1 = (run later host).1
  /-- A host that begins and fails has no dataset until one is installed.  It
  evaluates nothing meanwhile, and has nothing to release then. -/
  discarded : ∀ fault, outcome = .error fault → ¬ host.Declines value →
    ∀ later, Uninstalled later (run later after).1 →
      (run later after).2.hasData = false ∧
      (∀ use : Use, use.IsEvaluation →
        (∃ fault, (Operation.outcome (perform use) (run later after).2).1 = .error fault) ∧
        (Operation.outcome (perform use) (run later after).2).2.guest =
          (run later after).2.guest) ∧
      ∀ next raw, Payload.encode next = .ok raw →
        Clears raw (run later after).2.guest
          (Operation.outcome (perform (.setData next)) (run later after).2).2.guest

theorem Bare.evaluation (bare : host.Bare) {use : Use} (evaluation : use.IsEvaluation) :
    (∃ fault, (Operation.outcome (Host.perform use) host).1 = .error fault) ∧
      (Operation.outcome (Host.perform use) host).2.guest = host.guest := by
  have other : ∀ value, use ≠ .setData value := by
    rintro value rfl
    cases evaluation
  rcases (bare.perform use other).outcome with ⟨_, _, none, _⟩ | ⟨fault, failed, _, same⟩
  · exact absurd evaluation none
  · rw [same]
    exact ⟨⟨fault, failed⟩, rfl⟩

/-- Where there is no dataset, none is released to install one. -/
theorem Bare.clears (bare : host.Bare) {value : Value} {raw : Bytes}
    (encoded : Payload.encode value = .ok raw) :
    Clears raw host.guest (Operation.outcome (Host.perform (.setData value)) host).2.guest := by
  have begun : ∀ {after : Host σ} {raw' : Bytes}, host.Begins after value raw' →
      Clears raw host.guest after.guest := by
    intro after raw' begins
    cases encoded.symm.trans begins.encoded
    exact begins.clears bare.dataset_eq
  rcases (setData_cases host value).outcome with ⟨_, _, _, _, begins, _⟩ |
    ⟨_, _, ⟨_, _, same⟩ | ⟨_, begins, _⟩⟩
  · exact begun begins
  · rw [same]
    exact refl host.guest
  · exact begun begins

/-- Any attempt to replace the dataset of a host that ends no context twice. -/
theorem replaced (exclusive : host.Exclusive) (value : Value) :
    host.Replaced value (Operation.outcome (perform (.setData value)) host).1
      (Operation.outcome (perform (.setData value)) host).2 := by
  rcases (setData_cases host value).outcome with
    ⟨_, outcome, raw, document, begins, loads, dataset⟩ |
    ⟨fault, outcome, ⟨declines, same⟩ | ⟨raw, begins, dataset⟩⟩
  · refine ⟨fun _ _ => ⟨raw, document, begins.encoded, loads, run_takes dataset⟩,
      fun declines => absurd declines begins.accepts, fun _ failed => ?_⟩
    exact nomatch failed.symm.trans outcome
  · refine ⟨fun _ returned => (nomatch returned.symm.trans outcome),
      fun _ => ⟨⟨fault, outcome⟩, same, same.run⟩, fun _ _ accepts => absurd declines accepts⟩
  · refine ⟨fun _ returned => (nomatch returned.symm.trans outcome),
      fun declines => absurd declines begins.accepts, fun _ _ _ later uninstalled => ?_⟩
    have free : host.busy = false := by
      cases busy : host.busy with
      | false => rfl
      | true => exact absurd (Or.inr (Or.inr (Or.inl busy))) begins.accepts
    have none : host.openContexts = [] := by
      have count := exclusive.open_count
      rw [free] at count
      exact List.length_eq_zero_iff.mp count
    have bare : (Operation.outcome (perform (.setData value)) host).2.Bare := by
      refine ⟨dataset, begins.busy_eq, fun context member => ?_⟩
      rw [begins.contexts_eq] at member
      simpa using List.filter_eq_nil_iff.mp none context member
    have still := bare.run later uninstalled
    refine ⟨?_, fun use evaluation => still.evaluation evaluation,
      fun next raw encoded => still.clears encoded⟩
    unfold hasData
    rw [still.dataset_eq]
    rfl

/-- Whatever was done with a host before, replacing its dataset is all or
nothing.  The new dataset is in place; or nothing has changed; or there is no
dataset, and nothing is evaluated, until one is installed.  A guest that follows
a policy which goes by documents alone then answers as if nothing but that
dataset had ever been installed, as long as memory suffices, but for how
contexts are numbered, and for the addresses of texts without a terminator. -/
theorem dataset_replaced {module : Module σ} {builder : Builder} {journal journal' : Journal}
    {host : Host σ} (built : builder.instantiate module journal = .ok host journal')
    (before : List Use) (value : Value) :
    let now := (run before host).2
    let attempt := Operation.outcome (perform (.setData value)) now
    now.Replaced value attempt.1 attempt.2 ∧
      ∀ {δ : Type} (conduct : Conduct δ) (short : Access σ → Prop),
        Obeys module host.guest.handlers conduct short (.ofMinor host.minor) →
        ∀ answer later, attempt.1 = .ok answer →
          Ample short (later.map (Use.shift now.contexts.length)) attempt.2 →
          Ample short (.setData value :: later) host →
          ∃ outcomes, (run (.setData value :: later) host).1 = .ok .done :: outcomes ∧
            List.Forall₂ Alike (run (later.map (Use.shift now.contexts.length)) attempt.2).1
              (outcomes.map (shifted now.contexts.length)) := by
  intro now attempt
  rcases Builder.instantiate_equips built with ⟨unused, equipped, module_eq, _⟩
  refine ⟨replaced (unused.exclusive.run before) value, ?_⟩
  intro δ conduct short obeys answer later installed ample ample'
  rcases obeys.matches_built built with ⟨contract, honours, same⟩
  have lives := run_lives tracks_later before host
  have equippedHost : host.Equipped := by
    unfold Equipped
    rwa [module_eq]
  have equippedNow : now.Equipped := lives.equips equippedHost
  rcases twins_installed honours (Standing.run honours (Or.inr ⟨_, same⟩) before) equippedNow same
    lives.entrypoints_eq installed ⟨ample'.1, ample'.2.1, trivial⟩ with ⟨loaded, twins⟩
  refine ⟨_, congrArg (· :: _) loaded, ?_⟩
  exact twins.run honours (equippedNow.perform _) (equippedHost.perform _) later ample ample'.2.2

end Host

/-- The echo of everything but null, which it does not parse. -/
def Rules.picky : Rules Bytes :=
  { echo with parse := fun raw => if raw = Utf8.encode "null" then none else some raw }

def Shelf.picky (minor : Int) : Module (Shelf Bytes) := toModule .picky echoTable minor

namespace Host

/-- Attempts to replace the dataset of a picky echo: with what has no text, with
what it does not parse, and after that with what it does parse. -/
theorem dataset_replaced_picky :
    Builder.Builds {} (Shelf.picky 0) fun host =>
      let before := [.setData (.bool true), .openContext (.bool true), .destroy 0]
      let later := [.openContext (.bool false), .contextEval 0 "echo" .any, .destroy 0]
      SameBut (run before host).2 (run (before ++ [.setData (.foreign "Opaque")]) host).2 ∧
        (run (before ++ [.setData .null]) host).2.hasData = false ∧
        (∃ document, (run (before ++ [.setData .null, .setData (.bool false)]) host).2.dataset =
          some document) ∧
        ∃ outcomes, (run (.setData (.bool false) :: later) host).1 = .ok .done :: outcomes ∧
          List.Forall₂ Alike (run (later.map (Use.shift 1))
            (run (before ++ [.setData .null, .setData (.bool false)]) host).2).1
            (outcomes.map (shifted 1)) := by
  have begun : Builder.Builds {} (Shelf.picky 0) fun host =>
      let before := [.setData (.bool true), .openContext (.bool true), .destroy 0]
      let later := [.openContext (.bool false), .contextEval 0 "echo" .any, .destroy 0]
      let short := (Shelf.picky 0).Stuck host.guest.handlers
      (run before host).2.Declines (.foreign "Opaque") ∧
        ¬ (run before host).2.Declines .null ∧
        (∃ fault, (Operation.outcome (perform (.setData .null)) (run before host).2).1 =
          .error fault) ∧
        (∃ answer, (Operation.outcome (perform (.setData (.bool false)))
          (run (before ++ [.setData .null]) host).2).1 = .ok answer) ∧
        (run (before ++ [.setData .null]) host).2.contexts.length = 1 ∧
        Ample short (later.map (Use.shift 1))
          (run (before ++ [.setData .null, .setData (.bool false)]) host).2 ∧
        Ample short (.setData (.bool false) :: later) host := by
    decide +kernel
  rcases begun with ⟨host, journal, built, declines, accepts, ⟨fault, failed⟩, ⟨answer, installed⟩,
    count, ample, ample'⟩
  have third := dataset_replaced built
    [.setData (.bool true), .openContext (.bool true), .destroy 0, .setData .null] (.bool false)
  rcases third.1.installed answer installed with ⟨_, document, _, _, lasts⟩
  have anew := third.2 _ _ (Shelf.obeys ..) answer
    [.openContext (.bool false), .contextEval 0 "echo" .any, .destroy 0] installed
  rw [show (run [.setData (.bool true), .openContext (.bool true), .destroy 0, .setData .null]
    host).2.contexts.length = 1 from count] at anew
  refine ⟨host, journal, built, ?_, ?_, ⟨document, (lasts [] nofun).1⟩, anew ample ample'⟩
  · exact ((dataset_replaced built _ (.foreign "Opaque")).1.declined declines).2.1
  · exact ((dataset_replaced built _ .null).1.discarded fault failed accepts []
      (uninstalled_nil _)).1

end Host

/-- The standard policy, whose guest rejects the third text that it is to parse,
and may misbehave otherwise. -/
def Policy.fussy (heapBase : UInt32) (overrides : List Override) : Policy :=
  { standard with heapBase, overrides := ⟨"opa_json_parse", 3, [.result 0]⟩ :: overrides }

/-- What else was done with a host before may show after all.  Memory that a
guest does not take back is missing later, and a guest may count. -/
theorem Host.dataset_remembered :
    let text := .text (String.ofList (List.replicate 100 'a'))
    let evaluation := .eval "echo/input" .null .any
    (Builder.Builds { maxPages := some 2 } (Policy.fussy 130200 []).toModule fun host =>
      (run [.setData text, .setData text, .setData text, .setData .null, evaluation] host).1.map
          Except.isOk = [true, true, false, true, false] ∧
        (run [.setData .null, evaluation] host).1.map Except.isOk = [true, true]) ∧
    Builder.Builds {} (Policy.fussy 4096 [⟨"eval", 2, [.trap]⟩]).toModule fun host =>
      (run [.setData text, evaluation, .setData text, .setData .null, evaluation] host).1.map
          Except.isOk = [true, true, false, true, false] ∧
        (run [.setData .null, evaluation] host).1.map Except.isOk = [true, true] := by
  decide +kernel

end PolicyHost
