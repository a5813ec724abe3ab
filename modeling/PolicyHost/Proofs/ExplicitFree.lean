import PolicyHost.Proofs.Ledger

namespace PolicyHost
namespace ExplicitFree

/-!
# The explicit discipline, operation by operation

What each operation of the discipline does to the ledger, when it returns and
when it fails.  An evaluation enters an input, a record and a result, and
strikes all three out again on every path; an open context leaves two entries
in front of the dataset's.  The same theorems say what an evaluation comes to,
as far as the guest's meaning tells.
-/

variable {σ δ : Type} {module : Module σ} {accounts : Accounts module}
variable {semantics : Semantics δ} {meaning : Meaning accounts semantics}
variable {base : Finset UInt32} {ledger rest : List (UInt32 × Object δ)} {guest : Instance σ}
variable {block : UInt32} {object object' : Object δ}

theorem change_ends (equipped : Discipline.explicitFree.Equips module) (request : Request)
    (arguments : List Int) (words : arguments.map UInt32.ofInt = request.arguments)
    (tally : Tally meaning base ((block, object) :: rest) guest)
    (allowed : accounts.Allows request guest.snapshot) (touched : request.touched = some block)
    (same : ∀ answer after, accounts.Effect guest.snapshot answer after request →
      accounts.live after = accounts.live guest.snapshot)
    (held : ∀ answer after, request.Answered module guest.snapshot answer after →
      meaning.holds after block object') :
    Operation.Ends (Instance.callVoid request.name arguments) guest
      (fun _ after => Tally meaning base ((block, object') :: rest) after)
      (fun _ after => after.trapped = true) := by
  refine (tally.call_ends equipped request arguments words allowed).mono ?_
    (fun _ _ closed => closed)
  rintro _ after ⟨answer, done, effect⟩
  exact tally.changes allowed done touched (same _ _ effect) (held _ _ (tally.answered done))

/-- The record in front is listed for a request that takes it alone. -/
theorem record_listed {context : UInt32} {slots : Slots} (rest : List (UInt32 × Object δ)) :
    ∀ use ∈ [(context, Shape.record)], ∃ object,
      (use.1, object) ∈ (context, Object.record slots) :: rest ∧ object.shape = use.2 :=
  List.forall_mem_singleton.mpr ⟨_, List.mem_cons_self .., rfl⟩

theorem bindContext_ends (equipped : Discipline.explicitFree.Equips module)
    (terms : Region.Terms) (releases : terms.rewinds = false) (data : Address) (y : δ)
    (input : Value) (raw : Bytes) (encoded : Payload.encode input = .ok raw)
    (tally : Tally meaning base ledger guest)
    (entered : (data.toWord, Object.document y) ∈ ledger) :
    Operation.Ends (Discipline.bindContext terms data input) guest
      (fun handle after => ∃ x, semantics.parses raw (some x) ∧
        Tally meaning base
          ((handle.context.toWord,
              .record ⟨some handle.input.toWord, some data.toWord, none⟩) ::
            (handle.input.toWord, .document x) :: ledger) after)
      (Fails meaning ledger fun fault after =>
        semantics.Rejects raw fault ∧ Tally meaning base ledger after) := by
  rw [Discipline.bindContext, Operation.ends_bind, Exchange.writeValue, Operation.ends_bind,
    Operation.ends_liftReport, encoded]
  refine (writeEncoded_ends equipped terms releases raw (Payload.encode_ne_nil input raw encoded)
    tally).mono ?_ (fun _ _ failed => failed)
  rintro document written ⟨x, accepted, tally⟩
  rw [Operation.ends_bind]
  refine (allocate_ends equipped .newContext [] rfl tally
    (accounts.allows_unused _ _ rfl rfl rfl) rfl rfl (.record {})
    (fun _ _ effect => effect)
    (fun _ _ answered _ => meaning.opens _ _ _ tally.sound answered)).mono ?_
    (fun _ _ closed => Or.inl closed)
  rintro context opened ⟨_, tally⟩
  rw [Operation.ends_bind]
  have listed : ∀ (slots : Slots) (d : Address) (z : δ),
      (d.toWord, Object.document z) ∈ (document.toWord, Object.document x) :: ledger →
      ∀ use ∈ [(context.toWord, Shape.record), (d.toWord, Shape.document)],
        ∃ object, (use.1, object) ∈ (context.toWord, Object.record slots) ::
          (document.toWord, .document x) :: ledger ∧ object.shape = use.2 := by
    intro slots d z member use passed
    rcases List.mem_cons.mp passed with rfl | passed
    · exact ⟨.record slots, List.mem_cons_self .., rfl⟩
    · rw [List.mem_singleton.mp passed]
      exact ⟨_, List.mem_cons_of_mem _ member, rfl⟩
  have inputAllowed : accounts.Allows (.setInput context.toWord document.toWord) opened.snapshot :=
    tally.allows _ rfl rfl
      (listed _ document x (List.mem_cons_self ..))
  refine (change_ends equipped (.setInput context.toWord document.toWord)
    [context.offset, document.offset] (by simp; rfl) tally inputAllowed rfl
    (fun _ _ effect => effect) (fun _ _ answered => meaning.setsInput _ _ _ _ _ _ tally.sound
      inputAllowed answered (tally.holds _ (List.mem_cons_self ..)))).mono ?_
    (fun _ _ closed => Or.inl closed)
  intro _ bound tally
  rw [Operation.ends_bind]
  have dataAllowed : accounts.Allows (.setData context.toWord data.toWord) bound.snapshot :=
    tally.allows _ rfl rfl
      (listed _ data y (List.mem_cons_of_mem _ entered))
  refine (change_ends equipped (.setData context.toWord data.toWord)
    [context.offset, data.offset] (by simp; rfl) tally dataAllowed rfl
    (fun _ _ effect => effect) (fun _ _ answered => meaning.setsData _ _ _ _ _ _ tally.sound
      dataAllowed answered (tally.holds _ (List.mem_cons_self ..)))).mono ?_
    (fun _ _ closed => Or.inl closed)
  intro _ after tally
  exact ⟨x, accepted, tally⟩

theorem setEntrypoint_ends (equipped : Discipline.explicitFree.Equips module) (context : Address)
    (entrypoint : Int) (slots : Slots)
    (tally : Tally meaning base ((context.toWord, .record slots) :: rest) guest) :
    Operation.Ends
      (Instance.callVoid "opa_eval_ctx_set_entrypoint" [context.offset, entrypoint]) guest
      (fun _ after => Tally meaning base ((context.toWord,
        .record { slots with entrypoint := some (UInt32.ofInt entrypoint) }) :: rest) after)
      (fun _ after => after.trapped = true) := by
  have allowed : accounts.Allows
      (.setEntrypoint context.toWord (UInt32.ofInt entrypoint)) guest.snapshot :=
    tally.allows _ rfl rfl (record_listed rest)
  exact change_ends equipped (.setEntrypoint context.toWord (UInt32.ofInt entrypoint))
    [context.offset, entrypoint] (by simp; rfl) tally allowed rfl
    (fun _ _ effect => effect) (fun _ _ answered => meaning.setsEntrypoint _ _ _ _ _ _ tally.sound
      allowed answered (tally.holds _ (List.mem_cons_self ..)))

theorem runContext_ends (equipped : Discipline.explicitFree.Equips module) (handle : Handle)
    (entrypoint : Int) (input data : UInt32) (old : Option UInt32) (x y : δ)
    (tally : Tally meaning base
      ((handle.context.toWord, .record ⟨some input, some data, old⟩) :: rest) guest)
    (inputListed : (input, Object.document x) ∈ rest)
    (dataListed : (data, Object.document y) ∈ rest) :
    Operation.Ends (Discipline.runContext handle entrypoint) guest
      (fun result after => ∃ set,
        semantics.answers (UInt32.ofInt entrypoint) x y set ∧
          Tally meaning base
            ((result.toWord, .document set) ::
              (handle.context.toWord,
                .record ⟨some input, some data, some (UInt32.ofInt entrypoint)⟩) :: rest) after)
      (fun _ after => after.trapped = true) := by
  rw [Discipline.runContext, Operation.ends_bind]
  refine (setEntrypoint_ends equipped handle.context entrypoint _ tally).mono ?_
    (fun _ _ closed => closed)
  intro _ chosen tally
  rw [Operation.ends_bind]
  have allowed : accounts.Allows (.run handle.context.toWord) chosen.snapshot :=
    tally.allows _ rfl rfl (record_listed rest)
  refine (tally.call_ends equipped (.run handle.context.toWord) [handle.context.offset]
    (by simp; rfl) allowed).mono ?_ (fun _ _ closed => closed)
  rintro _ evaluated ⟨answer, done, gained⟩
  have ran := meaning.runs _ input data _ x y _ _ _ tally.sound allowed (tally.answered done)
    (tally.holds _ (List.mem_cons_self ..))
    (tally.live _ (List.mem_cons_of_mem _ inputListed))
    (tally.holds _ (List.mem_cons_of_mem _ inputListed))
    (tally.live _ (List.mem_cons_of_mem _ dataListed))
    (tally.holds _ (List.mem_cons_of_mem _ dataListed))
  rcases ran with ⟨record, set, answered, held⟩
  have entered := tally.runs allowed done rfl gained held record
  have allowed : accounts.Allows (.result handle.context.toWord) evaluated.snapshot := by
    refine entered.allows _ rfl rfl ?_
    intro use passed
    rw [List.mem_singleton.mp passed]
    exact ⟨_, List.mem_cons_of_mem _ (List.mem_cons_self ..), rfl⟩
  refine (entered.callAddress_ends equipped (.result handle.context.toWord)
    [handle.context.offset] (by simp; rfl) allowed rfl).mono ?_ (fun _ _ closed => closed)
  rintro result after ⟨done, same, live⟩
  refine ⟨set, answered, ?_⟩
  rw [Option.some.inj same]
  exact entered.keeps allowed done rfl live

/-- An evaluation in a context leaves the ledger as it was, but for the
entrypoint in the record, and comes to what the guest's meaning says. -/
theorem contextEval_ends (equipped : Discipline.explicitFree.Equips module)
    (terms : Region.Terms) (releases : terms.rewinds = false) (handle : Handle) (path : String)
    (entrypoint : Int) (schema : Schema) (input data : UInt32) (old : Option UInt32) (x y : δ)
    (tally : Tally meaning base
      ((handle.context.toWord, .record ⟨some input, some data, old⟩) :: rest) guest)
    (inputListed : (input, Object.document x) ∈ rest)
    (dataListed : (data, Object.document y) ∈ rest) :
    Operation.Ends (Discipline.explicitFree.contextEval terms handle path entrypoint schema) guest
      (fun value after =>
        Tally meaning base
          ((handle.context.toWord,
            .record ⟨some input, some data, some (UInt32.ofInt entrypoint)⟩) :: rest) after ∧
          semantics.Judges Exchange.unread path (UInt32.ofInt entrypoint) schema x y (.ok value))
      (fun fault after => after.trapped = true ∨
        Tally meaning base
          ((handle.context.toWord,
            .record ⟨some input, some data, some (UInt32.ofInt entrypoint)⟩) :: rest) after ∧
          semantics.Judges Exchange.unread path (UInt32.ofInt entrypoint) schema x y
            (.error fault)) := by
  unfold Discipline.contextEval
  rw [Operation.ends_bind]
  refine (runContext_ends equipped handle entrypoint input data old x y tally inputListed
    dataListed).mono ?_ (fun _ _ closed => Or.inl closed)
  rintro result evaluated ⟨set, answered, tally⟩
  rw [Operation.ends_bind, Operation.ends_ensuring]
  refine (readRaw_ends equipped terms releases result set tally (List.mem_cons_self ..)).mono ?_ ?_
  · rintro raw read ⟨dumped, tally⟩
    refine (free_ends equipped terms releases result _ tally).mono ?_
      (fun _ _ closed => Or.inl closed)
    intro _ after tally
    rw [Semantics.ends_lastResult]
    have judged : semantics.Judges Exchange.unread path (UInt32.ofInt entrypoint) schema x y
        (Semantics.valueIn path schema raw) := .dumped set (some raw) _ answered dumped (.text raw)
    cases decoded : Semantics.valueIn path schema raw with
    | ok value =>
      rw [decoded] at judged
      exact ⟨tally, judged⟩
    | error fault =>
      rw [decoded] at judged
      exact Or.inr ⟨tally, judged⟩
  · rintro fault failed (closed | ⟨dumped, ⟨text, rfl⟩, tally⟩)
    · exact (Region.free_closed terms result failed closed).mono
        (fun _ _ closed => Or.inl closed) (fun _ _ closed => Or.inl closed)
    · refine (free_ends equipped terms releases result _ tally).mono ?_
        (fun _ _ closed => Or.inl closed)
      intro _ after tally
      exact Or.inr ⟨tally, .dumped set none _ answered dumped (.unterminated text)⟩

/-- Closing a context strikes out its record and its input. -/
theorem closeContext_ends (equipped : Discipline.explicitFree.Equips module)
    (terms : Region.Terms) (releases : terms.rewinds = false) (checkpoints : Checkpoints)
    (handle : Handle)
    (tally : Tally meaning base
      ((handle.context.toWord, object) :: (handle.input.toWord, object') :: rest) guest) :
    Operation.Ends (Discipline.explicitFree.closeContext terms checkpoints handle) guest
      (fun _ after => Tally meaning base rest after) (fun _ after => after.trapped = true) := by
  unfold Discipline.closeContext
  rw [Operation.ends_bind]
  refine (free_ends equipped terms releases handle.input object'
    (tally.perm (List.Perm.swap ..))).mono ?_ (fun _ _ closed => closed)
  intro _ middle tally
  exact free_ends equipped terms releases handle.context object tally

theorem closeContext_closed (terms : Region.Terms) (checkpoints : Checkpoints) (handle : Handle)
    (closed : guest.trapped = true) :
    Operation.Ends (Discipline.explicitFree.closeContext terms checkpoints handle) guest
      (fun _ after => after.trapped = true) (fun _ after => after.trapped = true) := by
  unfold Discipline.closeContext
  rw [Operation.ends_bind]
  refine (Region.free_closed terms handle.input guest closed).mono ?_ (fun _ _ closed => closed)
  intro _ middle closed
  exact Region.free_closed terms handle.context middle closed

theorem closeQuietly_ends (terms : Region.Terms) (checkpoints : Checkpoints) (handle : Handle)
    (post : Instance σ → Prop)
    (closes : Operation.Ends (Discipline.explicitFree.closeContext terms checkpoints handle) guest
      (fun _ after => post after) (fun _ after => after.trapped = true)) :
    Operation.Ends (Discipline.explicitFree.closeQuietly terms checkpoints handle) guest
      (fun _ after => after.trapped = true ∨ post after) (fun _ _ => False) := by
  rw [Discipline.closeQuietly, Operation.ends_bind, Operation.ends_attempt]
  exact closes.mono (fun _ _ held => Or.inr held) (fun _ _ closed => Or.inl closed)

/-- A single evaluation leaves the ledger as it was. -/
theorem evaluate_ends (equipped : Discipline.explicitFree.Equips module)
    (terms : Region.Terms) (releases : terms.rewinds = false) (checkpoints : Checkpoints)
    (path : String) (entrypoint : Int) (data : Address) (y : δ) (input : Value) (raw : Bytes)
    (schema : Schema) (encoded : Payload.encode input = .ok raw)
    (tally : Tally meaning base ledger guest)
    (entered : (data.toWord, Object.document y) ∈ ledger) :
    Operation.Ends
      (Discipline.explicitFree.evaluate terms checkpoints path entrypoint data input schema) guest
      (fun value after => Tally meaning base ledger after ∧
        semantics.JudgesText path (UInt32.ofInt entrypoint) schema raw y .explicitFree
          (.ok value))
      (Fails meaning ledger fun fault after => Tally meaning base ledger after ∧
        semantics.JudgesText path (UInt32.ofInt entrypoint) schema raw y .explicitFree
          (.error fault)) := by
  unfold Discipline.evaluate
  rw [Operation.ends_bind]
  refine (bindContext_ends equipped terms releases data y input raw encoded tally
    entered).mono ?_ ?_
  · rintro handle opened ⟨x, accepted, tally⟩
    rw [Operation.ends_bind, Operation.ends_onFault]
    refine (contextEval_ends equipped terms releases handle path entrypoint schema
      handle.input.toWord data.toWord none x y tally (List.mem_cons_self ..)
      (List.mem_cons_of_mem _ entered)).mono ?_ ?_
    · rintro value evaluated ⟨tally, judged⟩
      rw [Operation.ends_bind]
      refine (closeContext_ends equipped terms releases checkpoints handle tally).mono ?_
        (fun _ _ closed => Or.inl closed)
      intro _ after tally
      exact ⟨tally, .parsed _ x _ accepted judged⟩
    · rintro fault failed (closed | ⟨tally, judged⟩)
      · refine (closeQuietly_ends terms checkpoints handle _
          (closeContext_closed terms checkpoints handle closed)).mono ?_ (fun _ _ => False.elim)
        rintro _ after (closed | closed) <;> exact Or.inl closed
      · refine (closeQuietly_ends terms checkpoints handle _
          (closeContext_ends equipped terms releases checkpoints handle tally)).mono ?_
          (fun _ _ => False.elim)
        rintro _ after (closed | tally)
        · exact Or.inl closed
        · exact Or.inr (Or.inr ⟨tally, .parsed _ x _ accepted judged⟩)
  · rintro fault failed (closed | refused | ⟨rejected, tally⟩)
    · exact Or.inl closed
    · exact Or.inr (Or.inl refused)
    · exact Or.inr (Or.inr ⟨tally, .rejected fault rejected⟩)

/-- Replacing the dataset strikes out the old document and enters the new
one.  If the new one is rejected, the old one is gone all the same. -/
theorem installData_ends (equipped : Discipline.explicitFree.Equips module)
    (terms : Region.Terms) (releases : terms.rewinds = false) (checkpoints : Checkpoints)
    (previous : Option (Address × δ)) (raw : Bytes) (nonempty : raw ≠ [])
    (tally : Tally meaning base
      (previous.toList.map fun p => (p.1.toWord, Object.document p.2)) guest) :
    Operation.Ends
      (Discipline.explicitFree.installData terms checkpoints (previous.map (·.1)) raw) guest
      (fun installed after => ∃ d, semantics.parses raw (some d) ∧ installed.2 = checkpoints ∧
        Tally meaning base [(installed.1.toWord, .document d)] after)
      (Fails meaning [] fun fault after =>
        semantics.Rejects raw fault ∧ Tally meaning base [] after) := by
  have replaced : ∀ (cleared : Instance σ), Tally meaning base [] cleared →
      Operation.Ends
        (do return (← Exchange.writeEncoded terms raw, checkpoints) :
          Operation (Instance σ) (Address × Checkpoints)) cleared
        (fun installed after => ∃ d, semantics.parses raw (some d) ∧ installed.2 = checkpoints ∧
          Tally meaning base [(installed.1.toWord, .document d)] after)
        (Fails meaning [] fun fault after =>
          semantics.Rejects raw fault ∧ Tally meaning base [] after) := by
    intro cleared tally
    rw [Operation.ends_bind]
    refine (writeEncoded_ends equipped terms releases raw nonempty tally).mono ?_
      (fun _ _ failed => failed)
    rintro document after ⟨d, accepted, tally⟩
    exact ⟨d, accepted, rfl, tally⟩
  unfold Discipline.installData
  cases previous with
  | none => exact replaced guest tally
  | some old =>
    refine (Operation.ends_bind _ _ _ _ _).mpr ?_
    refine (free_ends equipped terms releases old.1 _ tally).mono ?_
      (fun _ _ closed => Or.inl closed)
    intro _ cleared tally
    exact replaced cleared tally

end ExplicitFree
end PolicyHost
