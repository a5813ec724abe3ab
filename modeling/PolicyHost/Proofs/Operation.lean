import Mathlib.Order.Defs.Unbundled
import PolicyHost.Evaluation.Operation

namespace PolicyHost
namespace Operation

/-!
# How operations end

An operation keeps the changes it made before it failed, so what it promises
has two sides: what holds of its result and of the state it leaves, and what
holds of its fault and of the state it leaves then.  `Ends` states both about
one run.  There is one rule for each combinator, so that an operation is
reasoned about along its own text, and what it calls only through what was
proved of that.
-/

variable {S α β : Type}

/-! ## Steps that may fail -/

section Steps

variable {ε : Type} {step : EStateM ε S α} {next : α → EStateM ε S β}
variable {handler : ε → EStateM ε S α} {s after : S} {trouble : ε}

theorem bind_of_ok {a : α} (done : step s = .ok a after) : (step >>= next) s = next a after := by
  change EStateM.bind step next s = _
  rw [EStateM.bind, done]

theorem bind_of_error (failed : step s = .error trouble after) :
    (step >>= next) s = .error trouble after := by
  change EStateM.bind step next s = _
  rw [EStateM.bind, failed]

theorem bind_ok {b : β} : (step >>= next) s = .ok b after ↔
    ∃ a middle, step s = .ok a middle ∧ next a middle = .ok b after := by
  cases first : step s with
  | ok a middle =>
    rw [bind_of_ok first]
    refine ⟨fun ended => ⟨a, middle, rfl, ended⟩, ?_⟩
    rintro ⟨_, _, same, ended⟩
    cases same
    exact ended
  | error trouble middle =>
    rw [bind_of_error first]
    exact ⟨nofun, nofun⟩

theorem bind_error : (step >>= next) s = .error trouble after ↔
    step s = .error trouble after ∨
      ∃ a middle, step s = .ok a middle ∧ next a middle = .error trouble after := by
  cases first : step s with
  | ok a middle =>
    rw [bind_of_ok first]
    refine ⟨fun ended => Or.inr ⟨a, middle, rfl, ended⟩, ?_⟩
    rintro (same | ⟨_, _, same, ended⟩) <;> cases same
    exact ended
  | error found middle =>
    rw [bind_of_error first]
    refine ⟨fun same => Or.inl (by cases same; rfl), ?_⟩
    rintro (same | ⟨_, _, same, _⟩) <;> cases same
    rfl

theorem caught_of_ok {a : α} (done : step s = .ok a after) :
    tryCatch step handler s = .ok a after := by
  change EStateM.tryCatch step handler s = _
  delta EStateM.tryCatch
  dsimp only
  rw [done]

/-- What is done about trouble goes on from where the trouble was. -/
theorem caught_of_error (failed : step s = .error trouble after) :
    tryCatch step handler s = handler trouble after := by
  change EStateM.tryCatch step handler s = _
  delta EStateM.tryCatch
  dsimp only
  rw [failed]
  rfl

theorem caught_ok {a : α} : tryCatch step handler s = .ok a after ↔
    step s = .ok a after ∨
      ∃ trouble middle, step s = .error trouble middle ∧ handler trouble middle = .ok a after := by
  cases first : step s with
  | ok a middle =>
    rw [caught_of_ok first]
    refine ⟨Or.inl, ?_⟩
    rintro (same | ⟨_, _, same, _⟩)
    · exact same
    · exact nomatch same
  | error trouble middle =>
    rw [caught_of_error first]
    refine ⟨fun ended => Or.inr ⟨trouble, middle, rfl, ended⟩, ?_⟩
    rintro (same | ⟨_, _, same, ended⟩) <;> cases same
    exact ended

theorem caught_error : tryCatch step handler s = .error trouble after ↔
    ∃ first middle, step s = .error first middle ∧ handler first middle = .error trouble after := by
  cases first : step s with
  | ok a middle =>
    rw [caught_of_ok first]
    exact ⟨nofun, nofun⟩
  | error found middle =>
    rw [caught_of_error first]
    refine ⟨fun ended => ⟨found, middle, rfl, ended⟩, ?_⟩
    rintro ⟨_, _, same, ended⟩
    cases same
    exact ended

end Steps

/-! ## Promises -/

/-- From the state `s`, the operation returns such that `good` holds, or fails
such that `bad` holds. -/
def Ends (operation : Operation S α) (s : S) (good : α → S → Prop) (bad : Fault → S → Prop) :
    Prop :=
  match operation s with
  | .ok a after => good a after
  | .error fault after => bad fault after

/-- What an operation answered with, and the state it left. -/
def outcome (operation : Operation S α) (s : S) : Except Fault α × S :=
  match operation s with
  | .ok a after => (.ok a, after)
  | .error fault after => (.error fault, after)

variable {operation : Operation S α} {s : S} {good : α → S → Prop} {bad : Fault → S → Prop}

instance [∀ a after, Decidable (good a after)] [∀ fault after, Decidable (bad fault after)] :
    Decidable (Ends operation s good bad) :=
  match result : operation s with
  | .ok a after => decidable_of_iff (good a after) (by unfold Ends; rw [result])
  | .error fault after => decidable_of_iff (bad fault after) (by unfold Ends; rw [result])

/-- What is proved of both sides holds of the outcome. -/
theorem Ends.outcome (ends : Ends operation s good bad) :
    (∃ a, (outcome operation s).1 = .ok a ∧ good a (outcome operation s).2) ∨
      ∃ fault, (outcome operation s).1 = .error fault ∧ bad fault (outcome operation s).2 := by
  unfold Ends at ends
  unfold Operation.outcome
  cases result : operation s with
  | ok a after => exact Or.inl ⟨a, rfl, by simpa only [result] using ends⟩
  | error fault after => exact Or.inr ⟨fault, rfl, by simpa only [result] using ends⟩

/-- What is proved of failures holds of the one that came about. -/
theorem Ends.of_failed (ends : Ends operation s good bad) {fault : Fault}
    (failed : (Operation.outcome operation s).1 = .error fault) :
    bad fault (Operation.outcome operation s).2 := by
  obtain ⟨_, returned, _⟩ | ⟨other, same, known⟩ := ends.outcome
  · exact nomatch returned.symm.trans failed
  · cases Except.error.inj (same.symm.trans failed)
    exact known

theorem ends_outcome (operation : Operation S α) (s : S) :
    Ends operation s (fun a after => Operation.outcome operation s = (.ok a, after))
      (fun fault after => Operation.outcome operation s = (.error fault, after)) := by
  unfold Ends Operation.outcome
  cases operation s <;> rfl

/-- A promise may be weakened on either side. -/
theorem Ends.mono {good' : α → S → Prop} {bad' : Fault → S → Prop}
    (ends : Ends operation s good bad) (returned : ∀ a after, good a after → good' a after)
    (failed : ∀ fault after, bad fault after → bad' fault after) :
    Ends operation s good' bad' := by
  unfold Ends at ends ⊢
  cases result : operation s with
  | ok a after =>
    rw [result] at ends
    exact returned a after ends
  | error fault after =>
    rw [result] at ends
    exact failed fault after ends

/-- Two promises about one run are one promise. -/
theorem Ends.and {good' : α → S → Prop} {bad' : Fault → S → Prop}
    (first : Ends operation s good bad) (second : Ends operation s good' bad') :
    Ends operation s (fun a after => good a after ∧ good' a after)
      (fun fault after => bad fault after ∧ bad' fault after) := by
  unfold Ends at first second ⊢
  cases result : operation s with
  | ok a after =>
    rw [result] at first second
    exact ⟨first, second⟩
  | error fault after =>
    rw [result] at first second
    exact ⟨first, second⟩

/-- An operation that promises nothing keeps its promise. -/
theorem ends_nothing (operation : Operation S α) (s : S) :
    Ends operation s (fun _ _ => True) (fun _ _ => True) := by
  unfold Ends
  cases operation s <;> trivial

theorem ends_pure (a : α) (s : S) (good : α → S → Prop) (bad : Fault → S → Prop) :
    Ends (pure a) s good bad ↔ good a s := Iff.rfl

theorem ends_bind (operation : Operation S α) (next : α → Operation S β) (s : S)
    (good : β → S → Prop) (bad : Fault → S → Prop) :
    Ends (operation >>= next) s good bad ↔
      Ends operation s (fun a after => Ends (next a) after good bad) bad := by
  change (match EStateM.bind operation next s with
    | .ok b after => good b after
    | .error fault after => bad fault after) ↔ _
  unfold EStateM.bind Ends
  cases operation s <;> rfl

section Runs

variable {next : α → Operation S β} {after : S}

theorem bind_eq_of_eq {operation' : Operation S α} (same : operation s = operation' s) :
    (operation >>= next) s = (operation' >>= next) s := by
  change EStateM.bind operation next s = EStateM.bind operation' next s
  rw [EStateM.bind, EStateM.bind, same]

theorem Ends.of_ok {a : α} {good : α → S → Prop} {bad : Fault → S → Prop}
    (ends : Ends operation s good bad) (returned : operation s = .ok a after) : good a after := by
  unfold Ends at ends
  rwa [returned] at ends

theorem Ends.of_error {fault : Fault} {good : α → S → Prop} {bad : Fault → S → Prop}
    (ends : Ends operation s good bad) (failed : operation s = .error fault after) :
    bad fault after := by
  unfold Ends at ends
  rwa [failed] at ends

theorem Ends.fails {bad : Fault → S → Prop} (ends : Ends operation s (fun _ _ => False) bad) :
    ∃ fault after, operation s = .error fault after ∧ bad fault after := by
  unfold Ends at ends
  cases result : operation s with
  | ok a after =>
    rw [result] at ends
    exact ends.elim
  | error fault after =>
    rw [result] at ends
    exact ⟨fault, after, rfl, ends⟩

theorem Ends.returns {good : α → S → Prop} (ends : Ends operation s good (fun _ _ => False)) :
    ∃ a after, operation s = .ok a after ∧ good a after := by
  unfold Ends at ends
  cases result : operation s with
  | ok a after =>
    rw [result] at ends
    exact ⟨a, after, rfl, ends⟩
  | error fault after =>
    rw [result] at ends
    exact ends.elim

theorem outcome_of_ok {a : α} (returned : operation s = .ok a after) :
    Operation.outcome operation s = (.ok a, after) := by
  unfold Operation.outcome
  rw [returned]

theorem outcome_of_error {fault : Fault} (failed : operation s = .error fault after) :
    Operation.outcome operation s = (.error fault, after) := by
  unfold Operation.outcome
  rw [failed]

/-- Dressing up what an operation returns does nothing to the state. -/
theorem outcome_return (operation : Operation S α) (f : α → β) (s : S) :
    (Operation.outcome (do return f (← operation)) s).2 = (Operation.outcome operation s).2 := by
  unfold Operation.outcome
  cases first : operation s with
  | ok a after =>
    rw [bind_of_ok first]
    rfl
  | error fault after => rw [bind_of_error first]

theorem onFault_of_ok {cleanup : Operation S Unit} {a : α} :
    onFault operation cleanup s = .ok a after ↔ operation s = .ok a after := by
  cases result : operation s with
  | ok b middle => simp only [onFault, result]
  | error fault middle => cases cleaned : cleanup middle <;> simp [onFault, result, cleaned]

theorem onFault_of_error {cleanup : Operation S Unit} {middle : S} {fault : Fault}
    (failed : operation s = .error fault middle) (cleaned : cleanup middle = .ok () after) :
    onFault operation cleanup s = .error fault after := by
  simp only [onFault, failed, cleaned]

end Runs

theorem ends_lift (result : Except Fault α) (s : S) (good : α → S → Prop)
    (bad : Fault → S → Prop) :
    Ends (lift result) s good bad ↔
      match result with
      | .ok a => good a s
      | .error fault => bad fault s := by
  cases result <;> rfl

theorem lift_ok_bind (a : α) (next : α → Operation S β) : lift (.ok a) >>= next = next a := rfl

theorem liftReport_ok_bind (a : α) (next : α → Operation S β) :
    liftReport (.ok a) >>= next = next a := rfl

/-- A step that goes by the state ends as the step that it chooses. -/
theorem ends_ite {choose : S → Prop} [DecidablePred choose] {yes no : Operation S α} {s : S}
    {good : α → S → Prop} {bad : Fault → S → Prop} :
    Ends (fun s => if choose s then yes s else no s) s good bad ↔
      if choose s then Ends yes s good bad else Ends no s good bad := by
  unfold Ends
  dsimp only
  by_cases chosen : choose s
  · rw [if_pos chosen, if_pos chosen]
  · rw [if_neg chosen, if_neg chosen]

theorem ends_liftReport (result : Except Report α) (s : S) (good : α → S → Prop)
    (bad : Fault → S → Prop) :
    Ends (liftReport result) s good bad ↔
      match result with
      | .ok a => good a s
      | .error r => bad (.report r) s := by
  cases result <;> rfl

theorem ends_get (s : S) (good : S → S → Prop) (bad : Fault → S → Prop) :
    Ends (get : Operation S S) s good bad ↔ good s s := Iff.rfl

theorem ends_modify (f : S → S) (s : S) (good : Unit → S → Prop) (bad : Fault → S → Prop) :
    Ends (modify f : Operation S Unit) s good bad ↔ good () (f s) := Iff.rfl

/-- An attempt itself does not fail. -/
theorem ends_attempt (operation : Operation S α) (s : S) (good : Except Fault α → S → Prop)
    (bad : Fault → S → Prop) :
    Ends (attempt operation) s good bad ↔
      Ends operation s (fun a after => good (.ok a) after)
        (fun fault after => good (.error fault) after) := by
  unfold Ends attempt
  cases operation s <;> rfl

/-- What comes after an attempt goes by what it came to. -/
theorem ends_attempt_bind {operation : Operation S α} {next : Except Fault α → Operation S β}
    {s : S} {good : β → S → Prop} {bad : Fault → S → Prop}
    (returns : Ends operation s (fun a after => Ends (next (.ok a)) after good bad)
      fun _ _ => True)
    (fails : ∀ fault after, Ends (next (.error fault)) after good bad) :
    Ends (attempt operation >>= next) s good bad := by
  rw [ends_bind, ends_attempt]
  exact returns.mono (fun _ _ done => done) fun fault after _ => fails fault after

/-- A cleanup that must happen runs on both sides, and its fault comes first. -/
theorem ends_ensuring (operation : Operation S α) (cleanup : Operation S Unit) (s : S)
    (good : α → S → Prop) (bad : Fault → S → Prop) :
    Ends (ensuring operation cleanup) s good bad ↔
      Ends operation s
        (fun a middle => Ends cleanup middle (fun _ after => good a after) bad)
        (fun fault middle => Ends cleanup middle (fun _ after => bad fault after) bad) := by
  unfold Ends ensuring
  cases operation s with
  | ok a middle => cases h : cleanup middle <;> simp only [h]
  | error fault middle => cases h : cleanup middle <;> simp only [h]

theorem ends_onFault (operation : Operation S α) (cleanup : Operation S Unit) (s : S)
    (good : α → S → Prop) (bad : Fault → S → Prop) :
    Ends (onFault operation cleanup) s good bad ↔
      Ends operation s good
        (fun fault middle => Ends cleanup middle (fun _ after => bad fault after) bad) := by
  unfold Ends onFault
  cases operation s with
  | ok a middle => rfl
  | error fault middle => cases h : cleanup middle <;> simp only [h]

/-!
### What an operation preserves

A relation between the state before and the state after is preserved by a
composed operation if it is by its parts, provided it is a preorder.
-/

/-- However the operation ends, the state it leaves is related to the one it
began with. -/
def Keeps (relation : S → S → Prop) (operation : Operation S α) : Prop :=
  ∀ s, Ends operation s (fun _ after => relation s after) (fun _ after => relation s after)

section Keeps

variable {relation : S → S → Prop} {next : α → Operation S β} {cleanup : Operation S Unit}

theorem Keeps.outcome (keeps : Keeps relation operation) (s : S) :
    relation s (outcome operation s).2 := by
  rcases (keeps s).outcome with ⟨_, _, related⟩ | ⟨_, _, related⟩ <;> exact related

theorem Keeps.attempt (keeps : Keeps relation operation) : Keeps relation (attempt operation) := by
  intro s
  rw [ends_attempt]
  exact keeps s

variable [IsPreorder S relation]

theorem keeps_pure (a : α) : Keeps relation (pure a : Operation S α) := fun s => refl s

theorem keeps_throw (fault : Fault) : Keeps relation (throw fault : Operation S α) :=
  fun s => refl s

theorem keeps_get : Keeps relation (get : Operation S S) := fun s => refl s

theorem keeps_lift (result : Except Fault α) : Keeps relation (lift result : Operation S α) := by
  intro s
  rw [ends_lift]
  cases result <;> exact refl s

theorem keeps_liftReport (result : Except Report α) :
    Keeps relation (liftReport result : Operation S α) := by
  intro s
  rw [ends_liftReport]
  cases result <;> exact refl s

theorem Keeps.bind (first : Keeps relation operation) (second : ∀ a, Keeps relation (next a)) :
    Keeps relation (operation >>= next) := by
  intro s
  rw [ends_bind]
  refine (first s).mono ?_ fun _ _ related => related
  intro a middle before
  exact (second a middle).mono (fun _ _ later => IsTrans.trans _ _ _ before later)
    (fun _ _ later => IsTrans.trans _ _ _ before later)

theorem Keeps.ensuring (keeps : Keeps relation operation) (cleans : Keeps relation cleanup) :
    Keeps relation (ensuring operation cleanup) := by
  intro s
  rw [ends_ensuring]
  have cleaned : ∀ middle, relation s middle →
      Ends cleanup middle (fun _ after => relation s after) (fun _ after => relation s after) := by
    intro middle before
    exact (cleans middle).mono (fun _ _ later => IsTrans.trans _ _ _ before later)
      (fun _ _ later => IsTrans.trans _ _ _ before later)
  exact (keeps s).mono (fun _ => cleaned) (fun _ => cleaned)

theorem Keeps.onFault (keeps : Keeps relation operation) (cleans : Keeps relation cleanup) :
    Keeps relation (onFault operation cleanup) := by
  intro s
  rw [ends_onFault]
  refine (keeps s).mono (fun _ _ related => related) ?_
  intro fault middle before
  exact (cleans middle).mono (fun _ _ later => IsTrans.trans _ _ _ before later)
    (fun _ _ later => IsTrans.trans _ _ _ before later)

end Keeps

/-- The operation leaves the state as it is. -/
abbrev Reads (operation : Operation S α) : Prop :=
  Keeps (fun before after => after = before) operation

theorem Reads.keeps {relation : S → S → Prop} [IsPreorder S relation] (reads : Reads operation) :
    Keeps relation operation := by
  intro s
  refine (reads s).mono ?_ ?_ <;> rintro _ _ rfl <;> exact refl _

/-- What comes after an operation that changes nothing begins where it began. -/
theorem Reads.bind {next : α → Operation S β} {good : β → S → Prop} (reads : Reads operation)
    (returned : ∀ a, Ends (next a) s good bad) (failed : ∀ fault, bad fault s) :
    Ends (operation >>= next) s good bad := by
  rw [ends_bind]
  refine (reads s).mono ?_ ?_
  · rintro a _ rfl
    exact returned a
  · rintro fault _ rfl
    exact failed fault

/-!
### What an operation does not depend on

States may agree on all that an operation goes by.  Then it ends alike in them,
and leaves states that agree again.
-/

/-- The operation ends alike in states that agree. -/
def Respects (agree : S → S → Prop) (operation : Operation S α) : Prop :=
  ∀ s s', agree s s' → (outcome operation s).1 = (outcome operation s').1 ∧
    agree (outcome operation s).2 (outcome operation s').2

section Respects

variable {agree : S → S → Prop} {next : α → Operation S β} {cleanup : Operation S Unit}

theorem respects_pure (a : α) : Respects agree (pure a : Operation S α) :=
  fun _ _ agrees => ⟨rfl, agrees⟩

theorem respects_throw (fault : Fault) : Respects agree (throw fault : Operation S α) :=
  fun _ _ agrees => ⟨rfl, agrees⟩

theorem respects_liftReport (result : Except Report α) :
    Respects agree (liftReport result : Operation S α) := by
  cases result with
  | ok a => exact respects_pure a
  | error r => exact respects_throw _

/-- What two runs of an operation come to that respects the agreement. -/
theorem Respects.cases (respects : Respects agree operation) {s' : S} (agrees : agree s s') :
    (∃ a after after', operation s = .ok a after ∧ operation s' = .ok a after' ∧
        agree after after') ∨
      ∃ fault after after', operation s = .error fault after ∧ operation s' = .error fault after' ∧
        agree after after' := by
  have alike := respects s s' agrees
  unfold outcome at alike
  cases first : operation s with
  | ok a after =>
    cases second : operation s' with
    | ok a' after' =>
      rw [first, second] at alike
      cases alike.1
      exact Or.inl ⟨a, after, after', rfl, rfl, alike.2⟩
    | error fault' after' =>
      rw [first, second] at alike
      cases alike.1
  | error fault after =>
    cases second : operation s' with
    | ok a' after' =>
      rw [first, second] at alike
      cases alike.1
    | error fault' after' =>
      rw [first, second] at alike
      cases alike.1
      exact Or.inr ⟨fault, after, after', rfl, rfl, alike.2⟩

theorem Respects.bind (first : Respects agree operation)
    (second : ∀ a, Respects agree (next a)) : Respects agree (operation >>= next) := by
  intro s s' agrees
  rcases first.cases agrees with ⟨a, after, after', run, run', agreed⟩ |
    ⟨fault, after, after', run, run', agreed⟩
  · have rest := second a after after' agreed
    unfold outcome at rest ⊢
    rw [bind_of_ok run, bind_of_ok run']
    exact rest
  · unfold outcome
    rw [bind_of_error run, bind_of_error run']
    exact ⟨rfl, agreed⟩

theorem Respects.attempt (respects : Respects agree operation) :
    Respects agree (attempt operation) := by
  intro s s' agrees
  unfold outcome Operation.attempt
  rcases respects.cases agrees with ⟨a, after, after', run, run', agreed⟩ |
    ⟨fault, after, after', run, run', agreed⟩ <;>
  · rw [run, run']
    exact ⟨rfl, agreed⟩

theorem Respects.ensuring (respects : Respects agree operation)
    (cleans : Respects agree cleanup) : Respects agree (ensuring operation cleanup) := by
  intro s s' agrees
  unfold outcome Operation.ensuring
  rcases respects.cases agrees with ⟨a, after, after', run, run', agreed⟩ |
    ⟨fault, after, after', run, run', agreed⟩ <;>
  · rw [run, run']
    dsimp only
    rcases cleans.cases agreed with ⟨_, last, last', clean, clean', agreed⟩ |
      ⟨_, last, last', clean, clean', agreed⟩ <;>
    · rw [clean, clean']
      exact ⟨rfl, agreed⟩

theorem Respects.onFault (respects : Respects agree operation)
    (cleans : Respects agree cleanup) : Respects agree (onFault operation cleanup) := by
  intro s s' agrees
  unfold outcome Operation.onFault
  rcases respects.cases agrees with ⟨a, after, after', run, run', agreed⟩ |
    ⟨fault, after, after', run, run', agreed⟩
  · rw [run, run']
    exact ⟨rfl, agreed⟩
  · rw [run, run']
    dsimp only
    rcases cleans.cases agreed with ⟨_, last, last', clean, clean', agreed⟩ |
      ⟨_, last, last', clean, clean', agreed⟩ <;>
    · rw [clean, clean']
      exact ⟨rfl, agreed⟩

end Respects

end Operation
end PolicyHost
