import PolicyHost.Guest.Behaviour
import PolicyHost.Proofs.Cleanup

namespace PolicyHost

/-!
# Signatures

The host passes so many arguments to an export, and waits for a word from some
of them.  A guest whose exports are made for that may still answer with any word
it likes.  The module of a policy is such a guest, however it misbehaves.
-/

variable {σ : Type}

open Instance

/-- The exports have the signatures that the host relies on: they take as many
arguments as it passes, and answer where it waits for an answer.  Which word
they answer with is up to them. -/
structure Module.Signed (module : Module σ) : Prop where
  fits : module.Fits
  answers : ∀ name ∈ replying, ∀ arguments before answer after,
    (name, arguments.length) ∈ abi → module.Answers name arguments before answer after →
      answer.isSome = true

/-!
### Guests of policies
-/

/-- A run that goes on after it is done comes to what it goes on with. -/
theorem Run.outcome_andThen {α β : Type} (run : Run σ α) (next : α → Memory → σ → Run σ β) :
    (run.andThen next).outcome =
      run.outcome.bind fun done => (next done.1 done.2.memory done.2.state).outcome := by
  induction run with
  | done result memory state => rfl
  | trap memory state => rfl
  | call request memory state rest inductionHypothesis => exact inductionHypothesis

namespace PolicyCode

/-- Code that answers with a word if it comes back. -/
def Replies (code : PolicyCode (Option UInt32)) : Prop :=
  ∀ memory state answer after, (code memory state).outcome = some (answer, after) →
    answer.isSome = true

theorem replies_pure (word : UInt32) : Replies (pure (some word)) := by
  intro memory state answer after same
  cases same
  rfl

theorem replies_trap : Replies Code.trap :=
  fun _ _ _ _ impossible => nomatch impossible

/-- What code answers is what its last step answers. -/
theorem replies_bind {α : Type} (code : PolicyCode α) {next : α → PolicyCode (Option UInt32)}
    (replies : ∀ a, Replies (next a)) : Replies (code >>= next) := by
  intro memory state answer after ended
  have ended := (Run.outcome_andThen (code memory state) next).symm.trans ended
  rcases Option.bind_eq_some_iff.mp ended with ⟨done, _, same⟩
  exact replies done.1 _ _ answer after same

theorem words_of_evaluation (arguments : List UInt32) (seven : arguments.length = 7) :
    ∃ reserved entrypoint data input size heap format,
      arguments = [reserved, entrypoint, data, input, size, heap, format] := by
  match arguments, seven with
  | [_, _, _, _, _, _, _], _ => exact ⟨_, _, _, _, _, _, _, rfl⟩

/-- The work of an export that is called for a word. -/
theorem work_replies (policy : Policy) (name : String) (arguments : List UInt32)
    (replying : name ∈ replying) (listed : (name, arguments.length) ∈ abi) :
    Replies (work policy name arguments) := by
  simp only [Instance.replying, List.mem_cons, List.not_mem_nil, or_false] at replying
  simp only [abi, List.mem_cons, Prod.mk.injEq, List.not_mem_nil, or_false] at listed
  rcases replying with rfl | rfl | rfl | rfl | rfl | rfl | rfl <;>
    simp only [String.reduceEq, false_and, true_and, false_or, or_false] at listed
  · obtain ⟨size, rfl⟩ := List.length_eq_one_iff.mp listed
    exact replies_bind _ fun _ => replies_pure _
  · obtain ⟨address, size, rfl⟩ := List.length_eq_two.mp listed
    exact replies_bind _ fun _ => replies_pure _
  · obtain ⟨document, rfl⟩ := List.length_eq_one_iff.mp listed
    exact replies_bind _ fun _ => replies_pure _
  · exact replies_bind _ fun _ => replies_pure _
  · exact replies_bind _ fun _ => replies_bind _ fun _ => replies_pure _
  · obtain ⟨context, rfl⟩ := List.length_eq_one_iff.mp listed
    exact replies_bind _ fun _ => replies_pure _
  · obtain ⟨_, entrypoint, data, input, size, heap, _, rfl⟩ := words_of_evaluation arguments listed
    exact replies_bind _ fun _ => replies_bind _ fun _ => replies_bind _ fun _ =>
      replies_bind _ fun _ => replies_pure _

/-- Misbehaving does not take the answer from an export that gives one. -/
theorem misbehave_replies (name : String) (work : PolicyCode (Option UInt32))
    (gives : givesResult name = true) (replies : Replies work) (misbehaviours : List Misbehaviour) :
    Replies (misbehave name work misbehaviours) := by
  induction misbehaviours with
  | nil => exact replies
  | cons misbehaviour rest inductionHypothesis =>
    cases misbehaviour with
    | trap => exact replies_trap
    | result value =>
      unfold misbehave
      rw [gives]
      exact replies_pure value
    | atEnd => exact replies_bind _ fun _ => inductionHypothesis

end PolicyCode

/-- A function that the host relies on takes as many arguments as the host passes,
whatever else the module of a policy exports. -/
theorem Policy.arity_eq (policy : Policy) {name : String} {arity count : Nat}
    (listed : (name, arity) ∈ abi) (member : (name, Export.function count) ∈ policy.exports) :
    count = arity := by
  have distinct : ∀ f ∈ PolicyCode.functions, ∀ entry ∈ abi, f.1 = entry.1 → f.2 = entry.2 := by
    decide
  have apart : ∀ entry ∈ abi, entry.1 ≠ PolicyCode.minorName := by decide
  unfold exports at member
  dsimp only at member
  rcases List.mem_append.mp member with function | minor
  · rcases List.mem_map.mp function with ⟨f, kept, same⟩
    have known := (List.mem_filter.mp kept).1
    rcases Prod.mk.inj same with ⟨rfl, exported⟩
    split at exported
    · cases exported
    · cases exported
      exact distinct f known _ listed rfl
  · have told := (List.mem_filter.mp minor).1
    cases version : policy.minor with
    | none => simp [version] at told
    | some minor =>
      cases minor <;> simp only [version, List.mem_singleton, Prod.mk.injEq] at told
      · exact nomatch told.2
      · exact absurd told.1 (apart _ listed)

theorem Policy.fits (policy : Policy) : policy.toModule.Fits := by
  rintro ⟨name, arity⟩ listed exported
  unfold Module.hasFunction at exported
  cases found : policy.toModule.find? name with
  | none => simp [found] at exported
  | some entry =>
    cases entry with
    | constant value => simp [found] at exported
    | function count =>
      unfold Module.find? at found
      rcases Option.map_eq_some_iff.mp found with ⟨⟨name', entry⟩, first, rfl⟩
      have same := List.find?_some first
      cases eq_of_beq same
      exact congrArg (some ∘ Export.function)
        (policy.arity_eq listed (List.mem_of_find?_eq_some first))

/-- Whatever a policy is, and however its exports misbehave, they have the
signatures that the host relies on. -/
theorem Policy.signed (policy : Policy) : policy.toModule.Signed where
  fits := policy.fits
  answers name replying arguments before answer after listed answered := by
    have gives : ∀ name ∈ Instance.replying, PolicyCode.givesResult name = true := by decide
    have replies : PolicyCode.Replies (PolicyCode.invoke policy name arguments) :=
      PolicyCode.replies_bind _ fun _ => PolicyCode.replies_bind _ fun _ =>
        PolicyCode.misbehave_replies name _ (gives name replying)
          (PolicyCode.work_replies policy name arguments replying listed) _
    exact replies _ _ answer after answered

end PolicyHost
