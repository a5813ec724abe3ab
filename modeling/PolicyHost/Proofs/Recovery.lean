import PolicyHost.Proofs.Twins

namespace PolicyHost

/-!
# Evaluations that leave no trace

An evaluation that fails without losing the guest may leave more behind than
it found: the heap has moved, memory has grown, a context was used.  None of
this can be found out later.  A host after such a failure is the twin of the
host before it, so that whatever follows comes to the same, with the failure
or without it.
-/

variable {σ δ : Type}

namespace Host

/-- A use that evaluates something, or prepares that. -/
inductive Use.IsEvaluation : Use → Prop
  | eval (entrypoint : String) (input : Value) (schema : Schema) :
    IsEvaluation (.eval entrypoint input schema)
  | decide (binding : Binding) (input : Value) : IsEvaluation (.decide binding input)
  | openContext (input : Value) : IsEvaluation (.openContext input)
  | contextEval (id : ContextId) (entrypoint : String) (schema : Schema) :
    IsEvaluation (.contextEval id entrypoint schema)

/-- Whether a use failed can be told. -/
instance {α : Type} (outcome : Except Fault α) : Decidable (∃ fault, outcome = .error fault) :=
  match outcome with
  | .ok _ => .isFalse nofun
  | .error fault => .isTrue ⟨fault, rfl⟩

/-- Whether a use succeeded can be told. -/
instance {α : Type} (outcome : Except Fault α) : Decidable (∃ a, outcome = .ok a) :=
  match outcome with
  | .ok a => .isTrue ⟨a, rfl⟩
  | .error _ => .isFalse nofun

end Host

open Host

/-- An evaluation that fails changes no more of a service than what is noticed
of it. -/
theorem Service.Step.raised {discipline : Discipline} {semantics : Semantics δ}
    {service after : Service δ} {use : Use} {fault : Fault} (evaluation : use.IsEvaluation)
    (step : service.Step discipline semantics use (.error fault) after) :
    after = service.noticed use := by
  rcases step.cases with ⟨_, same⟩ | ⟨work, asks, does⟩
  · exact same
  · generalize outcome_eq : (Except.error fault : Except Fault Answer) = outcome at does
    cases does with
    | installed | discarded =>
      cases asks
      cases evaluation
    | evaluated | unopened | contextEvaluated => rfl
    | opened => cases outcome_eq
    | closed => cases outcome_eq

theorem Ruin.perform_evaluation (ruin : Ruin) {use : Use} (evaluation : use.IsEvaluation) :
    (ruin.perform use).2 = ruin := by
  cases evaluation with
  | eval | openContext => rfl
  | decide binding input =>
    rw [perform]
    cases binding.prepareInput input <;> rfl
  | contextEval id entrypoint schema =>
    rw [perform, within]
    split <;> rfl

namespace Host

variable {conduct : Conduct δ} {contract : Contract σ conduct.semantics} {discipline : Discipline}
variable {short : Access σ → Prop} {host : Host σ} {known : Service δ → Prop}

/-- A host stands where a service stands of which something is known, or has lost
its guest. -/
def Keeps (contract : Contract σ conduct.semantics) (known : Service δ → Prop) (host : Host σ) :
    Prop :=
  host.guest.trapped = true ∨ ∃ service, contract.Matches service host ∧ known service

namespace Keeps

theorem perform (honours : contract.Honours discipline short) (keeps : Keeps contract known host)
    (use : Use) (preserved : ∀ service outcome after,
      service.Step discipline conduct.semantics use outcome after → known service → known after) :
    Keeps contract known (Operation.outcome (Host.perform use) host).2 := by
  rcases keeps with lost | ⟨service, same, holds⟩
  · exact Or.inl (((perform_lives Instance.tracks_later use).outcome host).guest.closed lost)
  · rcases Contract.carries same use with falls | ⟨fault, _, excused⟩ | ⟨_, service', step, matched⟩
    · exact Or.inl falls.lost
    · exact absurd excused (honours.excuses fault)
    · rw [honours.discipline_eq] at step
      exact Or.inr ⟨service', matched, preserved _ _ _ step holds⟩

theorem run (honours : contract.Honours discipline short) (keeps : Keeps contract known host)
    (uses : List Use) (preserved : ∀ use ∈ uses, ∀ service outcome after,
      service.Step discipline conduct.semantics use outcome after → known service → known after) :
    Keeps contract known (run uses host).2 := by
  induction uses generalizing host with
  | nil => exact keeps
  | cons use rest inductionHypothesis =>
    exact inductionHypothesis (keeps.perform honours use (preserved use (List.mem_cons_self ..)))
      fun later member => preserved later (List.mem_cons_of_mem _ member)

end Keeps

/-- A host stands where some service stands, or has lost its guest. -/
def Standing (contract : Contract σ conduct.semantics) (host : Host σ) : Prop :=
  host.guest.trapped = true ∨ ∃ service, contract.Matches service host

namespace Standing

/-- Nothing need be known of the service. -/
theorem keeps (standing : Standing contract host) : Keeps contract (fun _ => True) host :=
  standing.imp_right fun ⟨service, same⟩ => ⟨service, same, trivial⟩

theorem run (honours : contract.Honours discipline short) (standing : Standing contract host)
    (uses : List Use) : Standing contract (run uses host).2 :=
  (standing.keeps.run honours uses fun _ _ _ _ _ _ _ => trivial).imp_right
    fun ⟨service, same, _⟩ => ⟨service, same⟩

/-- After an evaluation that failed and did not lose the guest, a host is the
twin of what it was before. -/
theorem twins_raised (honours : contract.Honours discipline short)
    (standing : Standing contract host) (equipped : host.Equipped) {use : Use} {fault : Fault}
    (evaluation : use.IsEvaluation)
    (raised : (Operation.outcome (Host.perform use) host).1 = .error fault)
    (untrapped : (Operation.outcome (Host.perform use) host).2.guest.trapped =
      host.guest.trapped) :
    Twins contract 0 (Operation.outcome (Host.perform use) host).2 host := by
  rcases standing with lost | ⟨service, same⟩
  · rcases perform_lost_eq lost equipped use with ⟨done, still⟩
    refine .lost still lost ?_
    exact (Prod.mk.inj done).2.trans (Ruin.perform_evaluation _ evaluation)
  · rcases Contract.carries same use with falls | ⟨other, _, excused⟩ | ⟨_, service', step, matched⟩
    · exact nomatch falls.lost.symm.trans (untrapped.trans same.open_eq)
    · exact absurd excused (honours.excuses other)
    · rw [raised] at step
      rw [step.raised evaluation] at matched
      exact .serving _ service (.unnoticed service use) matched same

end Standing

/-- Whatever guest follows a policy that goes by documents alone, and whatever
was done with it before: if an evaluation fails without losing the guest, then
every later use comes to what it would come to without that evaluation, as long
as memory suffices for the later uses, with and without it.  At most the
address may differ at which a text is reported to have no terminator. -/
theorem failures_invisible {module : Module σ} {builder : Builder} {journal journal' : Journal}
    {host : Host σ} (built : builder.instantiate module journal = .ok host journal')
    (obeys : Obeys module host.guest.handlers conduct short (.ofMinor host.minor))
    (before : List Use) (failed : Use) (after : List Use) (evaluation : failed.IsEvaluation)
    (raised : ∃ fault, (Operation.outcome (perform failed) (run before host).2).1 = .error fault)
    (untrapped : (run (before ++ [failed]) host).2.guest.trapped =
      (run before host).2.guest.trapped)
    (ample : Ample short after (run (before ++ [failed]) host).2)
    (ample' : Ample short after (run before host).2) :
    List.Forall₂ Alike ((run (before ++ failed :: after) host).1.eraseIdx before.length)
      (run (before ++ after) host).1 := by
  rcases Builder.instantiate_equips built with ⟨_, equipped, module_eq, _⟩
  rcases obeys.matches_built built with ⟨contract, honours, same⟩
  rcases raised with ⟨fault, raised⟩
  rw [run_append before [failed]] at untrapped ample
  have equipped' : (run before host).2.Equipped :=
    (run_lives Instance.tracks_later before host).equips (by rwa [module_eq])
  have twins := Standing.twins_raised honours (Standing.run honours (Or.inr ⟨_, same⟩) before)
    equipped' evaluation raised untrapped
  have alike := twins.run honours (equipped'.perform failed) equipped' after
    (by rwa [Use.shift_zero, List.map_id]) ample'
  rw [Use.shift_zero, shifted_zero, List.map_id, List.map_id] at alike
  rw [run_append, run_append, List.eraseIdx_append_of_length_le (by rw [run_length])]
  rw [run_length, Nat.sub_self]
  exact List.rel_append (List.forall₂_same.mpr fun outcome _ => .same outcome) alike

/-- An echo in a context, after its answer could not be read there, and on its
own afterwards. -/
theorem failures_invisible_echo :
    Builder.Builds {} (Shelf.echo 2) fun host =>
      let before := [.setData .null, .openContext (.list [.null])]
      let failed := .contextEval 0 "echo" .bool
      let after := [.contextEval 0 "echo" (.list .null), .destroy 0, .eval "echo" .null .any]
      (∃ fault, (Operation.outcome (perform failed) (run before host).2).1 = .error fault) ∧
      List.Forall₂ Alike ((run (before ++ failed :: after) host).1.eraseIdx before.length)
        (run (before ++ after) host).1 := by
  have begun : Builder.Builds {} (Shelf.echo 2) fun host =>
      let before := [.setData .null, .openContext (.list [.null])]
      let failed := .contextEval 0 "echo" .bool
      let after := [.contextEval 0 "echo" (.list .null), .destroy 0, .eval "echo" .null .any]
      let short := (Shelf.echo 2).Stuck host.guest.handlers
      (∃ fault, (Operation.outcome (perform failed) (run before host).2).1 = .error fault) ∧
        (run (before ++ [failed]) host).2.guest.trapped = (run before host).2.guest.trapped ∧
        Ample short after (run (before ++ [failed]) host).2 ∧
        Ample short after (run before host).2 := by
    decide +kernel
  rcases begun with ⟨host, journal, built, raised, untrapped, ample, ample'⟩
  exact ⟨host, journal, built, raised, failures_invisible built (Shelf.obeys ..) _ _ _
    (.contextEval 0 "echo" .bool) raised untrapped ample ample'⟩

end Host

/-- The standard policy, whose single evaluations answer with a text at the very
end of memory, so that nothing terminates it.  Little memory is left. -/
def Policy.endless : Policy :=
  { standard with
    minor := some (.constant 2)
    heapBase := 130600
    overrides := [⟨"opa_eval", 0, [.atEnd]⟩] }

/-- That address tells a caller of the memory that an evaluation took which
failed. -/
theorem Host.failures_visible_endless :
    Builder.Builds {} Policy.endless.toModule fun host =>
      let before := [.setData .null]
      let failed := .eval "echo/input" (.text (String.ofList (List.replicate 100 'a'))) .any
      let after := [.eval "echo/input" .null .any]
      let short := Policy.endless.toModule.Stuck host.guest.handlers
      (∃ fault, (Operation.outcome (perform failed) (run before host).2).1 = .error fault) ∧
        (run (before ++ failed :: after) host).2.guest.trapped = false ∧
        Ample short (before ++ failed :: after) host ∧ Ample short (before ++ after) host ∧
        (run (before ++ failed :: after) host).1.eraseIdx before.length ≠
          (run (before ++ after) host).1 := by
  have begun : Builder.Builds {} Policy.endless.toModule fun host =>
      let before := [.setData .null]
      let failed := .eval "echo/input" (.text (String.ofList (List.replicate 100 'a'))) .any
      let after := [.eval "echo/input" .null .any]
      let short := Policy.endless.toModule.Stuck host.guest.handlers
      (∃ fault, (Operation.outcome (perform failed) (run before host).2).1 = .error fault) ∧
        (run (before ++ failed :: after) host).2.guest.trapped = false ∧
        Ample short (before ++ failed :: after) host ∧ Ample short (before ++ after) host ∧
        ((run (before ++ failed :: after) host).1.eraseIdx before.length).map told ≠
          (run (before ++ after) host).1.map told := by
    decide +kernel
  rcases begun with ⟨host, journal, built, raised, usable, ample, ample', told_ne⟩
  exact ⟨host, journal, built, raised, usable, ample, ample', fun same =>
    told_ne (congrArg (List.map told) same)⟩

end PolicyHost
