import PolicyHost.Proofs.Checkpoints
import PolicyHost.Proofs.Ownership

namespace PolicyHost

/-!
# One policy, whatever the discipline

A guest may serve a policy under either discipline.  As long as its memory
suffices, what a host of such a guest answers is what its service answers, and
for a policy that computes, that leaves no choice: it is the same under both
disciplines, and the same in a context as for a single evaluation.
-/

variable {σ τ δ : Type}

namespace Service

variable {rules : Rules δ} {service after after' : Service δ}
variable {outcome outcome' : Except Fault Host.Answer} {discipline discipline' : Discipline}

/-- What an entrypoint comes to for an input and a dataset. -/
def verdict (rules : Rules δ) (service : Service δ) (entrypoint : String) (schema : Schema)
    (input data : δ) : Except Fault Host.Answer :=
  match service.resolve entrypoint with
  | .ok found =>
    (rules.verdict found.1 (UInt32.ofInt found.2) schema input data).map .value
  | .error fault => .error fault

theorem Does.install_eq {raw : Bytes} {d : δ}
    (does : Does discipline (.ofRules rules) service (.install raw) outcome after)
    (spares : Host.Spares Fault.isShortage outcome) (parsed : rules.parse raw = some d) :
    outcome = .ok .done ∧ after = { service with data := some d } := by
  cases does with
  | installed _ other accepted =>
    change some other = rules.parse raw at accepted
    rw [parsed] at accepted
    cases accepted
    exact ⟨rfl, rfl⟩
  | discarded _ fault reason =>
    rcases reason with short | rejected
    · exact absurd short (spares fault rfl)
    · exact nomatch (show none = rules.parse raw from rejected.1).trans parsed

/-- The input of a single evaluation is judged as the document it is. -/
theorem Does.evaluate_eq {path : String} {entrypoint : Int} {schema : Schema} {raw : Bytes}
    {x data : δ}
    (does : Does discipline (.ofRules rules) service (.evaluate path entrypoint schema raw data)
      outcome after)
    (spares : Host.Spares Fault.isShortage outcome) (parsed : rules.parse raw = some x) :
    outcome = (rules.verdict path (UInt32.ofInt entrypoint) schema x data).map .value ∧
      after = service := by
  cases does with
  | evaluated _ _ _ _ _ result judged =>
    refine ⟨?_, rfl⟩
    rcases judged with ⟨fault, rfl, short⟩ | judged
    · exact absurd short (spares fault rfl)
    · cases judged with
      | parsed _ other _ accepted judged =>
        change some other = rules.parse raw at accepted
        rw [parsed] at accepted
        cases accepted
        rw [rules.eq_verdict _ _ _ _ _ _ _ judged]
      | rejected _ reason => exact nomatch (show none = rules.parse raw from reason.1).trans parsed
      | garbled _ _ impossible => exact absurd ⟨x, parsed.symm⟩ impossible

theorem Does.open_eq {raw : Bytes} {x data : δ}
    (does : Does discipline (.ofRules rules) service (.openContext (.ok raw) data) outcome after)
    (spares : Host.Spares Fault.isShortage outcome) (parsed : rules.parse raw = some x) :
    outcome = .ok (.context service.ended) ∧
      after = { service with current := some ⟨false, x, data⟩ } := by
  cases does with
  | opened _ other _ accepted =>
    change some other = rules.parse raw at accepted
    rw [parsed] at accepted
    cases accepted
    exact ⟨rfl, rfl⟩
  | unopened _ _ fault reason =>
    rcases reason with short | rejected
    · exact absurd short (spares fault rfl)
    · exact nomatch (show none = rules.parse raw from rejected.1).trans parsed

/-- No context is opened for a value without a document form. -/
theorem Does.open_error {semantics : Semantics δ} {r : Report} {data : δ}
    (does : Does discipline semantics service (.openContext (.error r) data) outcome after) :
    outcome = .error (.report r) ∧ after = service := by
  cases does with
  | unopened _ _ fault reason =>
    cases reason
    exact ⟨rfl, rfl⟩

/-- An evaluation in a context is judged like any other. -/
theorem Does.contextEval_eq {path : String} {entrypoint : Int} {schema : Schema} {x data : δ}
    (does : Does discipline (.ofRules rules) service (.contextEval path entrypoint schema x data)
      outcome after) :
    outcome = (rules.verdict path (UInt32.ofInt entrypoint) schema x data).map .value ∧
      after = service := by
  cases does with
  | contextEvaluated _ _ _ _ _ result judged =>
    rw [rules.eq_verdict _ _ _ _ _ _ _ judged]
    exact ⟨rfl, rfl⟩

/-- A policy that accepts every text of the host leaves no choice what a use
comes to. -/
theorem Step.functional (accepts : (Semantics.ofRules rules).Accepts) {use : Host.Use}
    (first : service.Step discipline (.ofRules rules) use outcome after)
    (second : service.Step discipline' (.ofRules rules) use outcome' after')
    (spares : Host.Spares Fault.isShortage outcome)
    (spares' : Host.Spares Fault.isShortage outcome') : outcome = outcome' ∧ after = after' := by
  unfold Step at first second
  cases demanded : service.demand use with
  | answer given =>
    rw [demanded] at first second
    exact ⟨first.1.trans second.1.symm, first.2.trans second.2.symm⟩
  | work work =>
    rw [demanded] at first second
    have agree : ∀ {result : Except Fault Host.Answer} {left : Service δ},
        outcome = result ∧ after = left → outcome' = result ∧ after' = left →
        outcome = outcome' ∧ after = after' := by
      rintro _ _ ⟨rfl, rfl⟩ ⟨rfl, rfl⟩
      exact ⟨rfl, rfl⟩
    have parse : ∀ {value : Value} {raw : Bytes}, Payload.encode value = .ok raw →
        ∃ x, rules.parse raw = some x := by
      intro value raw encoded
      rcases accepts value raw encoded with ⟨x, accepted⟩
      exact ⟨x, Eq.symm accepted⟩
    cases service.demand_asks use work demanded with
    | install value raw _ encoded =>
      rcases parse encoded with ⟨d, parsed⟩
      exact agree (first.install_eq spares parsed) (second.install_eq spares' parsed)
    | evaluate _ _ _ _ raw _ _ _ _ encoded =>
      rcases parse encoded with ⟨x, parsed⟩
      exact agree (first.evaluate_eq spares parsed) (second.evaluate_eq spares' parsed)
    | decide _ _ _ _ raw _ _ _ _ _ encoded =>
      rcases parse encoded with ⟨x, parsed⟩
      exact agree (first.evaluate_eq spares parsed) (second.evaluate_eq spares' parsed)
    | openContext input =>
      cases encoded : Payload.encode input with
      | error r =>
        rw [encoded] at first second
        exact agree first.open_error second.open_error
      | ok raw =>
        rw [encoded] at first second
        rcases parse encoded with ⟨x, parsed⟩
        exact agree (first.open_eq spares parsed) (second.open_eq spares' parsed)
    | contextEval => exact agree first.contextEval_eq second.contextEval_eq
    | destroy | leave | drop =>
      cases first
      cases second
      exact ⟨rfl, rfl⟩

/-- Uses that install nothing leave dataset and entrypoint table alone. -/
theorem Runs.kept {semantics : Semantics δ} {uses : List Host.Use}
    {outcomes : List (Except Fault Host.Answer)}
    (runs : service.Runs discipline semantics uses outcomes after)
    (keeps : ∀ value, Host.Use.setData value ∉ uses) :
    after.data = service.data ∧ after.entrypoints = service.entrypoints := by
  induction runs with
  | nil => exact ⟨rfl, rfl⟩
  | cons use outcome service middle after uses outcomes step rest inductionHypothesis =>
    have others := inductionHypothesis fun value member =>
      keeps value (List.mem_cons_of_mem _ member)
    rw [others.1, others.2]
    exact ⟨step.data_eq fun value equal => keeps value (equal ▸ List.mem_cons_self ..),
      step.entrypoints_eq⟩

end Service

namespace Contract

variable {rules : Rules δ} {contract : Contract σ (.ofRules rules)}
variable {contract' : Contract τ (.ofRules rules)} {service : Service δ}
variable {host : Host σ} {host' : Host τ}

/-- Two hosts that stand where one service stands go on alike. -/
theorem agree (accepts : (Semantics.ofRules rules).Accepts)
    (excuses : ∀ fault, contract.excuses fault → fault.isShortage)
    (excuses' : ∀ fault, contract'.excuses fault → fault.isShortage)
    (same : contract.Matches service host) (same' : contract'.Matches service host')
    (uses : List Host.Use) (calm : Host.Calm Fault.isShortage uses host)
    (calm' : Host.Calm Fault.isShortage uses host') :
    (Host.run uses host).1 = (Host.run uses host').1 ∧
      ∃ after, contract.Matches after (Host.run uses host).2 ∧
        contract'.Matches after (Host.run uses host').2 := by
  induction uses generalizing service host host' with
  | nil => exact ⟨rfl, service, same, same'⟩
  | cons use rest inductionHypothesis =>
    rcases step same use (fun fault failed excused => calm.2.1 fault failed (excuses fault excused))
      calm.2.2.open_eq with ⟨_, middle, stepped, standing⟩
    rcases step same' use
      (fun fault failed excused => calm'.2.1 fault failed (excuses' fault excused))
      calm'.2.2.open_eq with ⟨_, middle', stepped', standing'⟩
    have agreed := stepped.functional accepts stepped' calm.2.1 calm'.2.1
    rw [← agreed.2] at standing'
    have others := inductionHypothesis standing standing' calm.2.2 calm'.2.2
    exact ⟨congr (congrArg List.cons agreed.1) others.1, others.2⟩

end Contract

/-- A guest that serves a policy under a discipline. -/
inductive Serves (module : Module σ) (rules : Rules δ) : Discipline → Prop
  | explicitFree (accounts : Accounts module) (meaning : Meaning accounts (.ofRules rules)) :
    Serves module rules .explicitFree
  | heapRewind (heap : Heap module) (meaning : HeapMeaning heap (.ofRules rules)) :
    Serves module rules .heapRewind

theorem Shelf.serves (rules : Rules δ) (table : δ) (minor : Int) (discipline : Discipline) :
    Serves (toModule rules table minor) rules discipline := by
  cases discipline with
  | explicitFree => exact .explicitFree _ (meaning rules table minor)
  | heapRewind => exact .heapRewind _ (heapMeaning rules table minor)

/-- A host of a guest that serves a policy begins where its service begins,
and nothing is excused but a shortage of memory. -/
theorem Serves.matches_built {module : Module σ} {rules : Rules δ} {builder : Builder}
    {journal after : Journal} {host : Host σ}
    (serves : Serves module rules (.ofMinor host.minor))
    (built : builder.instantiate module journal = .ok host after) :
    ∃ contract : Contract σ (.ofRules rules),
      (∀ fault, contract.excuses fault → fault.isShortage) ∧
        contract.Matches (.unused δ host.entrypoints) host := by
  by_cases version : 2 ≤ host.minor
  · rw [Discipline.ofMinor, if_pos version] at serves
    cases serves with
    | heapRewind heap meaning =>
      rcases HeapRewind.matches_built meaning built version with ⟨equipped, same⟩
      exact ⟨_, fun _ => False.elim, same⟩
  · rw [Discipline.ofMinor, if_neg version] at serves
    cases serves with
    | explicitFree accounts meaning =>
      rcases meaning.balanced_built built (Int.not_le.mp version) with ⟨equipped, same⟩
      exact ⟨_, fun _ => Or.inl, same⟩

/-- Two hosts of one policy answer alike, one under each discipline, as long
as neither guest is lost or short of memory.  They also agree on whether there
is a dataset, and on the contexts. -/
theorem Host.disciplines_agree {module : Module σ} {module' : Module τ} {rules : Rules δ}
    {builder builder' : Builder} {journal journal' after after' : Journal}
    {host : Host σ} {host' : Host τ} (accounts : Accounts module)
    (meaning : Meaning accounts (.ofRules rules)) (heap : Heap module')
    (meaning' : HeapMeaning heap (.ofRules rules)) (accepts : (Semantics.ofRules rules).Accepts)
    (built : builder.instantiate module journal = .ok host after)
    (built' : builder'.instantiate module' journal' = .ok host' after')
    (version : host.minor < 2) (version' : 2 ≤ host'.minor)
    (entrypoints : host.entrypoints = host'.entrypoints) (uses : List Host.Use)
    (calm : Host.Calm Fault.isShortage uses host)
    (calm' : Host.Calm Fault.isShortage uses host') :
    (Host.run uses host).1 = (Host.run uses host').1 ∧
      (Host.run uses host).2.hasData = (Host.run uses host').2.hasData ∧
      (Host.run uses host).2.contexts.map (·.phase) =
        (Host.run uses host').2.contexts.map (·.phase) := by
  rcases meaning.balanced_built built version with ⟨equipped, same⟩
  rcases HeapRewind.matches_built meaning' built' version' with ⟨equipped', same'⟩
  rw [entrypoints] at same
  rcases Contract.agree accepts (fun _ => Or.inl) (fun _ => False.elim) same same' uses calm calm'
    with ⟨outcomes, service, standing, standing'⟩
  refine ⟨outcomes, ?_, ?_⟩
  · rw [standing.hasData_eq, standing'.hasData_eq]
  · rw [standing.phases_eq, standing'.phases_eq]

/-- Two echoes, one under each discipline. -/
theorem Host.disciplines_agree_echo :
    Builder.Builds {} (Shelf.echo 0) fun host => Builder.Builds {} (Shelf.echo 2) fun host' =>
      host.minor < 2 ∧ 2 ≤ host'.minor ∧ host.entrypoints = host'.entrypoints ∧
        Host.Calm Fault.isShortage Shelf.echoUses host ∧
        Host.Calm Fault.isShortage Shelf.echoUses host' ∧
        (Host.run Shelf.echoUses host).1 = (Host.run Shelf.echoUses host').1 := by
  have begun :
      Builder.Builds {} (Shelf.echo 0) fun host => Builder.Builds {} (Shelf.echo 2) fun host' =>
        host.minor < 2 ∧ 2 ≤ host'.minor ∧ host.entrypoints = host'.entrypoints ∧
          Host.Calm Fault.isShortage Shelf.echoUses host ∧
          Host.Calm Fault.isShortage Shelf.echoUses host' := by
    decide +kernel
  rcases begun with
    ⟨host, journal, built, host', journal', built', version, version', entrypoints, calm, calm'⟩
  have agreed := disciplines_agree _ (Shelf.meaning .echo Shelf.echoTable 0) _
    (Shelf.heapMeaning .echo Shelf.echoTable 2) Rules.echo_accepts built built' version version'
    entrypoints Shelf.echoUses calm calm'
  exact ⟨host, journal, built, host', journal', built', version, version', entrypoints, calm,
    calm', agreed.1⟩

namespace Contract

variable {rules : Rules δ} {contract : Contract σ (.ofRules rules)} {service : Service δ}
variable {host : Host σ}

/-- A single evaluation of an input that can be parsed comes to the verdict of
the policy. -/
theorem eval_eq_verdict (excuses : ∀ fault, contract.excuses fault → fault.isShortage)
    (same : contract.Matches service host) (entrypoint : String) (input : Value) (schema : Schema)
    (raw : Bytes) (x data : δ) (closed : service.current = none)
    (document : service.data = some data) (encoded : Payload.encode input = .ok raw)
    (parsed : rules.parse raw = some x)
    (calm : Host.Calm Fault.isShortage [.eval entrypoint input schema] host) :
    (Operation.outcome (Host.perform (.eval entrypoint input schema)) host).1 =
      service.verdict rules entrypoint schema x data := by
  rcases step same _ (fun fault failed excused => calm.2.1 fault failed (excuses fault excused))
    calm.2.2 with ⟨_, after, stepped, _⟩
  have spares := calm.2.1
  revert spares stepped
  generalize (Operation.outcome (Host.perform (.eval entrypoint input schema)) host).1 = outcome
  intro stepped spares
  unfold Service.Step at stepped
  unfold Service.verdict
  cases resolved : service.resolve entrypoint with
  | error fault =>
    rw [show service.demand (.eval entrypoint input schema) = .answer (.error fault) by
      simp [Service.demand, Service.demandEval, closed, resolved]] at stepped
    exact stepped.1
  | ok found =>
    rw [show service.demand (.eval entrypoint input schema) =
        .work (.evaluate found.1 found.2 schema raw data) by
      simp [Service.demand, Service.demandEval, closed, resolved, document, encoded]] at stepped
    exact (stepped.evaluate_eq spares parsed).1

/-- Every evaluation in a context comes to the verdict of the policy, whatever
the earlier ones came to. -/
theorem contextEvals_eq_verdicts
    (excuses : ∀ fault, contract.excuses fault → fault.isShortage)
    (same : contract.Matches service host) (opening : Opening δ)
    (current : service.current = some opening) (evaluations : List (String × Schema))
    (calm : Host.Calm Fault.isShortage
      (evaluations.map fun e => .contextEval service.ended e.1 e.2) host) :
    (Host.run (evaluations.map fun e => .contextEval service.ended e.1 e.2) host).1 =
      evaluations.map fun e => service.verdict rules e.1 e.2 opening.input opening.data := by
  induction evaluations generalizing service host opening with
  | nil => rfl
  | cons evaluation rest inductionHypothesis =>
    rcases step same _ (fun fault failed excused => calm.2.1 fault failed (excuses fault excused))
      calm.2.2.open_eq with ⟨_, after, stepped, standing⟩
    have noticed : service.noticed (.contextEval service.ended evaluation.1 evaluation.2) =
        { service with current := some { opening with used := true } } := by
      dsimp only [Service.noticed]
      rw [if_pos rfl, current, Option.map_some]
    have is_open : service.context service.ended = .ok (some opening) := by
      unfold Service.context
      rw [if_neg (Nat.lt_irrefl _), if_pos rfl, current]
    have first : (Operation.outcome
          (Host.perform (.contextEval service.ended evaluation.1 evaluation.2)) host).1 =
          service.verdict rules evaluation.1 evaluation.2 opening.input opening.data ∧
        after = { service with current := some { opening with used := true } } := by
      unfold Service.Step at stepped
      rw [noticed] at stepped
      unfold Service.verdict
      cases resolved : service.resolve evaluation.1 with
      | error fault =>
        rw [show service.demand (.contextEval service.ended evaluation.1 evaluation.2) =
            .answer (.error fault) by
          simp [Service.demand, is_open, resolved]] at stepped
        exact stepped
      | ok found =>
        rw [show service.demand (.contextEval service.ended evaluation.1 evaluation.2) =
            .work (.contextEval found.1 found.2 evaluation.2 opening.input opening.data) by
          simp [Service.demand, is_open, resolved]] at stepped
        exact stepped.contextEval_eq
    rw [first.2] at standing
    have others := inductionHypothesis standing { opening with used := true } rfl calm.2.2
    exact congr (congrArg List.cons first.1) others

end Contract

/-- The evaluations in a context are those of single evaluations of its input,
one by one, for whichever state without an open context these are made in, as
long as the dataset is the same. -/
theorem Host.context_agrees {module : Module σ} {rules : Rules δ} {builder : Builder}
    {journal after : Journal} {host : Host σ} (serves : Serves module rules (.ofMinor host.minor))
    (built : builder.instantiate module journal = .ok host after) (before others : List Host.Use)
    (input : Value) (id : ContextId) (evaluations : List (String × Schema))
    (opened : (Operation.outcome (Host.perform (.openContext input))
      (Host.run before host).2).1 = .ok (.context id))
    (calm : Host.Calm Fault.isShortage (before ++ .openContext input ::
      evaluations.map fun e => .contextEval id e.1 e.2) host)
    (keeps : ∀ value, Host.Use.setData value ∉ others)
    (closed : (Host.run (before ++ others) host).2.openContexts = [])
    (calmOthers : Host.Calm Fault.isShortage (before ++ others) host)
    (calmSingles : ∀ e ∈ evaluations, Host.Calm Fault.isShortage [.eval e.1 input e.2]
      (Host.run (before ++ others) host).2) :
    (Host.run (evaluations.map fun e => .contextEval id e.1 e.2)
        (Operation.outcome (Host.perform (.openContext input)) (Host.run before host).2).2).1 =
      evaluations.map fun e =>
        (Operation.outcome (Host.perform (.eval e.1 input e.2))
          (Host.run (before ++ others) host).2).1 := by
  rcases serves.matches_built built with ⟨contract, excuses, same⟩
  rw [Host.Calm.append] at calm calmOthers
  rcases Contract.runs same before (calm.1.mono excuses) with ⟨service, _, standing⟩
  rcases Contract.step standing _
    (fun fault failed excused => calm.2.2.1 fault failed (excuses fault excused))
    calm.2.2.2.open_eq with ⟨_, middle, stepped, holding⟩
  rcases stepped.opened id opened with ⟨rfl, raw, x, data, document, encoded, accepted, rfl⟩
  rcases Contract.runs standing others (calmOthers.2.mono excuses) with ⟨idle, runs, resting⟩
  rw [show (Host.run others (Host.run before host).2).2 = (Host.run (before ++ others) host).2 by
    rw [Host.run_append]] at resting
  have kept := runs.kept keeps
  rw [Contract.contextEvals_eq_verdicts excuses holding ⟨false, x, data⟩ rfl evaluations
    calm.2.2.2]
  refine List.map_congr_left ?_
  intro evaluation member
  rw [Contract.eval_eq_verdict excuses resting evaluation.1 input evaluation.2 raw x data
    (resting.closed closed) (kept.1.trans document) encoded (Eq.symm accepted)
    (calmSingles evaluation member)]
  unfold Service.verdict Service.resolve
  rw [kept.2]

/-- An echo in a context, after a use that failed in it, and on its own, after
another context was ended. -/
theorem Host.context_agrees_echo :
    Builder.Builds {} (Shelf.echo 2) fun host =>
      (Operation.outcome (Host.perform (.openContext .null))
        (Host.run [.setData .null] host).2).1 = .ok (.context 0) ∧
      (Host.run ([.setData .null] ++ [.openContext (.bool true), .destroy 0])
        host).2.openContexts = [] ∧
      (Host.run [.contextEval 0 "other" .any, .contextEval 0 "echo" .null]
        (Operation.outcome (Host.perform (.openContext .null))
          (Host.run [.setData .null] host).2).2).1 =
        [("other", .any), ("echo", .null)].map fun e =>
          (Operation.outcome (Host.perform (.eval e.1 .null e.2)) (Host.run
            ([.setData .null] ++ [.openContext (.bool true), .destroy 0]) host).2).1 := by
  have begun : Builder.Builds {} (Shelf.echo 2) fun host =>
      (Operation.outcome (Host.perform (.openContext .null))
        (Host.run [.setData .null] host).2).1 = .ok (.context 0) ∧
      Host.Calm Fault.isShortage ([.setData .null] ++ .openContext .null ::
        [("other", .any), ("echo", .null)].map fun e => .contextEval 0 e.1 e.2) host ∧
      (Host.run ([.setData .null] ++ [.openContext (.bool true), .destroy 0])
        host).2.openContexts = [] ∧
      Host.Calm Fault.isShortage
        ([.setData .null] ++ [.openContext (.bool true), .destroy 0]) host ∧
      ∀ e ∈ [("other", Schema.any), ("echo", .null)],
        Host.Calm Fault.isShortage [.eval e.1 .null e.2] (Host.run
          ([.setData .null] ++ [.openContext (.bool true), .destroy 0]) host).2 := by
    decide +kernel
  rcases begun with ⟨host, journal, built, opened, calm, closed, calmOthers, calmSingles⟩
  exact ⟨host, journal, built, opened, closed, context_agrees (Shelf.serves _ _ _ _) built
    [.setData .null] [.openContext (.bool true), .destroy 0] .null 0
    [("other", .any), ("echo", .null)] opened calm (fun value => by simp) closed calmOthers
    calmSingles⟩

end PolicyHost
