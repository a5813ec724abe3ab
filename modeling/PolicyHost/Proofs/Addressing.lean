import PolicyHost.Proofs.Entrypoints
import PolicyHost.Remote.Client

namespace PolicyHost

/-!
# Where a binding leads

A host looks the path of a binding up in its table, and a client asks a server
for the document under that path.  Both read a dot as a slash.  The client drops
the slashes that a path begins with as well, and the host keeps them, so a path
that begins with a separator names a policy to the client and nothing to the
host.  By all other paths they mean the same policy.
-/

variable {σ : Type}

open Instance Operation

/-- A character that separates the parts of a path. -/
def isSeparator (c : Char) : Bool :=
  c == '.' || c == '/'

theorem toList_normalizePath (path : String) :
    (normalizePath path).toList = path.toList.map fun c => if c = '.' then '/' else c := by
  unfold normalizePath
  rw [String.toList_ofList]

/-- In normal form, a path begins with a slash if it began with a separator. -/
theorem head?_normalizePath (path : String) :
    (normalizePath path).toList.head? = some '/' ↔ path.toList.head?.any isSeparator = true := by
  rw [toList_normalizePath, List.head?_map]
  cases path.toList.head? with
  | none => simp
  | some c =>
    by_cases dot : c = '.'
    · simp [dot, isSeparator]
    · simp [dot, isSeparator]

/-- A text that does not begin with a slash keeps all of it when slashes are
dropped. -/
theorem dropWhile_slash (text : List Char) (bare : text.head? ≠ some '/') :
    text.dropWhile (· == '/') = text := by
  cases text with
  | nil => rfl
  | cons c rest =>
    have other : (c == '/') = false := by
      apply beq_eq_false_iff_ne.mpr
      intro same
      exact bare (congrArg some same)
    rw [List.dropWhile_cons, other]
    rfl

namespace Binding

/-- The path of the binding begins with a separator. -/
def Led (binding : Binding) : Prop :=
  binding.path.toList.head?.any isSeparator = true

/-- The name under which a client asks for a binding. -/
def address (binding : Binding) : String :=
  String.ofList (binding.entrypoint.toList.dropWhile (· == '/'))

/-- Without a separator to begin with, both names of a binding are the same. -/
theorem address_eq {binding : Binding} (plain : ¬ binding.Led) :
    binding.address = binding.entrypoint := by
  have bare : binding.entrypoint.toList.head? ≠ some '/' := by
    intro slash
    exact plain ((head?_normalizePath binding.path).mp slash)
  unfold address
  rw [dropWhile_slash _ bare, String.ofList_toList]

/-- With one, a host looks for no name that begins otherwise. -/
theorem Led.entrypoint_ne {binding : Binding} (led : binding.Led) {name : String}
    (bare : name.toList.head? ≠ some '/') : binding.entrypoint ≠ name := by
  intro same
  apply bare
  rw [← same]
  exact (head?_normalizePath binding.path).mpr led

end Binding

namespace Remote.Client

/-- To decide a binding, the client posts a request for the policy of a name. -/
def Posts (client : Client) (binding : Binding) (input : Value) (name : String) : Prop :=
  ∃ exchange, client.exchange (.decide binding input) = .ok exchange ∧
    exchange.request.method = .post ∧ exchange.request.url = client.baseUrl ++ "/v1/data/" ++ name

theorem exchange_decide {client : Client} {binding : Binding} {input : Value} {exchange : Exchange}
    (made : client.exchange (.decide binding input) = .ok exchange) :
    exchange.request.method = .post ∧
      exchange.request.url = client.baseUrl ++ "/v1/data/" ++ binding.address := by
  cases prepared : binding.prepareInput input with
  | error report => simp [Client.exchange, prepared] at made
  | ok value =>
    cases encoded : Payload.encode value with
    | error report => simp [Client.exchange, asking, prepared, encoded] at made
    | ok bytes =>
      simp only [Client.exchange, asking, prepared, encoded, Except.ok.injEq] at made
      rw [← made]
      exact ⟨rfl, rfl⟩

theorem exchange_prepared {client : Client} {binding : Binding} {input : Value}
    {exchange : Exchange} (made : client.exchange (.decide binding input) = .ok exchange) :
    ∃ value, binding.prepareInput input = .ok value := by
  cases prepared : binding.prepareInput input with
  | ok value => exact ⟨value, rfl⟩
  | error report => simp [Client.exchange, prepared] at made

theorem posts_iff {client : Client} {binding : Binding} {input : Value} {exchange : Exchange}
    (made : client.exchange (.decide binding input) = .ok exchange) (name : String) :
    client.Posts binding input name ↔ binding.address = name := by
  have sent := exchange_decide made
  constructor
  · intro posts
    obtain ⟨other, again, _, url⟩ := posts
    have same : exchange = other := Except.ok.inj (made.symm.trans again)
    have urls := sent.2.symm.trans (same ▸ url)
    exact String.append_right_inj _ |>.mp urls
  · intro same
    exact ⟨exchange, made, sent.1, same ▸ sent.2⟩

end Remote.Client

namespace Host

variable {host : Host σ}

/-- The path of a binding is looked up as the name of an entrypoint, and found. -/
def Resolves (host : Host σ) (binding : Binding) (name : String) : Prop :=
  ∃ id, outcome (resolve binding.path) host = (.ok (name, id), host)

theorem resolve_outcome (asked : String) :
    outcome (resolve asked) host =
      match host.published asked with
      | some id => (.ok (normalizePath asked, id), host)
      | none => (.error (.report (Report.unknownEntrypoint (normalizePath asked)
          (host.entrypoints.map (·.1)))), host) := by
  unfold outcome resolve published
  dsimp only
  cases host.entrypoints.find? fun e => e.1 == normalizePath asked with
  | none => rfl
  | some row => rfl

theorem resolves_iff {binding : Binding} {name : String} (nodup : (host.entrypoints.map (·.1)).Nodup)
    (listed : ∃ id, (name, id) ∈ host.entrypoints) :
    host.Resolves binding name ↔ binding.entrypoint = name := by
  unfold Resolves
  rw [resolve_outcome]
  constructor
  · intro resolves
    obtain ⟨id, resolved⟩ := resolves
    cases found : host.published binding.path with
    | none => simp [found] at resolved
    | some other =>
      simp only [found, Prod.mk.injEq, Except.ok.injEq, and_true] at resolved
      exact resolved.1
  · intro same
    obtain ⟨id, member⟩ := listed
    have found : host.published binding.path = some id := by
      rw [published_iff nodup, show normalizePath binding.path = name from same]
      exact member
    refine ⟨id, ?_⟩
    rw [found, ← same]
    rfl

/-- Deciding a binding is an evaluation, once its input has been checked. -/
theorem perform_decide {binding : Binding} {input value : Value}
    (prepared : binding.prepareInput input = .ok value) :
    outcome (perform (.decide binding input)) host =
      outcome (perform (.eval binding.path value binding.output)) host := by
  have same : (decide binding input : Operation (Host σ) Value) =
      eval binding.path value binding.output := by
    unfold decide
    rw [prepared]
    rfl
  simp only [perform, same]

/-- An evaluation under a name that is not in the table reports just that. -/
theorem eval_missing (exclusive : host.Exclusive) {asked : String} (input : Value) (schema : Schema)
    (missing : host.published asked = none) (usable : host.unusable = none)
    (free : host.occupied = none) :
    (outcome (perform (.eval asked input schema)) host).1 =
      .error (.report (Report.unknownEntrypoint (normalizePath asked)
        (host.entrypoints.map (·.1)))) := by
  have idle : host.busy = false := by
    rw [← Bool.not_eq_true]
    intro busy
    have occupied := exclusive.occupied_eq
    simp [busy, free] at occupied
  have ends : Ends (perform (.eval asked input schema)) host (fun _ _ => False)
      (fun fault _ => fault = .report (Report.unknownEntrypoint (normalizePath asked)
        (host.entrypoints.map (·.1)))) := by
    unfold perform eval
    rw [ends_bind, ends_bind, checkUsable_unusable, usable]
    apply exclusively_free idle
    rw [ends_bind, resolve_unknown, published_locked, missing]
    exact ⟨rfl, rfl⟩
  obtain ⟨_, _, impossible⟩ | ⟨fault, failed, reason⟩ := ends.outcome
  · exact impossible.elim
  · rw [failed, reason]

/-- How a host and a client follow a binding to the policy of a name. -/
structure Addressed (host : Host σ) (client : Remote.Client) (binding : Binding) (input : Value)
    (name : String) : Prop where
  resolves : host.Resolves binding name ↔ binding.entrypoint = name
  posts : client.Posts binding input name ↔ binding.address = name
  /-- They mean the same, except by a path that begins with a separator. -/
  agrees : (host.Resolves binding name ↔ client.Posts binding input name) ↔
    ¬ (binding.Led ∧ client.Posts binding input name)
  /-- What a host resolves a binding to is what it evaluates. -/
  evaluates : host.Resolves binding name → host.unusable = none → host.occupied = none →
    ∀ data, host.dataset = some data →
      ∃ id value, host.published binding.path = some id ∧
        binding.prepareInput input = .ok value ∧
        let evaluated := outcome (host.discipline.evaluate host.terms host.checkpoints name id data
          value binding.output) host.guest
        (outcome (perform (.decide binding input)) host).1 = evaluated.1.map .value ∧
          (outcome (perform (.decide binding input)) host).2.guest = evaluated.2
  /-- A binding that is not in the table is an unknown entrypoint. -/
  misses : host.published binding.path = none → host.unusable = none → host.occupied = none →
    (outcome (perform (.decide binding input)) host).1 =
      .error (.report (Report.unknownEntrypoint binding.entrypoint (host.entrypoints.map (·.1))))

variable {client : Remote.Client} {binding : Binding} {input : Value} {exchange : Remote.Exchange}
variable {name : String}

/-- Whether they agree is decided by how the path begins. -/
theorem agrees_iff (resolves : host.Resolves binding name ↔ binding.entrypoint = name)
    (posts : client.Posts binding input name ↔ binding.address = name)
    (bare : name.toList.head? ≠ some '/') :
    (host.Resolves binding name ↔ client.Posts binding input name) ↔
      ¬ (binding.Led ∧ client.Posts binding input name) := by
  rw [resolves, posts]
  by_cases led : binding.Led
  · have astray : binding.entrypoint ≠ name := led.entrypoint_ne bare
    simp [led, astray]
  · simp [led, Binding.address_eq led]

theorem resolves_evaluates (exclusive : host.Exclusive)
    (made : client.exchange (.decide binding input) = .ok exchange)
    (resolves : host.Resolves binding name) (usable : host.unusable = none)
    (free : host.occupied = none) {data : Address} (installed : host.dataset = some data) :
    ∃ id value, host.published binding.path = some id ∧ binding.prepareInput input = .ok value ∧
      let evaluated := outcome (host.discipline.evaluate host.terms host.checkpoints name id data
        value binding.output) host.guest
      (outcome (perform (.decide binding input)) host).1 = evaluated.1.map .value ∧
        (outcome (perform (.decide binding input)) host).2.guest = evaluated.2 := by
  obtain ⟨value, prepared⟩ := Remote.Client.exchange_prepared made
  obtain ⟨id, resolved⟩ := resolves
  rw [resolve_outcome] at resolved
  cases published : host.published binding.path with
  | none => simp [published] at resolved
  | some found =>
    simp only [published, Prod.mk.injEq, Except.ok.injEq, and_true] at resolved
    have evaluated := eval_outcome exclusive binding.path found value binding.output data usable
      free published installed
    rw [resolved.1] at evaluated
    refine ⟨found, value, rfl, prepared, ?_⟩
    rw [perform_decide prepared]
    exact evaluated

/-- A host and a client mean the same policy by a binding, unless its path begins
with a separator. -/
theorem binding_addressed {module : Module σ} {builder : Builder} {journal journal' : Journal}
    (built : builder.instantiate module journal = .ok host journal') (uses : List Use)
    (made : client.exchange (.decide binding input) = .ok exchange)
    (bare : name.toList.head? ≠ some '/')
    (listed : ∃ id, (name, id) ∈ (run uses host).2.entrypoints) :
    (run uses host).2.Addressed client binding input name := by
  have nodup : ((run uses host).2.entrypoints.map (·.1)).Nodup := by
    rw [run_entrypoints uses host]
    exact Builder.instantiate_names_nodup built
  have exclusive : (run uses host).2.Exclusive :=
    (Builder.instantiate_equips built).1.exclusive.run uses
  have resolves : (run uses host).2.Resolves binding name ↔ binding.entrypoint = name :=
    resolves_iff nodup listed
  have posts := Remote.Client.posts_iff made name
  constructor
  · exact resolves
  · exact posts
  · exact agrees_iff resolves posts bare
  · intro resolved usable free data installed
    exact resolves_evaluates exclusive made resolved usable free installed
  · intro missing usable free
    obtain ⟨value, prepared⟩ := Remote.Client.exchange_prepared made
    rw [perform_decide prepared]
    exact eval_missing exclusive value binding.output missing usable free

/-- Separators of both kinds may be mixed. -/
theorem binding_addressed_mixed :
    Builder.Builds {} Policy.standard.toModule fun host =>
      let binding : Binding := ⟨"Echo", "echo.input", .any, .any⟩
      let client := Remote.Client.make "http://localhost:8181/" true
      (∃ exchange, client.exchange (.decide binding .null) = .ok exchange) ∧
        "echo/input".toList.head? ≠ some '/' ∧
        (∃ id, ("echo/input", id) ∈ (run [.setData .null] host).2.entrypoints) ∧
        (run [.setData .null] host).2.Addressed client binding .null "echo/input" := by
  have begun : Builder.Builds {} Policy.standard.toModule fun host =>
      ("echo/input", 0) ∈ (run [.setData .null] host).2.entrypoints := by
    decide +kernel
  obtain ⟨host, journal, built, listed⟩ := begun
  obtain ⟨exchange, made⟩ : ∃ exchange, (Remote.Client.make "http://localhost:8181/" true).exchange
      (.decide ⟨"Echo", "echo.input", .any, .any⟩ .null) = .ok exchange := ⟨_, rfl⟩
  have bare : "echo/input".toList.head? ≠ some '/' := by decide
  refine ⟨host, journal, built, ⟨exchange, made⟩, bare, ⟨0, listed⟩, ?_⟩
  exact binding_addressed built [.setData .null] made bare ⟨0, listed⟩

/-- By a path that begins with a separator, a client reaches a policy that the
host has, and the host does not find it. -/
theorem binding_astray :
    Builder.Builds {} Policy.standard.toModule fun host =>
      ∃ binding, Binding.root.declare ⟨"Echo", some (.text "/echo/input"), none, none, false⟩ =
          .ok binding ∧
        ("echo/input", 0) ∈ (run [.setData .null] host).2.entrypoints ∧
        (Remote.Client.make "http://localhost:8181" true).Posts binding .null "echo/input" ∧
        ¬ (run [.setData .null] host).2.Resolves binding "echo/input" ∧
        (outcome (perform (.decide binding .null)) (run [.setData .null] host).2).1 =
          .error (.report (Report.unknownEntrypoint "/echo/input"
            ((run [.setData .null] host).2.entrypoints.map (·.1)))) := by
  have begun : Builder.Builds {} Policy.standard.toModule fun host =>
      let later := (run [.setData .null] host).2
      ("echo/input", 0) ∈ later.entrypoints ∧ later.published "/echo/input" = none ∧
        later.unusable = none ∧ later.occupied = none := by
    decide +kernel
  obtain ⟨host, journal, built, listed, missing, usable, free⟩ := begun
  have exclusive := (Builder.instantiate_equips built).1.exclusive.run [.setData .null]
  refine ⟨host, journal, built, ⟨"Echo", "/echo/input", .any, .any⟩, rfl, listed, ?_, ?_, ?_⟩
  · exact ⟨_, rfl, rfl, rfl⟩
  · intro resolves
    obtain ⟨id, resolved⟩ := resolves
    simp [resolve_outcome, missing] at resolved
  · rw [perform_decide rfl]
    exact eval_missing exclusive .null .any missing usable free

end Host
end PolicyHost
