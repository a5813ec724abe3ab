import PolicyHost.Guest.Behaviour
import PolicyHost.Proofs.Listing
import PolicyHost.Proofs.Publication

namespace PolicyHost

/-!
# Entrypoints by their names

A host keeps the names in its table as the guest published them, and looks a
name up in normal form, with slashes.  An entrypoint whose name is in normal
form is found under it and under its dotted form.  One whose name holds a dot is
never found, unless the table has the normal form of its name as well, and then
that is what is found in its place.
-/

variable {σ : Type}

open Instance Operation

/-- A policy path with every separator a dot. -/
def dottedPath (path : String) : String :=
  String.ofList (path.toList.map fun c => if c = '/' then '.' else c)

theorem normalizePath_dottedPath (path : String) :
    normalizePath (dottedPath path) = normalizePath path := by
  unfold normalizePath dottedPath
  rw [String.toList_ofList, List.map_map]
  congr 2
  funext c
  by_cases slash : c = '/'
  · subst slash
    rfl
  · simp [slash]

theorem normalizePath_eq (path : String) (normal : '.' ∉ path.toList) :
    normalizePath path = path := by
  have kept : (path.toList.map fun c => if c = '.' then '/' else c) = path.toList := by
    refine (List.map_congr_left fun c member => ?_).trans (List.map_id _)
    have other : c ≠ '.' := fun same => normal (same ▸ member)
    exact if_neg other
  unfold normalizePath
  rw [kept, String.ofList_toList]

/-- No name with a dot is looked up as it is. -/
theorem normalizePath_ne (path : String) (dotted : '.' ∈ path.toList) :
    normalizePath path ≠ path := by
  intro same
  rw [← same] at dotted
  unfold normalizePath at dotted
  rw [String.toList_ofList, List.mem_map] at dotted
  obtain ⟨c, _, turned⟩ := dotted
  split at turned
  · cases turned
  · rename_i other
    exact other turned

/-- In a table that has each name once, a name leads to its own row. -/
theorem find?_row (rows : List (String × Int)) (nodup : (rows.map (·.1)).Nodup) (name : String)
    (id : Int) :
    ((rows.find? fun row => row.1 == name).map (·.2) = some id) ↔ (name, id) ∈ rows := by
  induction rows with
  | nil => simp
  | cons row rest inductionHypothesis =>
    obtain ⟨key, n⟩ := row
    have parts := List.nodup_cons.mp nodup
    by_cases same : key = name
    · subst same
      have absent : (key, id) ∉ rest := fun member =>
        parts.1 (List.mem_map.mpr ⟨_, member, rfl⟩)
      simp [absent, eq_comm]
    · have other : (key == name) = false := by simpa using same
      have apart : ¬ name = key := Ne.symm same
      rw [List.find?_cons, other, inductionHypothesis parts.2]
      simp [apart]

namespace Host

variable {host : Host σ}

theorem published_iff (nodup : (host.entrypoints.map (·.1)).Nodup) (asked : String) (id : Int) :
    host.published asked = some id ↔ (normalizePath asked, id) ∈ host.entrypoints :=
  find?_row host.entrypoints nodup (normalizePath asked) id

/-- What is found under a name. -/
theorem entrypointId_outcome (asked : String) :
    outcome (perform (.entrypointId asked)) host =
      match host.published asked with
      | some id => (.ok (.entrypoint id), host)
      | none => (.error (.report (Report.unknownEntrypoint (normalizePath asked)
          (host.entrypoints.map (·.1)))), host) := by
  have ends : Ends (perform (.entrypointId asked)) host
      (fun answer after => ∃ id, host.published asked = some id ∧ answer = .entrypoint id ∧
        after = host)
      (fun fault after => host.published asked = none ∧ fault = .report
        (Report.unknownEntrypoint (normalizePath asked) (host.entrypoints.map (·.1))) ∧
          after = host) := by
    unfold perform
    rw [ends_bind, resolve_unknown]
    cases published : host.published asked with
    | some id => exact ⟨id, rfl, rfl, rfl⟩
    | none => exact ⟨rfl, rfl, rfl⟩
  have known := ends.and (ends_outcome (perform (.entrypointId asked)) host)
  obtain ⟨answer, _, ⟨id, published, rfl, same⟩, both⟩ | ⟨fault, _, ⟨missing, rfl, same⟩, both⟩ :=
    known.outcome
  · rw [same] at both
    rw [both, published]
  · rw [same] at both
    rw [both, missing]

/-- A single evaluation runs what is found under the name. -/
theorem eval_ends (exclusive : host.Exclusive) (asked : String) (id : Int) (input : Value)
    (schema : Schema) (data : Address) (usable : host.unusable = none)
    (free : host.occupied = none) (published : host.published asked = some id)
    (installed : host.dataset = some data) :
    Ends (perform (.eval asked input schema)) host
      (fun answer after => ∃ value, answer = .value value ∧
        outcome (host.discipline.evaluate host.terms host.checkpoints (normalizePath asked) id data
          input schema) host.guest = (.ok value, after.guest))
      (fun fault after =>
        outcome (host.discipline.evaluate host.terms host.checkpoints (normalizePath asked) id data
          input schema) host.guest = (.error fault, after.guest)) := by
  have idle : host.busy = false := by
    have occupied := exclusive.occupied_eq
    cases busy : host.busy with
    | false => rfl
    | true =>
      rw [busy, free] at occupied
      exact nomatch occupied
  unfold perform eval
  rw [ends_bind, ends_bind, checkUsable_unusable, usable]
  apply exclusively_free idle
  rw [ends_bind, resolve_unknown, published_locked, published]
  dsimp only
  rw [ends_bind, requireData_some _ (by exact installed), onGuest_ends]
  exact (ends_outcome _ host.guest).mono (fun value _ same => ⟨rfl, value, rfl, same⟩)
    fun _ _ same => ⟨rfl, same⟩

/-- It answers with what the evaluation comes to, and leaves the guest as that does. -/
theorem eval_outcome (exclusive : host.Exclusive) (asked : String) (id : Int) (input : Value)
    (schema : Schema) (data : Address) (usable : host.unusable = none)
    (free : host.occupied = none) (published : host.published asked = some id)
    (installed : host.dataset = some data) :
    let evaluated := outcome (host.discipline.evaluate host.terms host.checkpoints
      (normalizePath asked) id data input schema) host.guest
    (outcome (perform (.eval asked input schema)) host).1 = evaluated.1.map .value ∧
      (outcome (perform (.eval asked input schema)) host).2.guest = evaluated.2 := by
  have ends := eval_ends exclusive asked id input schema data usable free published installed
  obtain ⟨answer, returned, value, rfl, evaluated⟩ | ⟨fault, failed, evaluated⟩ := ends.outcome
  · rw [returned, evaluated]
    exact ⟨rfl, rfl⟩
  · rw [failed, evaluated]
    exact ⟨rfl, rfl⟩

/-- An entrypoint is found under its name and under the dotted form of that, and it
is what a single evaluation runs, as soon as there is a dataset. -/
structure Offers (host : Host σ) (name : String) (id : Int) : Prop where
  found : outcome (perform (.entrypointId name)) host = (.ok (.entrypoint id), host)
  dotted : outcome (perform (.entrypointId (dottedPath name))) host = (.ok (.entrypoint id), host)
  runs : host.unusable = none → host.occupied = none → ∀ data, host.dataset = some data →
    ∀ input schema,
      let evaluated := outcome (host.discipline.evaluate host.terms host.checkpoints name id data
        input schema) host.guest
      (outcome (perform (.eval name input schema)) host).1 = evaluated.1.map .value ∧
        (outcome (perform (.eval name input schema)) host).2.guest = evaluated.2

theorem offers (exclusive : host.Exclusive) (nodup : (host.entrypoints.map (·.1)).Nodup)
    (name : String) (id : Int) (member : (name, id) ∈ host.entrypoints)
    (normal : '.' ∉ name.toList) : host.Offers name id := by
  have same := normalizePath_eq name normal
  have published : host.published name = some id := by
    rw [published_iff nodup, same]
    exact member
  have dotted : host.published (dottedPath name) = some id := by
    rw [published_iff nodup, normalizePath_dottedPath, same]
    exact member
  constructor
  · rw [entrypointId_outcome, published]
  · rw [entrypointId_outcome, dotted]
  · intro usable free data installed input schema
    have evaluated := eval_outcome exclusive name id input schema data usable free published
      installed
    rwa [same] at evaluated

/-- What can be said of the table of a host, whatever names it holds. -/
structure Tabled (builder : Builder) (module : Module σ) (host : Host σ) : Prop where
  /-- It is what the guest published, where the last row with a name counts. -/
  published : ∃ rows, builder.Publishes module (host.discipline.terms builder.maxPages) rows ∧
    ∀ name id, (name, id) ∈ host.entrypoints ↔
      (rows.reverse.find? fun row => row.1 == name) = some (name, id)
  once : (host.entrypoints.map (·.1)).Nodup
  lasting : ∀ uses, (run uses host).2.entrypoints = host.entrypoints
  /-- Whatever was done with the host, a name without dots is offered. -/
  offered : ∀ uses, ∀ e ∈ host.entrypoints, '.' ∉ e.1.toList → (run uses host).2.Offers e.1 e.2
  /-- In the place of a name with a dot, its normal form is found, if at all. -/
  misled : ∀ uses, ∀ e ∈ host.entrypoints, '.' ∈ e.1.toList → normalizePath e.1 ≠ e.1 ∧
    ∀ id, (outcome (perform (.entrypointId e.1)) (run uses host).2).1 = .ok (.entrypoint id) ↔
      (normalizePath e.1, id) ∈ host.entrypoints
  /-- The command lists what is found. -/
  listed : ∀ (around : Command.Surroundings) (engine : Engine σ) (file : Command.File),
    (Command.readBundle around file).bind (Command.buildHost engine {}) = .ok host →
      Command.Lists around engine file host
  /-- That is the whole table, if no name has a dot. -/
  complete : (∀ e ∈ host.entrypoints, '.' ∉ e.1.toList) →
    (∀ e ∈ host.entrypoints, host.published e.1 = some e.2) ∧
      (Command.listing host).Perm host.entrypoints

/-- Whatever table a guest publishes: its names lead to their entrypoints, and are
listed with them, if they hold no dots. -/
theorem entrypoints_offered {module : Module σ} {builder : Builder} {journal journal' : Journal}
    {host : Host σ} (built : builder.instantiate module journal = .ok host journal') :
    host.Tabled builder module := by
  obtain ⟨rows, publishes, table⟩ := Builder.instantiate_publishes built
  have nodup := Builder.instantiate_names_nodup built
  have lasting : ∀ uses, (run uses host).2.entrypoints = host.entrypoints := fun uses =>
    run_entrypoints uses host
  have exclusive := (Builder.instantiate_equips built).1.exclusive
  constructor
  case published =>
    refine ⟨rows, publishes, fun name id => ?_⟩
    rw [table]
    exact Document.mem_settle rows name id
  case once => exact nodup
  case lasting => exact lasting
  case offered =>
    intro uses e member normal
    apply offers (exclusive.run uses) _ e.1 e.2 _ normal
    · rw [lasting uses]
      exact nodup
    · rw [lasting uses]
      exact member
  case misled =>
    intro uses e member dotted
    refine ⟨normalizePath_ne e.1 dotted, fun id => ?_⟩
    rw [entrypointId_outcome, ← lasting uses, ← published_iff (by rwa [lasting uses])]
    cases (run uses host).2.published e.1 with
    | some found => simp
    | none => simp
  case listed =>
    exact fun around engine file read =>
      Command.entrypoints_lists around engine file host read
  case complete =>
    intro normal
    have own : ∀ e ∈ host.entrypoints, host.published e.1 = some e.2 := by
      intro e member
      rw [published_iff nodup, normalizePath_eq e.1 (normal e member)]
      exact member
    exact ⟨own, Command.listing_perm host own⟩

end Host

/-- The standard policy, which calls one of its entrypoints by a dotted name. -/
def Policy.dotted : Policy :=
  { standard with table := Utf8.encode "\x7b\"a.b\":0,\"echo/data\":1\x7d" }

namespace Host

theorem entrypoints_offered_dotted :
    Builder.Builds {} Policy.dotted.toModule fun host =>
      host.entrypoints = [("a.b", 0), ("echo/data", 1)] ∧
        host.Tabled {} Policy.dotted.toModule ∧
        (run [.setData .null] host).2.Offers "echo/data" 1 := by
  have begun : Builder.Builds {} Policy.dotted.toModule fun host =>
      host.entrypoints = [("a.b", 0), ("echo/data", 1)] := by
    decide +kernel
  obtain ⟨host, journal, built, table⟩ := begun
  have tabled := entrypoints_offered built
  refine ⟨host, journal, built, table, tabled, ?_⟩
  exact tabled.offered [.setData .null] ("echo/data", 1) (by simp [table]) (by decide)

/-- Not every name that is published leads anywhere. -/
theorem dotted_unknown :
    Builder.Builds {} Policy.dotted.toModule fun host =>
      ¬ ∀ e ∈ host.entrypoints,
        (outcome (perform (.entrypointId e.1)) host).1 = .ok (.entrypoint e.2) := by
  have begun : Builder.Builds {} Policy.dotted.toModule fun host =>
      host.entrypoints = [("a.b", 0), ("echo/data", 1)] ∧ host.published "a.b" = none := by
    decide +kernel
  obtain ⟨host, journal, built, table, missing⟩ := begun
  refine ⟨host, journal, built, fun found => ?_⟩
  have answered := found ("a.b", 0) (by simp [table])
  rw [entrypointId_outcome, missing] at answered
  exact nomatch answered

end Host
end PolicyHost
