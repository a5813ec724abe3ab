import Mathlib.Data.List.Basic
import PolicyHost.Proofs.Construction

namespace PolicyHost

/-!
# What a guest publishes

A guest publishes its entrypoints as a document: an object whose members are
names with identifiers.  The table of a host is that object, read strictly.
Where a name is repeated its last identifier counts, so that each name is in
the table once.
-/

variable {σ α : Type}

namespace Checked

/-- All outcomes fit if each does, and then the values are theirs. -/
theorem all_ok {β : Type} (check : β → Checked α) (items : List β) (fit : Fit (List α))
    (fits : Checked.all (items.map check) = .ok fit) :
    List.Forall₂ (fun item value => ∃ one, check item = .ok one ∧ one.value = value) items
      fit.value := by
  induction items generalizing fit with
  | nil =>
    cases fits
    exact .nil
  | cons item rest inductionHypothesis =>
    rw [List.map_cons, Checked.all] at fits
    cases first : check item with
    | error issues =>
      rw [first] at fits
      cases others : Checked.all (rest.map check) <;> rw [others] at fits <;> cases fits
    | ok one =>
      rw [first] at fits
      cases others : Checked.all (rest.map check) with
      | error issues =>
        rw [others] at fits
        cases fits
      | ok many =>
        rw [others] at fits
        cases fits
        exact .cons ⟨one, first, rfl⟩ (inductionHypothesis many others)

end Checked

namespace Strict

/-- Only a whole number is read as one. -/
theorem check_int (document : Document) (fit : Fit Value)
    (fits : Strict.check .int document = .ok fit) :
    ∃ n, document = .int n ∧ fit.value = .int n := by
  cases document with
  | int n =>
    rw [Strict.check.eq_def] at fits
    cases fits
    exact ⟨n, rfl, rfl⟩
  | _ =>
    rw [Strict.check.eq_def] at fits
    cases fits

end Strict

namespace Document

section Stored

variable {κ : Type} [DecidableEq κ] (stored : List (κ × α)) (name : κ) (a : α)

/-- A stored member takes the place of the one with its name, or comes last. -/
theorem putMember_names :
    (putMember stored name a).map (·.1) =
      if name ∈ stored.map (·.1) then stored.map (·.1) else stored.map (·.1) ++ [name] := by
  induction stored with
  | nil => rfl
  | cons m rest inductionHypothesis =>
    unfold putMember
    by_cases same : m.1 = name
    · simp [same]
    · have other : ¬ (m.1 == name) = true := by simpa using same
      have apart : ¬ name = m.1 := Ne.symm same
      rw [if_neg other]
      simp only [List.map_cons, inductionHypothesis, List.mem_cons, apart, false_or]
      split <;> rfl

theorem putMember_nodup (nodup : (stored.map (·.1)).Nodup) :
    ((putMember stored name a).map (·.1)).Nodup := by
  rw [putMember_names]
  split
  · exact nodup
  · rename_i absent
    simp only [List.nodup_append, List.nodup_singleton, List.mem_singleton]
    refine ⟨nodup, trivial, ?_⟩
    rintro other member _ rfl rfl
    exact absent member

/-- What is stored under a name is what was stored last. -/
theorem mem_putMember (nodup : (stored.map (·.1)).Nodup) (other : κ) (b : α) :
    (other, b) ∈ putMember stored name a ↔
      if other = name then b = a else (other, b) ∈ stored := by
  induction stored with
  | nil =>
    unfold putMember
    by_cases same : other = name <;> simp [same]
  | cons m rest inductionHypothesis =>
    obtain ⟨key, c⟩ := m
    have parts := List.nodup_cons.mp nodup
    unfold putMember
    by_cases replaced : key = name
    · subst replaced
      have absent : ∀ d, (key, d) ∉ rest := by
        intro d member
        exact parts.1 (List.mem_map.mpr ⟨_, member, rfl⟩)
      by_cases same : other = key
      · subst same
        simp [absent]
      · simp [same]
    · have kept : ¬ (key == name) = true := by simpa using replaced
      rw [if_neg kept, List.mem_cons, inductionHypothesis parts.2, List.mem_cons]
      by_cases same : other = name
      · subst same
        have apart : ¬ other = key := Ne.symm replaced
        simp [apart]
      · simp [same]

end Stored

variable (rows : List (String × α)) (name : String)

theorem settle_append (m : String × α) :
    settle (rows ++ [m]) = putMember (settle rows) m.1 m.2 := by
  unfold settle
  rw [List.foldl_append]
  rfl

/-- Each name counts once. -/
theorem settle_nodup : ((settle rows).map (·.1)).Nodup := by
  induction rows using List.reverseRecOn with
  | nil => exact List.nodup_nil
  | append_singleton rest m inductionHypothesis =>
    rw [settle_append]
    exact putMember_nodup _ _ _ inductionHypothesis

/-- The last of the members with a name counts. -/
theorem mem_settle (b : α) :
    (name, b) ∈ settle rows ↔ (rows.reverse.find? fun row => row.1 == name) = some (name, b) := by
  induction rows using List.reverseRecOn with
  | nil => simp [settle]
  | append_singleton rest m inductionHypothesis =>
    obtain ⟨key, c⟩ := m
    rw [settle_append, mem_putMember _ _ _ (settle_nodup rest), List.reverse_append,
      List.reverse_singleton, List.singleton_append, List.find?_cons]
    by_cases same : key = name
    · subst same
      simp [eq_comm]
    · have other : (key == name) = false := by simpa using same
      have apart : ¬ name = key := Ne.symm same
      rw [other, if_neg apart]
      exact inductionHypothesis

end Document

namespace Value

/-- An entry of a table. -/
def ofRow (row : String × Int) : Value × Value := (.text row.1, .int row.2)

theorem same_text (s t : String) : Value.same (.text s) (.text t) = (s == t) := by
  rw [Value.same.eq_def]

section

variable {β : Type} (toValue : β → Value)

def named (row : String × β) : Value × Value := (.text row.1, toValue row.2)

theorem insertEntry_named (stored : List (String × β)) (name : String) (b : β)
    (nodup : (stored.map (·.1)).Nodup) :
    insertEntry (stored.map (named toValue)) (.text name) (toValue b) =
      (Document.putMember stored name b).map (named toValue) := by
  induction stored with
  | nil => rfl
  | cons m rest inductionHypothesis =>
    obtain ⟨key, c⟩ := m
    have parts := List.nodup_cons.mp nodup
    have unfolded := inductionHypothesis parts.2
    unfold Document.putMember
    unfold insertEntry at unfolded ⊢
    simp only [List.map_cons, List.any_cons, named, same_text]
    by_cases same : key = name
    · subst same
      have apart : ∀ row ∈ rest, (row.1 == key) = false := by
        intro row member
        have differs : row.1 ≠ key := fun equal =>
          parts.1 (List.mem_map.mpr ⟨row, member, equal⟩)
        simpa using differs
      simp only [beq_self_eq_true, Bool.true_or, if_true, List.map_cons, List.map_map]
      refine congrArg _ (List.map_congr_left fun row member => ?_)
      simp [named, same_text, apart row member]
    · have other : (key == name) = false := by simpa using same
      rw [other]
      simp only [Bool.false_or, Bool.false_eq_true, if_false, List.map_cons]
      rw [← unfolded]
      split <;> rfl

/-- A mapping of entries under texts is the object that settles them. -/
theorem ofEntries_named (rows : List (String × β)) :
    ofEntries (rows.map (named toValue)) =
      .mapping ((Document.settle rows).map (named toValue)) := by
  have stored : (rows.map (named toValue)).foldl (fun stored e => insertEntry stored e.1 e.2) [] =
      (Document.settle rows).map (named toValue) := by
    induction rows using List.reverseRecOn with
    | nil => rfl
    | append_singleton rest m inductionHypothesis =>
      rw [List.map_append, List.foldl_append, inductionHypothesis, Document.settle_append]
      exact insertEntry_named toValue _ m.1 m.2 (Document.settle_nodup rest)
  rw [ofEntries, stored]

end

end Value

namespace Strict

/-- How a member of a table is read. -/
def checkRow (m : String × Document) : Checked (Value × Value) :=
  Checked.both Prod.mk
    ((((Lenient.check .text (.text m.1)).atMost .close).within "[key]").within m.1)
    ((Strict.check .int m.2).within m.1)

theorem checkRow_ok (m : String × Document) (fit : Fit (Value × Value))
    (fits : checkRow m = .ok fit) :
    ∃ n, m = (m.1, .int n) ∧ fit.value = Value.ofRow (m.1, n) := by
  obtain ⟨name, document⟩ := m
  unfold checkRow at fits
  rw [Lenient.check.eq_def] at fits
  cases checked : Strict.check .int document with
  | error issues =>
    rw [checked] at fits
    cases fits
  | ok found =>
    obtain ⟨n, rfl, same⟩ := check_int document found checked
    rw [checked] at fits
    cases fits
    exact ⟨n, rfl, congrArg (Prod.mk _) same⟩

theorem rows_of_checked {members : List (String × Document)} {values : List (Value × Value)}
    (checked : List.Forall₂ (fun m value => ∃ fit, checkRow m = .ok fit ∧ fit.value = value)
      members values) :
    ∃ rows : List (String × Int), members = rows.map (fun row => (row.1, .int row.2)) ∧
      values = rows.map Value.ofRow := by
  induction checked with
  | nil => exact ⟨[], rfl, rfl⟩
  | @cons m _ _ _ first _ inductionHypothesis =>
    obtain ⟨fit, fits, rfl⟩ := first
    obtain ⟨n, named, same⟩ := checkRow_ok m fit fits
    obtain ⟨rows, rfl, rfl⟩ := inductionHypothesis
    refine ⟨(m.1, n) :: rows, ?_, ?_⟩
    · rw [List.map_cons, ← named]
    · rw [List.map_cons, ← same]

theorem check_table (document : Document) (fit : Fit Value)
    (fits : Strict.check (.mapping .text .int) document = .ok fit) :
    ∃ rows : List (String × Int), document = .object (rows.map fun row => (row.1, .int row.2)) ∧
      fit.value = .mapping ((Document.settle rows).map Value.ofRow) := by
  rw [Strict.check.eq_def] at fits
  cases document with
  | object members =>
    change (Checked.all (members.map checkRow)).mapValue Value.ofEntries = _ at fits
    cases checked : Checked.all (members.map checkRow) with
    | error issues =>
      rw [checked] at fits
      cases fits
    | ok found =>
      rw [checked] at fits
      cases fits
      have pairs := Checked.all_ok checkRow members found checked
      obtain ⟨rows, rfl, same⟩ := rows_of_checked pairs
      refine ⟨rows, rfl, ?_⟩
      rw [same]
      exact Value.ofEntries_named .int rows
  | _ => cases fits

end Strict

namespace Payload

theorem decode_table (raw : Bytes) (value : Value)
    (decoded : decode raw (.mapping .text .int) = .ok value) :
    ∃ rows : List (String × Int),
      Json.read raw = some (.object (rows.map fun row => (row.1, .int row.2))) ∧
        value = .mapping ((Document.settle rows).map Value.ofRow) := by
  unfold decode Strict.validateBytes at decoded
  cases read : Json.read raw with
  | none =>
    rw [read] at decoded
    cases decoded
  | some document =>
    rw [read] at decoded
    dsimp only at decoded
    unfold Strict.validate at decoded
    cases checked : Strict.check (.mapping .text .int) document with
    | error issues =>
      rw [checked] at decoded
      cases decoded
    | ok fit =>
      rw [checked] at decoded
      cases decoded
      obtain ⟨rows, rfl, same⟩ := Strict.check_table document fit checked
      exact ⟨rows, rfl, same⟩

end Payload

namespace Builder

theorem entrypointsOf_rows (rows : List (String × Int)) :
    entrypointsOf (.mapping (rows.map Value.ofRow)) = rows := by
  change (rows.map Value.ofRow).filterMap _ = rows
  rw [List.filterMap_map]
  exact List.filterMap_some

/-- The guest of a module publishes these rows.  When its start function had run, it
answered with a document to the question for its entrypoints, and the text of that
is an object of the rows. -/
def Publishes (builder : Builder) (module : Module σ) (terms : Region.Terms)
    (rows : List (String × Int)) : Prop :=
  ∃ (started : Instance σ) (document : Address) (found : Instance σ) (raw : Bytes)
    (read : Instance σ), started.module = module ∧
      (module.start (Memory.fresh initialPages builder.maxPages) module.initial).outcome =
        some ((), started.snapshot) ∧
      Instance.callAddress "entrypoints" [] started = .ok document found ∧
      Exchange.readRaw terms document found = .ok raw read ∧
      Json.read raw = some (.object (rows.map fun row => (row.1, .int row.2)))

/-- The table of a host is what its guest published, with each name once. -/
theorem instantiate_publishes {module : Module σ} {builder : Builder} {journal journal' : Journal}
    {host : Host σ} (built : builder.instantiate module journal = .ok host journal') :
    ∃ rows, builder.Publishes module (host.discipline.terms builder.maxPages) rows ∧
      host.entrypoints = Document.settle rows := by
  have made := instantiate_made host.discipline
    (fun found _ => ∃ rows, builder.Publishes module (host.discipline.terms builder.maxPages) rows ∧
      found.1 = Document.settle rows) ?_ rfl built
  · obtain ⟨_, _, _, published, _⟩ := made
    exact published
  · intro guest started _ _
    apply prepare_reads
    unfold Operation.Ends
    cases asked : Instance.callAddress "entrypoints" [] guest with
    | error fault found => trivial
    | ok document found =>
      dsimp only
      cases told : Exchange.readRaw (host.discipline.terms builder.maxPages) document found with
      | error fault read => trivial
      | ok raw read =>
        intro value decoded
        obtain ⟨rows, said, rfl⟩ := Payload.decode_table raw value decoded
        have published : builder.Publishes module (host.discipline.terms builder.maxPages) rows :=
          ⟨guest, document, found, raw, read, started.module_eq, started.outcome, asked, told, said⟩
        exact (Operation.ends_nothing _ read).mono
          (fun _ _ _ => ⟨rows, published, entrypointsOf_rows _⟩) fun _ _ _ => trivial

/-- So no name stands for two entrypoints. -/
theorem instantiate_names_nodup {module : Module σ} {builder : Builder}
    {journal journal' : Journal} {host : Host σ}
    (built : builder.instantiate module journal = .ok host journal') :
    (host.entrypoints.map (·.1)).Nodup := by
  obtain ⟨rows, _, table⟩ := instantiate_publishes built
  rw [table]
  exact Document.settle_nodup rows

end Builder
end PolicyHost
