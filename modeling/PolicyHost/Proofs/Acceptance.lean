import PolicyHost.Proofs.Manifests
import PolicyHost.Proofs.Results

namespace PolicyHost

/-!
# Documents that schemas accept

A schema accepts a document if the strict check gives a value for it, whatever the
value.  For most schemas this is a matter of the schemas they are made of.  A choice
needs more care: its members are compared before it is built, and of members that are
the same type one is kept, and when it is checked the best of several outcomes wins.
The acceptance of a choice depends on neither.  Members that are the same accept the
same documents, and there is a best outcome as soon as there is one that is not a
failure.
-/

/-! ## The best outcome -/

namespace Checked

variable {α : Type}

/-- An outcome that fits ends the search, or the search goes on with that or with what was best
before. -/
theorem bestOf_ok (best : Option (Fit α)) (issues : List Issue) (label : String) (fit : Fit α)
    (rest : List (String × Checked α)) :
    bestOf best issues ((label, .ok fit) :: rest) = .ok fit ∨
      ∃ next, (next = fit ∨ best = some next) ∧
        bestOf best issues ((label, .ok fit) :: rest) = bestOf (some next) issues rest := by
  rw [bestOf.eq_def]
  dsimp only
  split
  · exact .inl rfl
  · cases best with
    | none => exact .inr ⟨fit, .inl rfl, rfl⟩
    | some earlier =>
      refine .inr ⟨_, ?_, rfl⟩
      split
      · exact .inl rfl
      · exact .inr rfl

theorem gives_bestOf (best : Option (Fit α)) (issues : List Issue)
    (outcomes : List (String × Checked α)) (v : α) (given : (bestOf best issues outcomes).Gives v) :
    (∃ fit, best = some fit ∧ v = fit.value) ∨ ∃ outcome ∈ outcomes, outcome.2.Gives v := by
  induction outcomes generalizing best issues with
  | nil =>
    cases best with
    | none => exact given.elim
    | some fit => exact .inl ⟨fit, rfl, given⟩
  | cons first rest inductionHypothesis =>
    rw [List.exists_mem_cons_iff]
    obtain ⟨label, outcome⟩ := first
    cases outcome with
    | error found =>
      rw [bestOf.eq_def] at given
      exact (inductionHypothesis _ _ given).imp id .inr
    | ok fit =>
      obtain whole | ⟨next, origin, whole⟩ := bestOf_ok best issues label fit rest
      · rw [whole] at given
        exact .inr (.inl given)
      · rw [whole] at given
        obtain ⟨_, same, rfl⟩ | later := inductionHypothesis _ _ given
        · cases same
          obtain rfl | before := origin
          · exact .inr (.inl rfl)
          · exact .inl ⟨next, before, rfl⟩
        · exact .inr (.inr later)

theorem bestOf_gives (best : Option (Fit α)) (issues : List Issue)
    (outcomes : List (String × Checked α))
    (some_ : best.isSome ∨ ∃ outcome ∈ outcomes, ∃ v, outcome.2.Gives v) :
    ∃ v, (bestOf best issues outcomes).Gives v := by
  induction outcomes generalizing best issues with
  | nil =>
    cases best with
    | none => exact some_.elim nofun nofun
    | some fit => exact ⟨_, rfl⟩
  | cons first rest inductionHypothesis =>
    rw [List.exists_mem_cons_iff] at some_
    obtain ⟨label, outcome⟩ := first
    cases outcome with
    | error found =>
      rw [bestOf]
      apply inductionHypothesis
      obtain before | ⟨_, impossible⟩ | later := some_
      · exact .inl before
      · exact impossible.elim
      · exact .inr later
    | ok fit =>
      obtain whole | ⟨next, _, whole⟩ := bestOf_ok best issues label fit rest
      · rw [whole]
        exact ⟨_, rfl⟩
      · rw [whole]
        exact inductionHypothesis _ _ (.inl rfl)

theorem gives_ofMembers (outcomes : List (String × Checked α)) (v : α)
    (given : (ofMembers outcomes).Gives v) : ∃ outcome ∈ outcomes, outcome.2.Gives v := by
  unfold ofMembers at given
  split at given
  · exact ⟨_, List.mem_cons_self .., given⟩
  · obtain ⟨_, impossible, _⟩ | found := gives_bestOf _ _ _ v given
    · cases impossible
    · exact found

theorem ofMembers_gives (outcomes : List (String × Checked α))
    (some_ : ∃ outcome ∈ outcomes, ∃ v, outcome.2.Gives v) : ∃ v, (ofMembers outcomes).Gives v := by
  unfold ofMembers
  split
  · obtain ⟨_, member, found⟩ := some_
    rw [List.mem_singleton.mp member] at found
    exact found
  · exact bestOf_gives _ _ _ (.inr some_)

end Checked

namespace Strict

open Checked

theorem gives_any (d : Document) (v : Value) : (check .any d).Gives v ↔ v = d.value := by
  rw [check.eq_def]
  exact Iff.rfl

theorem gives_bool (d : Document) (v : Value) :
    (check .bool d).Gives v ↔ ∃ b, d = .bool b ∧ v = .bool b := by
  rw [check.eq_def]
  cases d <;> simp [Gives, fits, fails]

theorem gives_int (d : Document) (v : Value) :
    (check .int d).Gives v ↔ ∃ n, d = .int n ∧ v = .int n := by
  rw [check.eq_def]
  cases d <;> simp [Gives, fits, fails]

theorem gives_null (d : Document) (v : Value) :
    (check .null d).Gives v ↔ d = .null ∧ v = .null := by
  rw [check.eq_def]
  cases d <;> simp [Gives, fits, fails]

theorem gives_anyList (d : Document) (v : Value) :
    (check .anyList d).Gives v ↔ ∃ items, d = .array items ∧ v = d.value := by
  rw [check.eq_def]
  cases d <;> simp [Gives, fits, fails, Document.value]

theorem gives_anyMapping (d : Document) (v : Value) :
    (check .anyMapping d).Gives v ↔ ∃ members, d = .object members ∧ v = d.value := by
  rw [check.eq_def]
  cases d <;> simp [Gives, fits, fails]

theorem gives_sequence (item : Schema) (d : Document) (v : Value) :
    (check (.sequence item) d).Gives v ↔
      ∃ items values, d = .array items ∧ v = .tuple values ∧
        List.Forall₂ (fun d w => (check item d).Gives w) items values := by
  rw [check.eq_def]
  cases d with
  | array items =>
    dsimp only
    rw [gives_atMost, gives_mapValue]
    simp only [gives_indexed, List.forall₂_map_left_iff]
    constructor
    · rintro ⟨values, given, rfl⟩
      exact ⟨items, values, rfl, rfl, given⟩
    · rintro ⟨_, values, same, rfl, given⟩
      cases same
      exact ⟨values, given, rfl⟩
  | _ =>
    refine ⟨False.elim, ?_⟩
    rintro ⟨_, _, impossible, _⟩
    cases impossible

theorem gives_entry (value : Schema) (m : String × Document) (e : Value × Value) :
    (Checked.both Prod.mk
        ((((Lenient.check .text (.text m.1)).atMost .close).within "[key]").within m.1)
        ((check value m.2).within m.1)).Gives e ↔
      ∃ w, (check value m.2).Gives w ∧ e = (.text m.1, w) := by
  have key : ∀ k, (Lenient.check .text (.text m.1)).Gives k ↔ k = .text m.1 := by
    intro k
    rw [Lenient.check.eq_def]
    exact Iff.rfl
  rw [gives_both]
  simp only [gives_within, gives_atMost, key]
  constructor
  · rintro ⟨_, w, rfl, given, rfl⟩
    exact ⟨w, given, rfl⟩
  · rintro ⟨w, given, rfl⟩
    exact ⟨_, w, rfl, given, rfl⟩

theorem gives_mapping (value : Schema) (d : Document) (v : Value) :
    (check (.mapping .text value) d).Gives v ↔
      ∃ members entries, d = .object members ∧ v = Value.ofEntries entries ∧
        List.Forall₂ (fun m e => ∃ w, (check value m.2).Gives w ∧ e = (.text m.1, w))
          members entries := by
  rw [check.eq_def]
  cases d with
  | object members =>
    dsimp only
    rw [gives_mapValue]
    simp only [gives_all, List.forall₂_map_left_iff, gives_entry]
    constructor
    · rintro ⟨entries, given, rfl⟩
      exact ⟨members, entries, rfl, rfl, given⟩
    · rintro ⟨_, entries, same, rfl, given⟩
      cases same
      exact ⟨entries, given, rfl⟩
  | _ =>
    refine ⟨False.elim, ?_⟩
    rintro ⟨_, _, impossible, _⟩
    cases impossible

/-! ## Which documents are accepted -/

/-- A document is accepted by a schema. -/
def Accepts (s : Schema) (d : Document) : Prop :=
  ∃ v, (check s d).Gives v

/-- Each of some things is related to something, if all of them are. -/
theorem exists_forall₂ {α β : Type} (related : α → β → Prop) (items : List α) :
    (∃ values, List.Forall₂ related items values) ↔ ∀ a ∈ items, ∃ b, related a b := by
  induction items with
  | nil => exact ⟨fun _ _ impossible => (List.not_mem_nil impossible).elim, fun _ => ⟨[], .nil⟩⟩
  | cons a rest inductionHypothesis =>
    rw [List.forall_mem_cons, ← inductionHypothesis]
    constructor
    · rintro ⟨_, all⟩
      obtain ⟨b, values, first, others, rfl⟩ := List.forall₂_cons_left_iff.mp all
      exact ⟨⟨b, first⟩, values, others⟩
    · rintro ⟨⟨b, first⟩, values, others⟩
      exact ⟨b :: values, .cons first others⟩

theorem accepts_items {s item : Schema} {wrap : List Value → Value}
    (gives : ∀ d v, (check s d).Gives v ↔ ∃ items values, d = .array items ∧ v = wrap values ∧
      List.Forall₂ (fun d w => (check item d).Gives w) items values) (d : Document) :
    Accepts s d ↔ ∃ items, d = .array items ∧ ∀ x ∈ items, Accepts item x := by
  unfold Accepts
  simp only [gives, ← exists_forall₂]
  constructor
  · rintro ⟨_, items, values, rfl, rfl, given⟩
    exact ⟨items, rfl, values, given⟩
  · rintro ⟨items, rfl, values, given⟩
    exact ⟨_, items, values, rfl, rfl, given⟩

theorem accepts_mapping (value : Schema) (d : Document) :
    Accepts (.mapping .text value) d ↔
      ∃ members, d = .object members ∧ ∀ m ∈ members, Accepts value m.2 := by
  have entry : ∀ m : String × Document, Accepts value m.2 ↔
      ∃ e : Value × Value, ∃ w, (check value m.2).Gives w ∧ e = (.text m.1, w) := by
    intro m
    exact ⟨fun ⟨w, given⟩ => ⟨_, w, given, rfl⟩, fun ⟨_, w, given, _⟩ => ⟨w, given⟩⟩
  simp only [entry]
  unfold Accepts
  simp only [gives_mapping, ← exists_forall₂]
  constructor
  · rintro ⟨_, members, entries, rfl, rfl, given⟩
    exact ⟨members, rfl, entries, given⟩
  · rintro ⟨members, rfl, entries, given⟩
    exact ⟨_, members, entries, rfl, rfl, given⟩

theorem accepts_elements (schemas : List Schema) (items : List Document)
    (short : items.length ≤ schemas.length) :
    (∃ values, List.Forall₂ Gives (checkTuple schemas items) values) ↔
      List.Forall₂ Accepts schemas items := by
  induction schemas generalizing items with
  | nil =>
    have none_ : items = [] := List.length_eq_zero_iff.mp (Nat.le_zero.mp short)
    rw [none_, checkTuple.eq_def]
    exact ⟨fun _ => .nil, fun _ => ⟨[], .nil⟩⟩
  | cons s rest inductionHypothesis =>
    cases items with
    | nil =>
      rw [checkTuple.eq_def]
      constructor
      · rintro ⟨_, given⟩
        obtain ⟨_, _, impossible, _⟩ := List.forall₂_cons_left_iff.mp given
        exact impossible.elim
      · intro impossible
        cases impossible
    | cons d more =>
      rw [checkTuple.eq_def, List.forall₂_cons,
        ← inductionHypothesis more (Nat.le_of_succ_le_succ short)]
      constructor
      · rintro ⟨_, given⟩
        obtain ⟨v, values, first, others, rfl⟩ := List.forall₂_cons_left_iff.mp given
        exact ⟨⟨v, first⟩, values, others⟩
      · rintro ⟨⟨v, first⟩, values, others⟩
        exact ⟨v :: values, .cons first others⟩

theorem gives_tuple (schemas : List Schema) (d : Document) (v : Value) :
    (check (.tuple schemas) d).Gives v ↔
      ∃ items values, d = .array items ∧ v = .tuple values ∧ items.length ≤ schemas.length ∧
        List.Forall₂ Gives (checkTuple schemas items) values := by
  rw [check.eq_def]
  cases d with
  | array items =>
    dsimp only
    by_cases long : schemas.length < items.length
    · rw [if_pos long]
      refine ⟨False.elim, ?_⟩
      rintro ⟨_, _, same, _, short, _⟩
      cases same
      exact absurd long (Nat.not_lt.mpr short)
    · rw [if_neg long, gives_atMost, gives_mapValue]
      simp only [gives_indexed]
      constructor
      · rintro ⟨values, given, rfl⟩
        exact ⟨items, values, rfl, rfl, Nat.not_lt.mp long, given⟩
      · rintro ⟨_, values, same, rfl, _, given⟩
        cases same
        exact ⟨values, given, rfl⟩
  | _ =>
    refine ⟨False.elim, ?_⟩
    rintro ⟨_, _, impossible, _⟩
    cases impossible

theorem accepts_tuple (schemas : List Schema) (d : Document) :
    Accepts (.tuple schemas) d ↔
      ∃ items, d = .array items ∧ List.Forall₂ Accepts schemas items := by
  constructor
  · rintro ⟨_, given⟩
    obtain ⟨items, values, rfl, rfl, short, given⟩ := (gives_tuple schemas d _).mp given
    exact ⟨items, rfl, (accepts_elements schemas items short).mp ⟨values, given⟩⟩
  · rintro ⟨items, rfl, accepted⟩
    have short : items.length ≤ schemas.length := Nat.le_of_eq accepted.length_eq.symm
    obtain ⟨values, given⟩ := (accepts_elements schemas items short).mpr accepted
    exact ⟨_, (gives_tuple schemas _ _).mpr ⟨items, values, rfl, rfl, short, given⟩⟩

theorem checkMembers_eq (members : List Schema) (d : Document) :
    checkMembers members d = members.map fun s => (s.label, check s d) := by
  induction members with
  | nil => rfl
  | cons s rest inductionHypothesis => rw [checkMembers, inductionHypothesis, List.map_cons]

/-- Null is let through where a choice allows it, and the members are asked otherwise. -/
theorem choice_cases (barred orNull : Bool) (members : List Schema) (d : Document) :
    (orNull = true ∧ d = .null ∧ check (.choice barred orNull members) d = fits .null) ∨
      ¬ (orNull = true ∧ d = .null) ∧
        check (.choice barred orNull members) d = ofMembers (checkMembers members d) := by
  by_cases absent : d = .null
  · subst absent
    rw [check.eq_def]
    cases orNull with
    | true => exact .inl ⟨rfl, rfl, rfl⟩
    | false => exact .inr ⟨fun both => Bool.false_ne_true both.1, rfl⟩
  · exact .inr ⟨fun both => absent both.2, check_choice absent barred orNull members⟩

theorem gives_choice {barred orNull : Bool} {members : List Schema} {d : Document} {v : Value}
    (given : (check (.choice barred orNull members) d).Gives v) :
    orNull = true ∧ d = .null ∧ v = .null ∨ ∃ s ∈ members, (check s d).Gives v := by
  obtain ⟨allowed, null, whole⟩ | ⟨_, whole⟩ := choice_cases barred orNull members d
  · rw [whole] at given
    exact .inl ⟨allowed, null, given⟩
  · rw [whole, checkMembers_eq] at given
    obtain ⟨outcome, member, given⟩ := gives_ofMembers _ v given
    obtain ⟨s, listed, rfl⟩ := List.mem_map.mp member
    exact .inr ⟨s, listed, given⟩

theorem accepts_choice (barred orNull : Bool) (members : List Schema) (d : Document) :
    Accepts (.choice barred orNull members) d ↔
      orNull = true ∧ d = .null ∨ ∃ s ∈ members, Accepts s d := by
  constructor
  · rintro ⟨v, given⟩
    obtain ⟨allowed, null, _⟩ | ⟨s, listed, given⟩ := gives_choice given
    · exact .inl ⟨allowed, null⟩
    · exact .inr ⟨s, listed, v, given⟩
  · intro accepted
    unfold Accepts
    obtain ⟨_, _, whole⟩ | ⟨other, whole⟩ := choice_cases barred orNull members d
    · rw [whole]
      exact ⟨_, rfl⟩
    · obtain ⟨s, listed, found⟩ := accepted.resolve_left other
      rw [whole, checkMembers_eq]
      exact ofMembers_gives _ ⟨_, List.mem_map_of_mem listed, found⟩

end Strict

/-! ## Schemas that are the same -/

namespace Schema

/-- The schemas that say what a document is made of, and no more. -/
inductive Structural : Schema → Prop
  | any : Structural .any
  | bool : Structural .bool
  | int : Structural .int
  | text : Structural .text
  | null : Structural .null
  | anyList : Structural .anyList
  | anyMapping : Structural .anyMapping
  | list (item : Schema) (inner : Structural item) : Structural (.list item)
  | mapping (value : Schema) (inner : Structural value) : Structural (.mapping .text value)
  | tuple (items : List Schema) (inner : ∀ s ∈ items, Structural s) : Structural (.tuple items)
  | sequence (item : Schema) (inner : Structural item) : Structural (.sequence item)
  | choice (barred orNull : Bool) (members : List Schema) (inner : ∀ s ∈ members, Structural s) :
    Structural (.choice barred orNull members)

end Schema

namespace Strict

open Checked Schema

/-- Two schemas accept the same documents. -/
def Alike (s t : Schema) : Prop :=
  ∀ d, Accepts s d ↔ Accepts t d

theorem alike_of_sameAll (ss ts : List Schema) (same : Schema.sameAll ss ts = true)
    (each : ∀ s ∈ ss, ∀ t ∈ ts, Schema.same s t = true → Alike s t) :
    List.Forall₂ Alike ss ts := by
  induction ss generalizing ts with
  | nil =>
    cases ts with
    | nil => exact .nil
    | cons t ts => cases same
  | cons s ss inductionHypothesis =>
    cases ts with
    | nil => cases same
    | cons t ts =>
      have both := Bool.and_eq_true_iff.mp same
      apply List.Forall₂.cons
      · exact each s (List.mem_cons_self ..) t (List.mem_cons_self ..) both.1
      · apply inductionHypothesis ts both.2
        intro s member t among
        exact each s (List.mem_cons_of_mem _ member) t (List.mem_cons_of_mem _ among)

theorem alike_elements {ss ts : List Schema} (alike : List.Forall₂ Alike ss ts)
    (items : List Document) : List.Forall₂ Accepts ss items ↔ List.Forall₂ Accepts ts items := by
  induction alike generalizing items with
  | nil => rfl
  | cons first _ inductionHypothesis =>
    cases items with
    | nil => exact ⟨nofun, nofun⟩
    | cons d rest => rw [List.forall₂_cons, List.forall₂_cons, first d, inductionHypothesis rest]

theorem alike_members {ss ts : List Schema} (alike : List.Forall₂ Alike ss ts) (d : Document) :
    (∃ s ∈ ss, Accepts s d) ↔ ∃ t ∈ ts, Accepts t d := by
  induction alike with
  | nil => rfl
  | cons first _ inductionHypothesis =>
    rw [List.exists_mem_cons_iff, List.exists_mem_cons_iff, first d, inductionHypothesis]

/-- Schemas that are the same type accept the same documents. -/
theorem alike_of_same {s t : Schema} (structural : s.Structural) (other : t.Structural)
    (same : Schema.same s t = true) : Alike s t := by
  intro d
  induction structural generalizing t d with
  | any | bool | int | text | null | anyList | anyMapping =>
    cases other <;> first | exact Iff.rfl | cases same
  | list item _ inductionHypothesis =>
    cases other with
    | list item' inner =>
      simp only [accepts_items (gives_list _), inductionHypothesis inner same]
    | _ => cases same
  | sequence item _ inductionHypothesis =>
    cases other with
    | sequence item' inner =>
      simp only [accepts_items (gives_sequence _), inductionHypothesis inner same]
    | _ => cases same
  | mapping value _ inductionHypothesis =>
    cases other with
    | mapping value' inner =>
      have both := Bool.and_eq_true_iff.mp same
      simp only [accepts_mapping, inductionHypothesis inner both.2]
    | _ => cases same
  | tuple items _ inductionHypothesis =>
    cases other with
    | tuple items' inner =>
      have alike := alike_of_sameAll items items' same fun s member t among same =>
        inductionHypothesis s member (inner t among) same
      simp only [accepts_tuple, alike_elements alike]
    | _ => cases same
  | choice barred orNull members _ inductionHypothesis =>
    cases other with
    | choice barred' orNull' members' inner =>
      have both := Bool.and_eq_true_iff.mp same
      have alike := alike_of_sameAll members members' both.2 fun s member t among same =>
        inductionHypothesis s member (inner t among) same
      rw [accepts_choice, accepts_choice, alike_members alike, eq_of_beq both.1]
    | _ => cases same

end Strict

/-! ## Choices -/

namespace Schema

open Strict

theorem accepts_null (d : Document) : Accepts .null d ↔ d = .null := by
  unfold Accepts
  simp only [gives_null, exists_and_left, exists_eq, and_true]

theorem accepts_parts (s : Schema) (d : Document) :
    Accepts s d ↔ s.parts.1 = true ∧ d = .null ∨ ∃ m ∈ s.parts.2, Accepts m d := by
  obtain rfl | ⟨barred, orNull, members, rfl⟩ | alone := s.parts_cases
  · simp [parts, accepts_null]
  · exact accepts_choice barred orNull members d
  · simp [alone]

theorem subset_gather (kept more : List Schema) : kept ⊆ gather kept more := by
  induction more generalizing kept with
  | nil => exact List.Subset.refl kept
  | cons t rest inductionHypothesis =>
    refine List.Subset.trans ?_ (inductionHypothesis _)
    dsimp only
    split
    · exact List.Subset.refl kept
    · exact List.subset_append_left kept [t]

theorem exists_gather (kept more : List Schema) {s : Schema} (member : s ∈ more) :
    ∃ m ∈ gather kept more, m = s ∨ same s m = true := by
  induction more generalizing kept with
  | nil => cases member
  | cons t rest inductionHypothesis =>
    obtain rfl | later := List.mem_cons.mp member
    · have here : ∃ m ∈ (if kept.any (same s) then kept else kept ++ [s]),
          m = s ∨ same s m = true := by
        split
        · rename_i found
          obtain ⟨m, early, alike⟩ := List.any_eq_true.mp found
          exact ⟨m, early, .inr alike⟩
        · exact ⟨s, List.mem_append_right kept (List.mem_singleton_self s), .inl rfl⟩
      obtain ⟨m, early, alike⟩ := here
      exact ⟨m, subset_gather _ rest early, alike⟩
    · exact inductionHypothesis _ later

theorem Structural.parts {s : Schema} (structural : s.Structural) :
    ∀ m ∈ s.parts.2, m.Structural := by
  intro m member
  obtain rfl | ⟨barred, orNull, members, rfl⟩ | alone := s.parts_cases
  · cases member
  · cases structural with
    | choice _ _ _ inner => exact inner m member
  · rw [alone] at member
    rw [List.mem_singleton.mp member]
    exact structural

theorem part_of_gather {alternatives : List Schema} {m : Schema}
    (member : m ∈ gather [] (alternatives.flatMap fun s => s.parts.2)) :
    ∃ s ∈ alternatives, m ∈ s.parts.2 := by
  obtain impossible | among := mem_gather member
  · cases impossible
  · exact List.mem_flatMap.mp among

theorem Structural.choose (barred : Bool) {alternatives : List Schema}
    (structural : ∀ s ∈ alternatives, s.Structural) :
    (Schema.choose barred alternatives).Structural := by
  have gathered : ∀ m ∈ gather [] (alternatives.flatMap fun s => s.parts.2), m.Structural := by
    intro m member
    obtain ⟨s, present, part⟩ := part_of_gather member
    exact (structural s present).parts m part
  rw [choose_eq]
  split
  · exact .null
  · rename_i m _ single
    apply gathered
    rw [single]
    exact List.mem_singleton_self m
  · exact .choice _ _ _ gathered

theorem accepts_gather {alternatives : List Schema}
    (structural : ∀ s ∈ alternatives, s.Structural) (d : Document) :
    (∃ m ∈ gather [] (alternatives.flatMap fun s => s.parts.2), Accepts m d) ↔
      ∃ s ∈ alternatives, ∃ m ∈ s.parts.2, Accepts m d := by
  constructor
  · rintro ⟨m, member, accepted⟩
    obtain ⟨s, present, part⟩ := part_of_gather member
    exact ⟨s, present, m, part, accepted⟩
  · rintro ⟨s, present, m, part, accepted⟩
    have among : m ∈ alternatives.flatMap fun s => s.parts.2 :=
      List.mem_flatMap.mpr ⟨s, present, part⟩
    obtain ⟨k, kept, alike⟩ := exists_gather [] _ among
    refine ⟨k, kept, ?_⟩
    obtain rfl | alike := alike
    · exact accepted
    · obtain ⟨t, listed, part'⟩ := part_of_gather kept
      have first := (structural s present).parts m part
      have second := (structural t listed).parts k part'
      exact (alike_of_same first second alike d).mp accepted

theorem accepts_choose (barred : Bool) {alternatives : List Schema}
    (structural : ∀ s ∈ alternatives, s.Structural) (d : Document) :
    Accepts (Schema.choose barred alternatives) d ↔ ∃ s ∈ alternatives, Accepts s d := by
  have flat : (∃ s ∈ alternatives, Accepts s d) ↔
      (alternatives.any fun s => s.parts.1) = true ∧ d = .null ∨
        ∃ m ∈ gather [] (alternatives.flatMap fun s => s.parts.2), Accepts m d := by
    have each : (∃ s ∈ alternatives, Accepts s d) ↔ ∃ s ∈ alternatives,
        (s.parts.1 = true ∧ d = .null ∨ ∃ m ∈ s.parts.2, Accepts m d) :=
      exists_congr fun s => and_congr_right fun _ => accepts_parts s d
    rw [each, accepts_gather structural, List.any_eq_true]
    simp only [and_or_left, exists_or, ← and_assoc, exists_and_right]
  rw [flat, choose_eq]
  split
  · rename_i orNull none_
    simp [orNull, none_, accepts_null]
  · rename_i s orNull single
    simp [orNull, single]
  · exact accepts_choice ..

theorem Structural.optional {s : Schema} (structural : s.Structural) : s.optional.Structural :=
  .choose _ (List.forall_mem_cons.mpr ⟨structural, List.forall_mem_singleton.mpr .null⟩)

theorem accepts_optional {s : Schema} (structural : s.Structural) (d : Document) :
    Accepts s.optional d ↔ Accepts s d ∨ d = .null := by
  have each : ∀ t ∈ [s, .null], t.Structural :=
    List.forall_mem_cons.mpr ⟨structural, List.forall_mem_singleton.mpr .null⟩
  rw [Schema.optional, accepts_choose _ each]
  simp [accepts_null]

end Schema

end PolicyHost
