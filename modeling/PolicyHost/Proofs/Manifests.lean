import Mathlib.Data.List.Forall2
import PolicyHost.Bundle.Manifest

namespace PolicyHost

/-!
# What a manifest says

A manifest is an object.  It may tell a revision, a list of roots, and a list of
modules, each an object that may tell an entrypoint and a path; a path is taken
in its rooted form, unless it is empty.  Of members with one name the last
counts, and members with other names may be anything.  Bytes that do not say
this are no manifest.
-/

namespace Checked

variable {α β γ : Type}

/-- A check gives a value. -/
def Gives : Checked α → α → Prop
  | .ok fit, a => a = fit.value
  | .error _, _ => False

theorem gives_mapValue (f : α → β) (outcome : Checked α) (b : β) :
    (outcome.mapValue f).Gives b ↔ ∃ a, outcome.Gives a ∧ b = f a := by
  cases outcome with
  | ok fit =>
    refine ⟨fun given => ⟨_, rfl, given⟩, ?_⟩
    rintro ⟨_, rfl, given⟩
    exact given
  | error issues => exact ⟨False.elim, fun ⟨_, impossible, _⟩ => impossible⟩

theorem gives_within (step : String) (outcome : Checked α) (a : α) :
    (outcome.within step).Gives a ↔ outcome.Gives a := by
  cases outcome <;> exact Iff.rfl

theorem gives_atMost (bound : Exactness) (outcome : Checked α) (a : α) :
    (outcome.atMost bound).Gives a ↔ outcome.Gives a := by
  cases outcome <;> exact Iff.rfl

theorem gives_unlessAny (item : Schema) (outcome : Checked α) (a : α) :
    (outcome.unlessAny item).Gives a ↔ outcome.Gives a := by
  cases outcome <;> exact Iff.rfl

theorem gives_withGiven (count : Nat) (outcome : Checked α) (a : α) :
    (outcome.withGiven count).Gives a ↔ outcome.Gives a := by
  cases outcome <;> exact Iff.rfl

theorem gives_both (f : α → β → γ) (first : Checked α) (second : Checked β) (c : γ) :
    (both f first second).Gives c ↔ ∃ a b, first.Gives a ∧ second.Gives b ∧ c = f a b := by
  cases first with
  | ok one =>
    cases second with
    | ok two =>
      refine ⟨fun given => ⟨_, _, rfl, rfl, given⟩, ?_⟩
      rintro ⟨_, _, rfl, rfl, given⟩
      exact given
    | error issues => exact ⟨False.elim, fun ⟨_, _, _, impossible, _⟩ => impossible⟩
  | error issues =>
    refine ⟨fun given => ?_, fun ⟨_, _, impossible, _⟩ => impossible.elim⟩
    cases second <;> exact given.elim

theorem gives_all (outcomes : List (Checked α)) (values : List α) :
    (all outcomes).Gives values ↔ List.Forall₂ Gives outcomes values := by
  induction outcomes generalizing values with
  | nil =>
    rw [List.forall₂_nil_left_iff]
    exact Iff.rfl
  | cons outcome rest inductionHypothesis =>
    rw [all, gives_both, List.forall₂_cons_left_iff]
    simp only [inductionHypothesis]

theorem forall₂_mapIdx (step : Nat → Checked α → Checked α)
    (same : ∀ i outcome a, (step i outcome).Gives a ↔ outcome.Gives a)
    (outcomes : List (Checked α)) (values : List α) :
    List.Forall₂ Gives (outcomes.mapIdx step) values ↔ List.Forall₂ Gives outcomes values := by
  induction outcomes generalizing step values with
  | nil => rfl
  | cons outcome rest inductionHypothesis =>
    rw [List.mapIdx_cons, List.forall₂_cons_left_iff, List.forall₂_cons_left_iff]
    simp only [same, inductionHypothesis _ fun i => same (i + 1)]

/-- Places in a list do not matter for what is given. -/
theorem gives_indexed (outcomes : List (Checked α)) (values : List α) :
    (all (Lenient.indexed outcomes)).Gives values ↔ List.Forall₂ Gives outcomes values := by
  rw [gives_all, Lenient.indexed, forall₂_mapIdx]
  exact fun i outcome a => gives_within _ outcome a

theorem gives_applyTo (rule : Rule) (outcome : Checked Value) (v : Value) :
    (rule.applyTo outcome).Gives v ↔ ∃ base, outcome.Gives base ∧ rule.apply base = .ok v := by
  cases outcome with
  | error issues => exact ⟨False.elim, fun ⟨_, impossible, _⟩ => impossible⟩
  | ok fit =>
    unfold Rule.applyTo
    dsimp only [Gives]
    cases applied : rule.apply fit.value with
    | error complaint => exact ⟨False.elim, fun ⟨_, same, other⟩ => by
        rw [same, applied] at other
        cases other⟩
    | ok value =>
      constructor
      · rintro rfl
        exact ⟨_, rfl, applied⟩
      · rintro ⟨_, rfl, other⟩
        exact (Except.ok.inj (applied.symm.trans other)).symm

end Checked

namespace Strict

open Checked

variable {members : List (String × Document)}

def lastMember (members : List (String × Document)) (name : String) : Option Document :=
  (members.reverse.find? fun m => m.1 == name).map (·.2)

/-- What a document checked against a schema gives, or else what is standard for a document
that is not there. -/
def GivesField (schema : Schema) (standard : Value) : Option Document → Value → Prop
  | none, v => v = standard
  | some document, v => (check schema document).Gives v

theorem gives_text (document : Document) (v : Value) :
    (check .text document).Gives v ↔ ∃ s, document = .text s ∧ v = .text s := by
  rw [check.eq_def]
  cases document with
  | text s =>
    refine ⟨fun given => ⟨s, rfl, given⟩, ?_⟩
    rintro ⟨_, same, rfl⟩
    cases same
    rfl
  | _ => exact ⟨False.elim, fun ⟨_, impossible, _⟩ => nomatch impossible⟩

theorem gives_list (item : Schema) (document : Document) (v : Value) :
    (check (.list item) document).Gives v ↔
      ∃ documents values, document = .array documents ∧ v = .list values ∧
        List.Forall₂ (fun d w => (check item d).Gives w) documents values := by
  rw [check.eq_def]
  cases document with
  | array documents =>
    dsimp only
    rw [gives_unlessAny, gives_mapValue]
    simp only [gives_indexed, List.forall₂_map_left_iff]
    constructor
    · rintro ⟨values, given, rfl⟩
      exact ⟨documents, values, rfl, rfl, given⟩
    · rintro ⟨_, values, same, rfl, given⟩
      cases same
      exact ⟨values, given, rfl⟩
  | _ => exact ⟨False.elim, fun ⟨_, _, impossible, _⟩ => nomatch impossible⟩

theorem gives_field (name : String) (schema : Schema) (standard v : Value) :
    Gives (match members.reverse.find? fun m => m.1 == name with
      | some m => (check schema m.2).within name
      | none => fits standard) v ↔ GivesField schema standard (lastMember members name) v := by
  unfold lastMember
  cases members.reverse.find? fun m => m.1 == name with
  | none => exact Iff.rfl
  | some m => exact gives_within _ _ _

theorem gives_fields_cons (name : String) (schema : Schema) (standard : Value)
    (rest : List (String × Schema × Option Value)) (found : List (String × Value)) :
    (all (checkFields ((name, schema, some standard) :: rest) members)).Gives found ↔
      ∃ v others, GivesField schema standard (lastMember members name) v ∧
        (all (checkFields rest members)).Gives others ∧ found = (name, v) :: others := by
  rw [checkFields.eq_def]
  dsimp only
  rw [all, gives_both]
  simp only [gives_mapValue]
  have field := @gives_field members name schema standard
  constructor
  · rintro ⟨_, others, ⟨v, given, rfl⟩, rest, rfl⟩
    exact ⟨v, others, (field v).mp given, rest, rfl⟩
  · rintro ⟨v, others, given, rest, rfl⟩
    exact ⟨_, others, ⟨v, (field v).mpr given, rfl⟩, rest, rfl⟩

theorem gives_fields_nil (found : List (String × Value)) :
    (all (checkFields [] members)).Gives found ↔ found = [] := by
  rw [checkFields.eq_def]
  exact Iff.rfl

/-- Members that are not fields are passed over. -/
theorem gives_extraMembers (names : List String) (kept : List (String × Value)) :
    (extraMembers names .ignore members).Gives kept ↔ kept = [] := by
  have nothing : ∀ values, (all (members.map fun _ => fits ([] : List (String × Value)))).Gives
      values ↔ values = members.map fun _ => [] := by
    intro values
    rw [gives_all, List.forall₂_map_left_iff]
    induction members generalizing values with
    | nil => rw [List.forall₂_nil_left_iff, List.map_nil]
    | cons m rest inductionHypothesis =>
      rw [List.forall₂_cons_left_iff, List.map_cons]
      simp only [inductionHypothesis]
      constructor
      · rintro ⟨_, _, rfl, rfl, rfl⟩
        rfl
      · rintro rfl
        exact ⟨_, _, rfl, rfl, rfl⟩
  unfold extraMembers
  dsimp only
  rw [gives_mapValue]
  simp only [ite_self, nothing]
  constructor
  · rintro ⟨_, rfl, rfl⟩
    simp [Document.settle]
  · rintro rfl
    exact ⟨_, rfl, by simp [Document.settle]⟩

theorem gives_model (name : String) (fields : List (String × Schema × Option Value))
    (document : Document) (v : Value) :
    (check (.model name fields .ignore) document).Gives v ↔
      ∃ members found, document = .object members ∧
        (all (checkFields fields members)).Gives found ∧ v = .record .model name found [] := by
  rw [check.eq_def]
  cases document with
  | object members =>
    dsimp only
    rw [gives_atMost, gives_both]
    simp only [gives_withGiven, gives_extraMembers]
    constructor
    · rintro ⟨found, _, given, rfl, rfl⟩
      exact ⟨members, found, rfl, given, rfl⟩
    · rintro ⟨_, found, same, given, rfl⟩
      cases same
      exact ⟨found, [], given, rfl, rfl⟩
  | _ => exact ⟨False.elim, fun ⟨_, _, impossible, _⟩ => nomatch impossible⟩

theorem validate_ok (schema : Schema) (document : Document) (v : Value) :
    validate schema document = .ok v ↔ (check schema document).Gives v := by
  unfold validate
  cases check schema document with
  | ok fit => exact ⟨fun same => (Except.ok.inj same).symm, fun same => congrArg _ same.symm⟩
  | error issues => exact ⟨nofun, False.elim⟩

end Strict

open Strict

variable {members : List (String × Document)}

/-- A member that tells a text, which is empty if the member is not there. -/
def TellsText (members : List (String × Document)) (name text : String) : Prop :=
  match lastMember members name with
  | none => text = ""
  | some document => document = .text text

/-- An entry as the members of an object tell it. -/
structure ManifestEntry.Told (members : List (String × Document)) (entry : ManifestEntry) :
    Prop where
  entrypoint : TellsText members "entrypoint" entry.entrypoint
  path : ∃ path, TellsText members "module" path ∧
    entry.path = if path = "" then "" else Rule.rootText path

/-- A document is an object that tells an entry. -/
def ManifestEntry.TellsEntry (document : Document) (entry : ManifestEntry) : Prop :=
  ∃ members, document = .object members ∧ entry.Told members

/-- A manifest as the members of an object tell it. -/
structure Manifest.Told (members : List (String × Document)) (manifest : Manifest) : Prop where
  revision : TellsText members "revision" manifest.revision
  roots : match lastMember members "roots" with
    | none => manifest.roots = []
    | some document => document = .array (manifest.roots.map .text)
  modules : match lastMember members "wasm" with
    | none => manifest.modules = []
    | some document => ∃ entries, document = .array entries ∧
      List.Forall₂ ManifestEntry.TellsEntry entries manifest.modules

namespace Manifest

theorem gives_tellsText (members : List (String × Document)) (name : String) (v : Value) :
    GivesField .text (.text "") (lastMember members name) v ↔
      ∃ s, TellsText members name s ∧ v = .text s := by
  unfold TellsText
  cases lastMember members name with
  | none => simp [GivesField]
  | some document =>
    dsimp only [GivesField]
    exact gives_text document v

theorem apply_memberPath (path : String) :
    Rule.memberPath.apply (.text path) =
      .ok (.text (if path = "" then "" else Rule.rootText path)) := by
  by_cases empty : path = ""
  · subst empty
    rfl
  · have filled : path.isEmpty = false := by simpa using empty
    rw [Rule.apply, filled, if_neg empty]
    rfl

theorem gives_path (members : List (String × Document)) (v : Value) :
    GivesField (.refined .memberPath .text) (.text "") (lastMember members "module") v ↔
      ∃ path, TellsText members "module" path ∧
        v = .text (if path = "" then "" else Rule.rootText path) := by
  unfold TellsText
  cases lastMember members "module" with
  | none => simp [GivesField]
  | some document =>
    dsimp only [GivesField]
    rw [check.eq_def]
    dsimp only
    rw [Checked.gives_applyTo]
    simp only [gives_text]
    constructor
    · rintro ⟨_, ⟨path, rfl, rfl⟩, applied⟩
      rw [apply_memberPath] at applied
      exact ⟨path, rfl, (Except.ok.inj applied).symm⟩
    · rintro ⟨path, rfl, rfl⟩
      exact ⟨_, ⟨path, rfl, rfl⟩, apply_memberPath path⟩

theorem gives_entry (document : Document) (entry : ManifestEntry) :
    (∃ record, (check entrySchema document).Gives record ∧ entryOf record = entry) ↔
      ManifestEntry.TellsEntry document entry := by
  unfold entrySchema
  simp only [gives_model, gives_fields_cons, gives_fields_nil, gives_tellsText, gives_path]
  constructor
  · rintro ⟨_, ⟨members, _, rfl, ⟨_, _, ⟨entrypoint, told, rfl⟩, ⟨_, _, ⟨path, named, rfl⟩, rfl,
      rfl⟩, rfl⟩, rfl⟩, rfl⟩
    exact ⟨members, rfl, told, path, named, rfl⟩
  · rintro ⟨members, rfl, told, path, named, same⟩
    obtain ⟨entrypoint, _⟩ := entry
    cases same
    exact ⟨_, ⟨members, _, rfl, ⟨_, _, ⟨_, told, rfl⟩, ⟨_, _, ⟨path, named, rfl⟩, rfl, rfl⟩,
      rfl⟩, rfl⟩, rfl⟩

theorem gives_entries (documents : List Document) (entries : List ManifestEntry) :
    (∃ records, List.Forall₂ (fun d w => (check entrySchema d).Gives w) documents records ∧
      records.map entryOf = entries) ↔
      List.Forall₂ ManifestEntry.TellsEntry documents entries := by
  induction documents generalizing entries with
  | nil =>
    simp only [List.forall₂_nil_left_iff, exists_eq_left, List.map_nil]
    exact eq_comm
  | cons document rest inductionHypothesis =>
    simp only [List.forall₂_cons_left_iff, ← inductionHypothesis, ← gives_entry]
    constructor
    · rintro ⟨_, ⟨record, records, given, others, rfl⟩, rfl⟩
      exact ⟨_, _, ⟨record, given, rfl⟩, ⟨records, others, rfl⟩, rfl⟩
    · rintro ⟨_, _, ⟨record, given, rfl⟩, ⟨records, others, rfl⟩, rfl⟩
      exact ⟨_, ⟨record, records, given, others, rfl⟩, rfl⟩

theorem gives_texts (documents : List Document) (values : List Value) :
    List.Forall₂ (fun d w => (check .text d).Gives w) documents values ↔
      ∃ texts : List String, documents = texts.map .text ∧ values = texts.map .text := by
  induction documents generalizing values with
  | nil =>
    rw [List.forall₂_nil_left_iff]
    constructor
    · rintro rfl
      exact ⟨[], rfl, rfl⟩
    · rintro ⟨texts, same, rfl⟩
      rw [List.map_eq_nil_iff.mp same.symm, List.map_nil]
  | cons document rest inductionHypothesis =>
    rw [List.forall₂_cons_left_iff]
    simp only [inductionHypothesis]
    simp only [gives_text]
    constructor
    · rintro ⟨_, _, ⟨s, rfl, rfl⟩, ⟨texts, rfl, rfl⟩, rfl⟩
      exact ⟨s :: texts, rfl, rfl⟩
    · rintro ⟨texts, same, rfl⟩
      obtain ⟨s, texts, rfl, rfl, rfl⟩ := List.map_eq_cons_iff.mp same.symm
      exact ⟨_, _, ⟨s, rfl, rfl⟩, ⟨texts, rfl, rfl⟩, rfl⟩

theorem gives_roots (found : Option Document) (v : Value) :
    GivesField (.list .text) (.list []) found v ↔
      ∃ roots : List String, v = .list (roots.map .text) ∧ match found with
        | none => roots = []
        | some document => document = .array (roots.map .text) := by
  cases found with
  | none =>
    constructor
    · rintro rfl
      exact ⟨[], rfl, rfl⟩
    · rintro ⟨_, rfl, rfl⟩
      rfl
  | some document =>
    dsimp only [GivesField]
    simp only [gives_list, gives_texts]
    constructor
    · rintro ⟨_, _, rfl, rfl, roots, rfl, rfl⟩
      exact ⟨roots, rfl, rfl⟩
    · rintro ⟨roots, rfl, rfl⟩
      exact ⟨_, _, rfl, rfl, roots, rfl, rfl⟩

theorem gives_modules (found : Option Document) (modules : List ManifestEntry) :
    (∃ v, GivesField (.list entrySchema) (.list []) found v ∧ v.items.map entryOf = modules) ↔
      match found with
      | none => modules = []
      | some document => ∃ entries, document = .array entries ∧
        List.Forall₂ ManifestEntry.TellsEntry entries modules := by
  cases found with
  | none =>
    constructor
    · rintro ⟨_, rfl, rfl⟩
      rfl
    · rintro rfl
      exact ⟨_, rfl, rfl⟩
  | some document =>
    dsimp only [GivesField]
    simp only [gives_list, ← gives_entries]
    constructor
    · rintro ⟨_, ⟨entries, records, rfl, rfl, given⟩, rfl⟩
      exact ⟨entries, rfl, records, given, rfl⟩
    · rintro ⟨entries, rfl, records, given, rfl⟩
      exact ⟨_, ⟨entries, records, rfl, rfl, given⟩, rfl⟩

theorem gives_manifest (document : Document) (manifest : Manifest) :
    (∃ record, (check schema document).Gives record ∧ ofRecord record = manifest) ↔
      ∃ members, document = .object members ∧ manifest.Told members := by
  have texts : ∀ roots : List String, (roots.map Value.text).filterMap Value.text? = roots := by
    intro roots
    rw [List.filterMap_map]
    exact List.filterMap_some
  unfold schema
  simp only [gives_model, gives_fields_cons, gives_fields_nil, gives_tellsText, gives_roots]
  constructor
  · rintro ⟨_, ⟨members, _, rfl, ⟨_, _, ⟨revision, told, rfl⟩, ⟨_, _, ⟨roots, rfl, owned⟩,
      ⟨modules, _, listed, rfl, rfl⟩, rfl⟩, rfl⟩, rfl⟩, rfl⟩
    have same : (ofRecord (.record .model "Manifest" [("revision", .text revision),
        ("roots", .list (roots.map .text)), ("wasm", modules)] [])).roots = roots := texts roots
    refine ⟨members, rfl, told, ?_, (gives_modules _ _).mp ⟨modules, listed, rfl⟩⟩
    rw [same]
    exact owned
  · rintro ⟨members, rfl, told, owned, listed⟩
    obtain ⟨modules, given, same⟩ := (gives_modules _ _).mpr listed
    obtain ⟨revision, roots, _⟩ := manifest
    cases same
    refine ⟨_, ⟨members, _, rfl, ⟨_, _, ⟨_, told, rfl⟩, ⟨_, _, ⟨_, rfl, owned⟩,
      ⟨modules, _, given, rfl, rfl⟩, rfl⟩, rfl⟩, rfl⟩, ?_⟩
    exact congrArg (fun roots => Manifest.mk revision roots _) (texts roots)

/-- The manifest that bytes say. -/
def Says (bytes : Bytes) (manifest : Manifest) : Prop :=
  ∃ members, Json.read bytes = some (.object members) ∧ manifest.Told members

theorem read_ok (bytes : Bytes) (manifest : Manifest) :
    read bytes = .ok manifest ↔ Says bytes manifest := by
  unfold read validateBytes Says
  cases Json.read bytes with
  | none => simp
  | some document =>
    simp only [Option.some.injEq, ← gives_manifest, ← validate_ok]
    cases validate schema document <;> simp

end Manifest

end PolicyHost
