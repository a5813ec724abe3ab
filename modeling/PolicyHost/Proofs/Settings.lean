import Mathlib
import PolicyHost.Configuration.File
import PolicyHost.Proofs.Manifests

namespace PolicyHost

/-!
# What settings a document makes

A document makes settings if it is a mapping, all of its keys are names of
settings, and each value can be taken for its setting: a number of pages that
is two or more, or null; a truth value; the name of a level in any case.
Settings that are left out have their defaults.

No document at all makes default settings.  So do the values that hold nothing
without being a mapping, `false` and `[]` among them: they are taken for no
document before anything is checked.
-/

namespace Lenient

open Checked

variable {entries : List (Value × Value)}

/-- What a value checked against a schema gives, or else what is standard for a value that is
not there. -/
def GivesField (schema : Schema) (standard : Value) : Option Value → Value → Prop
  | none, v => v = standard
  | some value, v => (check schema value).Gives v

theorem gives_field (name : String) (schema : Schema) (standard v : Value) :
    Gives (match (textEntries entries).find? fun e => e.1 == name with
      | some e => (check schema e.2).within name
      | none => fits standard) v ↔ GivesField schema standard (valueOf? entries name) v := by
  unfold valueOf?
  cases (textEntries entries).find? fun e => e.1 == name with
  | none => exact Iff.rfl
  | some e => exact gives_within _ _ _

theorem gives_fields_cons (name : String) (schema : Schema) (standard : Value)
    (rest : List (String × Schema × Option Value)) (found : List (String × Value)) :
    (all (checkFields ((name, schema, some standard) :: rest) (textEntries entries))).Gives found ↔
      ∃ v others, GivesField schema standard (valueOf? entries name) v ∧
        (all (checkFields rest (textEntries entries))).Gives others ∧
        found = (name, v) :: others := by
  rw [checkFields.eq_def]
  dsimp only
  rw [all, gives_both]
  simp only [gives_mapValue]
  have field := @gives_field entries name schema standard
  constructor
  · rintro ⟨_, others, ⟨v, given, rfl⟩, rest, rfl⟩
    exact ⟨v, others, (field v).mp given, rest, rfl⟩
  · rintro ⟨v, others, given, rest, rfl⟩
    exact ⟨_, others, ⟨v, (field v).mpr given, rfl⟩, rest, rfl⟩

theorem gives_fields_nil (found : List (String × Value)) :
    (all (checkFields [] (textEntries entries))).Gives found ↔ found = [] := by
  rw [checkFields.eq_def]
  exact Iff.rfl

/-- Every key is one of the names. -/
def KeysAmong (names : List String) (entries : List (Value × Value)) : Prop :=
  ∀ e ∈ entries, ∃ name ∈ names, e.1 = .text name

theorem gives_extraEntry (names : List String) (e : Value × Value)
    (kept : List (String × Value)) :
    Gives (match e.1 with
      | .text s => if names.contains s then fits [] else (fails .extra).within s
      | key => (fails .keyNotText).within (keyStep key)) kept ↔
      (∃ name ∈ names, e.1 = .text name) ∧ kept = [] := by
  obtain ⟨key, value⟩ := e
  cases key with
  | text s =>
    by_cases known : names.contains s
    · have listed : s ∈ names := by simpa using known
      simp only [known, if_true]
      exact ⟨fun given => ⟨⟨s, listed, rfl⟩, given⟩, And.right⟩
    · have unlisted : s ∉ names := by simpa using known
      simp only [known]
      refine ⟨False.elim, ?_⟩
      rintro ⟨⟨_, listed, same⟩, _⟩
      cases same
      exact absurd listed unlisted
  | _ => exact ⟨False.elim, fun ⟨⟨_, _, impossible⟩, _⟩ => nomatch impossible⟩

/-- Entries that are not fields are refused. -/
theorem gives_extraEntries (names : List String) (kept : List (String × Value)) :
    (extraEntries names .forbid entries).Gives kept ↔ KeysAmong names entries ∧ kept = [] := by
  have nothing : ∀ values, List.Forall₂
      (fun (e : Value × Value) found => (∃ name ∈ names, e.1 = .text name) ∧ found = [])
      entries values ↔ KeysAmong names entries ∧
        values = entries.map fun _ => ([] : List (String × Value)) := by
    intro values
    unfold KeysAmong
    induction entries generalizing values with
    | nil => simp
    | cons e rest inductionHypothesis =>
      rw [List.forall₂_cons_left_iff, List.map_cons, List.forall_mem_cons]
      simp only [inductionHypothesis]
      constructor
      · rintro ⟨_, _, ⟨known, rfl⟩, ⟨others, rfl⟩, rfl⟩
        exact ⟨⟨known, others⟩, rfl⟩
      · rintro ⟨⟨known, others⟩, rfl⟩
        exact ⟨_, _, ⟨known, rfl⟩, ⟨others, rfl⟩, rfl⟩
  unfold extraEntries
  dsimp only
  rw [gives_mapValue]
  simp only [gives_all, List.forall₂_map_left_iff]
  constructor
  · rintro ⟨values, given, rfl⟩
    obtain ⟨known, rfl⟩ := (nothing values).mp
      (given.imp fun e found => (gives_extraEntry names e found).mp)
    exact ⟨known, by simp⟩
  · rintro ⟨known, rfl⟩
    exact ⟨_, ((nothing _).mpr ⟨known, rfl⟩).imp fun e found =>
      (gives_extraEntry names e found).mpr, by simp⟩

theorem KeysAmong.encodable {names : List String} (known : KeysAmong names entries) :
    hasUnencodableKey entries = false := by
  refine List.any_eq_false.mpr fun e listed => ?_
  obtain ⟨name, _, same⟩ := known e listed
  rw [same]
  exact Bool.false_ne_true

theorem gives_model (name : String) (fields : List (String × Schema × Option Value))
    (value v : Value) :
    (check (.model name fields .forbid) value).Gives v ↔
      ∃ entries found, value = .mapping entries ∧ KeysAmong (fields.map (·.1)) entries ∧
        (all (checkFields fields (textEntries entries))).Gives found ∧
        v = .record .model name found [] := by
  rw [check.eq_def]
  cases value with
  | mapping entries =>
    dsimp only
    split
    · rename_i broken
      refine ⟨False.elim, ?_⟩
      rintro ⟨_, _, same, known, _⟩
      cases same
      simp [known.encodable] at broken
    rw [gives_atMost, gives_both]
    simp only [gives_withGiven, gives_extraEntries]
    constructor
    · rintro ⟨found, _, given, ⟨known, rfl⟩, rfl⟩
      exact ⟨entries, found, rfl, known, given, rfl⟩
    · rintro ⟨_, found, same, known, given, rfl⟩
      cases same
      exact ⟨found, [], given, ⟨known, rfl⟩, rfl⟩
  | _ => exact ⟨False.elim, fun ⟨_, _, impossible, _⟩ => nomatch impossible⟩

theorem gives_optional (s : Schema) (value v : Value) :
    (check (.choice true true [s]) value).Gives v ↔
      value = .null ∧ v = .null ∨ value ≠ .null ∧ (check s value).Gives v := by
  rw [check.eq_def]
  dsimp only
  rw [checkMembers.eq_def]
  dsimp only
  rw [checkMembers.eq_def]
  cases value with
  | null => simp [Gives, fits]
  | _ => simp [ofMembers]

theorem check_bool (value : Value) : check .bool value = checkBool value := by
  rw [check.eq_def]

theorem check_int (value : Value) : check .int value = checkInt value := by
  rw [check.eq_def]

theorem check_text (value : Value) : check .text value = checkText value := by
  rw [check.eq_def]

theorem gives_refined (rule : Rule) (base : Schema) (value v : Value) :
    (check (.refined rule base) value).Gives v ↔
      ∃ w, (check base value).Gives w ∧ rule.apply w = .ok v := by
  rw [check.eq_def]
  exact gives_applyTo rule _ v

theorem gives_converted {α : Type} (toValue : α → Value) (outcome : Except Complaint α)
    (v : Value) :
    (converted toValue outcome).Gives v ↔ ∃ a, outcome = .ok a ∧ v = toValue a := by
  cases outcome with
  | ok a => simp [converted, fits, Gives]
  | error complaint => simp [converted, fails, Gives]

theorem int_of_gives {value v : Value} (given : (checkInt value).Gives v) : ∃ n, v = .int n := by
  cases value with
  | int n => exact ⟨n, given⟩
  | bool b => exact ⟨_, given⟩
  | float x =>
    obtain ⟨n, _, same⟩ := (gives_converted _ _ v).mp given
    exact ⟨n, same⟩
  | text s =>
    obtain ⟨n, _, same⟩ := (gives_converted _ _ v).mp given
    exact ⟨n, same⟩
  | bytes b =>
    unfold checkInt at given
    cases decoded : Utf8.decode b with
    | none => simp [decoded, fails, Gives] at given
    | some chars =>
      simp only [decoded, gives_converted] at given
      obtain ⟨n, _, same⟩ := given
      exact ⟨n, same⟩
  | _ => exact given.elim

theorem bool_of_gives {value v : Value} (given : (checkBool value).Gives v) :
    ∃ b, v = .bool b := by
  unfold checkBool at given
  split at given
  case h_1 b => exact ⟨b, given⟩
  case h_2 => split_ifs at given <;> first | exact ⟨_, given⟩ | exact given.elim
  case h_3 => split at given <;> first | exact ⟨_, given⟩ | exact given.elim
  case h_4 =>
    obtain ⟨b, _, same⟩ := (gives_converted _ _ v).mp given
    exact ⟨b, same⟩
  case h_5 =>
    split at given
    · obtain ⟨b, _, same⟩ := (gives_converted _ _ v).mp given
      exact ⟨b, same⟩
    · exact given.elim
  case h_6 => exact given.elim
  case h_7 => exact given.elim

/-- A value that is a text, or UTF-8 bytes that denote one. -/
inductive Spells : Value → String → Prop
  | text (s : String) : Spells (.text s) s
  | bytes {b : Bytes} {s : String} : Utf8.decodeText b = some s → Spells (.bytes b) s

/-- A value that spells no text is taken for one only if it has no UTF-8 form. -/
theorem gives_text (value v : Value) :
    (checkText value).Gives v ↔
      (∃ s, Spells value s ∧ v = .text s) ∨ ∃ t, value = .unencodable t ∧ v = .unencodable t := by
  constructor
  · intro given
    cases value with
    | text s => exact .inl ⟨s, .text s, given⟩
    | unencodable t => exact .inr ⟨t, rfl, given⟩
    | bytes b =>
      unfold checkText at given
      cases decoded : Utf8.decodeText b with
      | none => simp [decoded, fails, Gives] at given
      | some s =>
        simp only [decoded] at given
        exact .inl ⟨s, .bytes decoded, given⟩
    | _ => exact given.elim
  · rintro (⟨s, spelled, rfl⟩ | ⟨t, rfl, rfl⟩)
    · cases spelled with
      | text => exact rfl
      | bytes decoded =>
        unfold checkText
        simp only [decoded]
        exact rfl
    · exact rfl

end Lenient

namespace Configuration

open Checked Lenient

/-- A value that stands for a bound on pages, or for none. -/
inductive Bounds : Value → Option Int → Prop
  | unbounded : Bounds .null none
  | bounded {value : Value} {n : Int} :
    (checkInt value).Gives (.int n) → 2 ≤ n → Bounds value (some n)

/-- A value that stands for a truth value. -/
def Decides (value : Value) (b : Bool) : Prop :=
  (checkBool value).Gives (.bool b)

/-- A value that spells the name of a level, in any case. -/
def NamesLevel (value : Value) (level : Logging.Level) : Prop :=
  ∃ s, Spells value s ∧ Characters.upperText s = level.name

/-- A setting that is its default if no value is given for it. -/
def Settled {α : Type} (means : Value → α → Prop) (standard : α) : Option Value → α → Prop
  | none, setting => setting = standard
  | some value, setting => means value setting

/-- The entries of a mapping make these settings. -/
structure Settles (entries : List (Value × Value)) (c : Configuration) : Prop where
  keys : KeysAmong ["max_memory_pages", "prefer_precompiled", "log_level", "guest_log_level"]
    entries
  maxPages : Settled Bounds none (valueOf? entries "max_memory_pages") c.maxPages
  preferPrecompiled : Settled Decides true (valueOf? entries "prefer_precompiled")
    c.preferPrecompiled
  logLevel : Settled NamesLevel .warning (valueOf? entries "log_level") c.logLevel
  guestLogLevel : Settled NamesLevel .info (valueOf? entries "guest_log_level") c.guestLogLevel

/-- A bound on pages as a checked field holds it. -/
def boundValue : Option Int → Value
  | none => .null
  | some n => .int n

theorem apply_atLeast (bound n : Int) (v : Value) :
    (Rule.atLeast bound).apply (.int n) = .ok v ↔ bound ≤ n ∧ v = .int n := by
  unfold Rule.apply
  dsimp only
  split_ifs with low
  · exact ⟨nofun, fun ⟨enough, _⟩ => by omega⟩
  · exact ⟨fun same => ⟨by omega, (Except.ok.inj same).symm⟩, fun ⟨_, same⟩ => by rw [same]⟩

theorem gives_bound (found : Option Value) (v : Value) :
    GivesField (Schema.optional (.refined (.atLeast 2) .int)) .null found v ↔
      ∃ bound, Settled Bounds none found bound ∧ v = boundValue bound := by
  have spelled : Schema.optional (.refined (.atLeast 2) .int) =
      .choice true true [.refined (.atLeast 2) .int] := rfl
  cases found with
  | none => simp [GivesField, Settled, boundValue]
  | some value =>
    dsimp only [GivesField, Settled]
    rw [spelled, gives_optional, gives_refined]
    constructor
    · rintro (⟨rfl, rfl⟩ | ⟨_, base, given, applied⟩)
      · exact ⟨none, .unbounded, rfl⟩
      · rw [check_int] at given
        obtain ⟨n, rfl⟩ := int_of_gives given
        obtain ⟨enough, rfl⟩ := (apply_atLeast 2 n v).mp applied
        exact ⟨some n, .bounded given enough, rfl⟩
    · rintro ⟨_, means, rfl⟩
      cases means with
      | unbounded => exact .inl ⟨rfl, rfl⟩
      | bounded given enough =>
        refine .inr ⟨?_, _, ?_, (apply_atLeast 2 _ _).mpr ⟨enough, rfl⟩⟩
        · rintro rfl
          exact given
        · rw [check_int]
          exact given

theorem gives_truth (found : Option Value) (v : Value) :
    GivesField .bool (.bool true) found v ↔ ∃ b, Settled Decides true found b ∧ v = .bool b := by
  cases found with
  | none => simp [GivesField, Settled]
  | some value =>
    dsimp only [GivesField, Settled]
    rw [check_bool]
    constructor
    · intro given
      obtain ⟨b, rfl⟩ := bool_of_gives given
      exact ⟨b, given, rfl⟩
    · rintro ⟨b, means, rfl⟩
      exact means

theorem contains_levelNames (name : String) :
    Rule.levelNames.contains name = true ↔ ∃ level : Logging.Level, name = level.name := by
  constructor
  · intro listed
    have cases : name = "CRITICAL" ∨ name = "DEBUG" ∨ name = "ERROR" ∨ name = "INFO" ∨
        name = "WARNING" := by simpa [Rule.levelNames] using listed
    rcases cases with rfl | rfl | rfl | rfl | rfl
    · exact ⟨.critical, rfl⟩
    · exact ⟨.debug, rfl⟩
    · exact ⟨.error, rfl⟩
    · exact ⟨.info, rfl⟩
    · exact ⟨.warning, rfl⟩
  · rintro ⟨level, rfl⟩
    cases level <;> decide

theorem apply_levelName (s : String) (v : Value) :
    Rule.levelName.apply (.text s) = .ok v ↔
      ∃ level : Logging.Level, Characters.upperText s = level.name ∧ v = .text level.name := by
  unfold Rule.apply
  dsimp only
  split_ifs with listed
  · obtain ⟨level, named⟩ := (contains_levelNames _).mp listed
    constructor
    · intro applied
      exact ⟨level, named, by rw [← Except.ok.inj applied, named]⟩
    · rintro ⟨_, same, rfl⟩
      rw [same]
  · refine ⟨nofun, ?_⟩
    rintro ⟨level, same, _⟩
    exact absurd ((contains_levelNames _).mpr ⟨level, same⟩) listed

theorem gives_level (standard : Logging.Level) (found : Option Value) (v : Value) :
    GivesField (.refined .levelName .text) (.text standard.name) found v ↔
      ∃ level, Settled NamesLevel standard found level ∧ v = .text level.name := by
  cases found with
  | none => simp [GivesField, Settled]
  | some value =>
    dsimp only [GivesField, Settled]
    rw [gives_refined, check_text]
    simp only [gives_text]
    constructor
    · rintro ⟨_, ⟨s, spelled, rfl⟩ | ⟨t, _, rfl⟩, applied⟩
      · obtain ⟨level, named, rfl⟩ := (apply_levelName s v).mp applied
        exact ⟨level, ⟨s, spelled, named⟩, rfl⟩
      · cases applied
    · rintro ⟨level, ⟨s, spelled, named⟩, rfl⟩
      exact ⟨_, .inl ⟨s, spelled, rfl⟩, (apply_levelName s _).mpr ⟨level, named, rfl⟩⟩

theorem levelOf_name (otherwise level : Logging.Level) :
    levelOf otherwise (.text level.name) = level := by
  cases level <;> rfl

theorem ofValue_gives (value : Value) (c : Configuration) :
    ofValue value = .ok c ↔ ∃ record, (check schema value).Gives record ∧ ofRecord record = c := by
  unfold ofValue
  cases check schema value with
  | ok fit => simp [Gives]
  | error issues => simp [Gives]

/-- The settings that a value makes are those of a mapping. -/
theorem ofValue_ok (value : Value) (c : Configuration) :
    ofValue value = .ok c ↔ ∃ entries, value = .mapping entries ∧ Settles entries c := by
  have warning := gives_level .warning
  have info := gives_level .info
  dsimp only [Logging.Level.name] at warning info
  rw [ofValue_gives]
  unfold schema
  simp only [Lenient.gives_model, Lenient.gives_fields_cons, Lenient.gives_fields_nil, gives_bound,
    gives_truth, warning, info]
  constructor
  · rintro ⟨_, ⟨entries, _, rfl, keys, ⟨_, _, ⟨bound, bounded, rfl⟩, ⟨_, _, ⟨b, decided, rfl⟩,
      ⟨_, _, ⟨level, named, rfl⟩, ⟨_, _, ⟨guestLevel, guestNamed, rfl⟩, rfl, rfl⟩, rfl⟩, rfl⟩,
      rfl⟩, rfl⟩, rfl⟩
    refine ⟨entries, rfl, keys, ?_, decided, ?_, ?_⟩
    · cases bound <;> exact bounded
    · rw [← levelOf_name .warning level] at named
      exact named
    · rw [← levelOf_name .info guestLevel] at guestNamed
      exact guestNamed
  · rintro ⟨entries, rfl, keys, bounded, decided, named, guestNamed⟩
    refine ⟨_, ⟨entries, _, rfl, keys, ⟨_, _, ⟨_, bounded, rfl⟩, ⟨_, _, ⟨_, decided, rfl⟩,
      ⟨_, _, ⟨_, named, rfl⟩, ⟨_, _, ⟨_, guestNamed, rfl⟩, rfl, rfl⟩, rfl⟩, rfl⟩, rfl⟩, rfl⟩, ?_⟩
    obtain ⟨bound, b, level, guestLevel⟩ := c
    have first := levelOf_name .warning level
    have second := levelOf_name .info guestLevel
    cases bound <;> exact congr (congrArg _ first) second

/-- A fault that is a report about the configuration with this name. -/
def Blames (source : String) (fault : Fault) : Prop :=
  ∃ r, fault = .report r ∧ r.kind = .configFile ∧
    r.context.find? "config_path" = some (.text source)

theorem blames_badConfiguration (source underlying : String) :
    Blames source (.report (Report.badConfiguration source underlying)) :=
  ⟨_, rfl, rfl, rfl⟩

/-- A value that holds nothing and is no mapping. -/
inductive Hollow : Value → Prop
  | no : Hollow (.bool false)
  | zero : Hollow (.int 0)
  | float (negative : Bool) (shift : Nat) : Hollow (.float (.finite negative 0 shift))
  | text : Hollow (.text "")
  | bytes : Hollow (.bytes [])
  | list : Hollow (.list [])
  | tuple : Hollow (.tuple [])
  | set : Hollow (.set [])

/-- The settings that the value of a document makes. -/
inductive Makes : Value → Configuration → Prop
  | absent : Makes .null {}
  | settled {entries : List (Value × Value)} {c : Configuration} :
    Settles entries c → Makes (.mapping entries) c
  | hollow {value : Value} : Hollow value → Makes value {}

theorem isFalsy_cases (value : Value) :
    value.isFalsy = true ↔ value = .null ∨ value = .mapping [] ∨ Hollow value := by
  constructor
  · intro falsy
    unfold Value.isFalsy at falsy
    split at falsy
    case h_1 => exact .inl rfl
    case h_2 b =>
      cases b with
      | false => exact .inr (.inr .no)
      | true => cases falsy
    case h_3 n =>
      obtain rfl : n = 0 := by simpa using falsy
      exact .inr (.inr .zero)
    case h_4 m _ =>
      obtain rfl : m = 0 := by simpa using falsy
      exact .inr (.inr (.float _ _))
    case h_5 s =>
      obtain rfl : s = "" := by simpa using falsy
      exact .inr (.inr .text)
    case h_6 b =>
      obtain rfl : b = [] := by simpa using falsy
      exact .inr (.inr .bytes)
    case h_7 xs =>
      obtain rfl : xs = [] := by simpa using falsy
      exact .inr (.inr .list)
    case h_8 xs =>
      obtain rfl : xs = [] := by simpa using falsy
      exact .inr (.inr .tuple)
    case h_9 xs =>
      obtain rfl : xs = [] := by simpa using falsy
      exact .inr (.inr .set)
    case h_10 es =>
      obtain rfl : es = [] := by simpa using falsy
      exact .inr (.inl rfl)
    case h_11 => cases falsy
  · rintro (rfl | rfl | hollow)
    · rfl
    · rfl
    · cases hollow <;> rfl

/-- Without entries every setting has its default. -/
theorem settles_nil (c : Configuration) : Settles [] c ↔ c = {} := by
  constructor
  · rintro ⟨_, bounded, decided, named, guestNamed⟩
    obtain ⟨bound, b, level, guestLevel⟩ := c
    cases bounded
    cases decided
    cases named
    cases guestNamed
    rfl
  · rintro rfl
    exact ⟨nofun, rfl, rfl, rfl, rfl⟩

theorem makes_checked (value : Value) (c : Configuration) :
    ofValue (if value.isFalsy then .mapping [] else value) = .ok c ↔ Makes value c := by
  rw [ofValue_ok]
  constructor
  · rintro ⟨entries, same, settles⟩
    by_cases falsy : value.isFalsy
    · rw [if_pos falsy] at same
      cases same
      obtain rfl := (settles_nil c).mp settles
      rcases (isFalsy_cases value).mp falsy with rfl | rfl | hollow
      · exact .absent
      · exact .settled settles
      · exact .hollow hollow
    · rw [if_neg falsy] at same
      subst same
      exact .settled settles
  · intro makes
    have default : Settles [] {} := (settles_nil {}).mpr rfl
    cases makes with
    | absent => exact ⟨[], rfl, default⟩
    | @settled entries _ settles =>
      refine ⟨entries, ?_, settles⟩
      cases entries <;> rfl
    | hollow empty =>
      rw [if_pos ((isFalsy_cases value).mpr (.inr (.inr empty)))]
      exact ⟨[], rfl, default⟩

/-- A value that sets a level to a text without a UTF-8 form. -/
inductive BrokenLevel : Value → Prop
  | level {entries : List (Value × Value)} {name : String} {t : Unencodable}
    (which : name = "log_level" ∨ name = "guest_log_level")
    (set : valueOf? entries name = some (.unencodable t)) : BrokenLevel (.mapping entries)

theorem hasUnencodableLevel_iff (value : Value) : hasUnencodableLevel value = true ↔ BrokenLevel value := by
  constructor
  · intro has
    unfold hasUnencodableLevel at has
    split at has
    · obtain ⟨name, which, matched⟩ := List.any_eq_true.mp has
      split at matched
      · rename_i set
        exact .level (by simpa using which) set
      · cases matched
    · cases has
  · rintro ⟨which, set⟩
    obtain rfl | rfl := which <;> simp [hasUnencodableLevel, set]

instance (value : Value) : Decidable (BrokenLevel value) :=
  decidable_of_iff _ (hasUnencodableLevel_iff value)

theorem BrokenLevel.not_makes {value : Value} (broken : BrokenLevel value) (c : Configuration) :
    ¬ Makes value c := by
  rintro (_ | settles | hollow)
  · cases broken
  · cases broken with
    | level which set =>
      have spells : ∀ {t s}, ¬ Spells (.unencodable t) s := nofun
      obtain rfl | rfl := which
      · have named := settles.logLevel
        rw [set] at named
        obtain ⟨s, spelled, _⟩ := named
        exact spells spelled
      · have named := settles.guestLogLevel
        rw [set] at named
        obtain ⟨s, spelled, _⟩ := named
        exact spells spelled
  · cases broken
    cases hollow

theorem brokenLevel_checked (value : Value) :
    BrokenLevel (if value.isFalsy then .mapping [] else value) ↔ BrokenLevel value := by
  by_cases falsy : value.isFalsy
  · rw [if_pos falsy]
    constructor
    · rintro ⟨rfl | rfl, set⟩ <;> cases set
    · intro broken
      rcases (isFalsy_cases value).mp falsy with rfl | rfl | hollow
      · cases broken
      · exact broken
      · cases broken
        cases hollow
  · rw [if_neg falsy]

section Document

variable {load : Yaml.Loader} {text : HostText} {value : Value} (source : String)

theorem ofYaml_eq (read : load text = .ok value) :
    ofYaml load source text =
      if BrokenLevel value then .error .unencodable
      else (ofValue (if value.isFalsy then .mapping [] else value)).mapError (misfit source) := by
  rw [ofYaml, read]
  dsimp only
  rw [ofData]
  exact if_congr ((hasUnencodableLevel_iff _).trans (brokenLevel_checked value)) rfl rfl

theorem ofYaml_ok (read : load text = .ok value) (c : Configuration) :
    ofYaml load source text = .ok c ↔ Makes value c := by
  rw [ofYaml_eq source read]
  by_cases broken : BrokenLevel value
  · rw [if_pos broken]
    exact ⟨nofun, fun makes => absurd makes (broken.not_makes c)⟩
  · rw [if_neg broken, ← makes_checked]
    cases ofValue (if value.isFalsy then .mapping [] else value) <;> simp [Except.mapError]

theorem ofYaml_broken (read : load text = .ok value) (broken : BrokenLevel value) :
    ofYaml load source text = .error .unencodable := by
  rw [ofYaml_eq source read, if_pos broken]

theorem ofYaml_refused (read : load text = .ok value) (nothing : ∀ c, ¬ Makes value c)
    (sound : ¬ BrokenLevel value) :
    ∃ fault, ofYaml load source text = .error fault ∧ Blames source fault := by
  rw [ofYaml_eq source read, if_neg sound]
  cases checked : ofValue (if value.isFalsy then .mapping [] else value) with
  | ok c => exact absurd ((makes_checked value c).mp checked) (nothing c)
  | error issues => exact ⟨_, rfl, blames_badConfiguration _ _⟩

end Document

theorem load_half : Yaml.load (.whole "log_level: \"\\ud800\"") =
    .ok (.mapping [(.text "log_level", .unencodable ⟨[0xD800], rfl⟩)]) := by
  have tokens : Yaml.Layout.tokensOf "log_level: \"\\ud800\"".toList =
      [.blockMapping, .key, .scalar (.whole "log_level") true, .value,
        .scalar (.broken ⟨[0xD800], rfl⟩) false, .blockEnd] := by
    decide +kernel
  unfold Yaml.load Yaml.read
  dsimp only
  rw [tokens]
  rfl

end Configuration

end PolicyHost
