import PolicyHost.Proofs.Acceptance
import PolicyHost.Proofs.Reports
import PolicyHost.Proofs.RoundTrip

namespace PolicyHost

/-!
# Decoding by form

A form says what a document is made of, and nothing about what is to be made of the
document: there is no form for doubles, bytes, sets or records, which texts of other
kinds stand for as well.  Decoding a text as a form succeeds if the document of the
text is of that form, and then gives what the document says.  It is the value that is
decoded where nothing is asked of the document, but for the arrays that the form calls
tuples.  Nothing is converted on the way, in whichever place of whichever choice.

What is no text of a document, or one that is nested too deeply, is not decoded as
anything.  To the reader an integer of more than 4300 digits is no document.
-/

/-! ## Documents and what they stand for -/

namespace Document

/-- No object in a document has two members with one name. -/
inductive Unrepeated : Document → Prop
  | null : Unrepeated .null
  | bool (b : Bool) : Unrepeated (.bool b)
  | int (n : Int) : Unrepeated (.int n)
  | float (x : Double) : Unrepeated (.float x)
  | text (s : String) : Unrepeated (.text s)
  | array (items : List Document) (each : ∀ d ∈ items, Unrepeated d) : Unrepeated (.array items)
  | object (members : List (String × Document)) (distinct : (members.map (·.1)).Nodup)
    (each : ∀ m ∈ members, Unrepeated m.2) : Unrepeated (.object members)

theorem values_eq (items : List Document) : values items = items.map value := by
  induction items with
  | nil => rfl
  | cons d rest inductionHypothesis => rw [values, inductionHypothesis, List.map_cons]

theorem memberValues_eq (members : List (String × Document)) :
    memberValues members = members.map fun m => (m.1, m.2.value) := by
  induction members with
  | nil => rfl
  | cons m rest inductionHypothesis => rw [memberValues, inductionHypothesis, List.map_cons]

theorem value_object (members : List (String × Document)) (distinct : (members.map (·.1)).Nodup) :
    (Document.object members).value =
      .mapping (members.map fun m => (.text m.1, m.2.value)) := by
  rw [value, memberValues_eq, settle_of_nodup, Value.object, List.map_map]
  · rfl
  · rw [List.map_map]
    exact distinct

end Document

namespace Value

mutual

def listed : Value → Value
  | .list items | .tuple items => .list (listedAll items)
  | .mapping entries => .mapping (listedEntries entries)
  | v => v

def listedAll : List Value → List Value
  | [] => []
  | v :: vs => listed v :: listedAll vs

def listedEntries : List (Value × Value) → List (Value × Value)
  | [] => []
  | (k, v) :: es => (k, listed v) :: listedEntries es

end

theorem listedAll_eq (items : List Value) : listedAll items = items.map listed := by
  induction items with
  | nil => rfl
  | cons v rest inductionHypothesis => rw [listedAll, inductionHypothesis, List.map_cons]

theorem listedEntries_eq (entries : List (Value × Value)) :
    listedEntries entries = entries.map fun e => (e.1, e.2.listed) := by
  induction entries with
  | nil => rfl
  | cons e rest inductionHypothesis => rw [listedEntries, inductionHypothesis, List.map_cons]

/-- Fields under texts that are all distinct are stored as they are. -/
theorem ofEntries_distinct (fields : List (String × Value)) (distinct : (fields.map (·.1)).Nodup) :
    ofEntries (fields.map (named id)) = .mapping (fields.map (named id)) := by
  rw [ofEntries_named, Document.settle_of_nodup fields distinct]

end Value

theorem Document.Unrepeated.listed_value {d : Document} (unrepeated : d.Unrepeated) :
    d.value.listed = d.value := by
  induction unrepeated with
  | null | bool | int | float | text => rfl
  | array items each inductionHypothesis =>
    rw [value, values_eq, Value.listed, Value.listedAll_eq, List.map_map]
    exact congrArg Value.list (List.map_congr_left inductionHypothesis)
  | object members distinct each inductionHypothesis =>
    rw [value_object members distinct, Value.listed, Value.listedEntries_eq, List.map_map]
    apply congrArg Value.mapping
    apply List.map_congr_left
    intro m member
    exact congrArg (Prod.mk _) (inductionHypothesis m member)

/-! ## What is made of them -/

namespace Strict

open Checked Schema

theorem map_eq_of_forall₂ {α β γ : Type} {related : α → β → Prop} {f : β → γ} {g : α → γ}
    {items : List α} {values : List β} (all : List.Forall₂ related items values)
    (same : ∀ a ∈ items, ∀ b, related a b → f b = g a) : values.map f = items.map g := by
  induction all with
  | nil => rfl
  | cons first _ inductionHypothesis =>
    rw [List.map_cons, List.map_cons, same _ (List.mem_cons_self ..) _ first,
      inductionHypothesis fun a member => same a (List.mem_cons_of_mem _ member)]

theorem listed_array {items : List Document} {values : List Value}
    (same : values.map Value.listed = items.map Document.value) :
    (Value.list values).listed = (Document.array items).value ∧
      (Value.tuple values).listed = (Document.array items).value := by
  have elements : Value.list (Value.listedAll values) = .list (Document.values items) := by
    rw [Value.listedAll_eq, Document.values_eq, same]
  rw [Value.listed, Value.listed, Document.value]
  exact ⟨elements, elements⟩

theorem fields_of_entries {value : Schema} {members : List (String × Document)}
    {entries : List (Value × Value)}
    (given : List.Forall₂ (fun m e => ∃ w, (check value m.2).Gives w ∧ e = (.text m.1, w))
      members entries) :
    ∃ fields : List (String × Value), entries = fields.map (Value.named id) ∧
      fields.map (·.1) = members.map (·.1) := by
  induction given with
  | nil => exact ⟨[], rfl, rfl⟩
  | @cons m _ _ _ first _ inductionHypothesis =>
    obtain ⟨w, _, rfl⟩ := first
    obtain ⟨fields, rfl, names⟩ := inductionHypothesis
    exact ⟨(m.1, w) :: fields, rfl, congrArg (m.1 :: ·) names⟩

theorem listed_elements {schemas : List Schema} {items : List Document} {values : List Value}
    (given : List.Forall₂ Gives (checkTuple schemas items) values)
    (short : items.length ≤ schemas.length)
    (same : ∀ s ∈ schemas, ∀ d ∈ items, ∀ v, (check s d).Gives v → v.listed = d.value) :
    values.map Value.listed = items.map Document.value := by
  induction schemas generalizing items values with
  | nil =>
    have none_ : items = [] := List.length_eq_zero_iff.mp (Nat.le_zero.mp short)
    subst none_
    rw [checkTuple.eq_def] at given
    cases given
    rfl
  | cons s rest inductionHypothesis =>
    cases items with
    | nil =>
      rw [checkTuple.eq_def] at given
      obtain ⟨_, _, impossible, _⟩ := List.forall₂_cons_left_iff.mp given
      exact impossible.elim
    | cons d more =>
      rw [checkTuple.eq_def] at given
      obtain ⟨v, others, first, later, rfl⟩ := List.forall₂_cons_left_iff.mp given
      rw [List.map_cons, List.map_cons,
        same s (List.mem_cons_self ..) d (List.mem_cons_self ..) v first,
        inductionHypothesis later (Nat.le_of_succ_le_succ short) fun t member x among =>
          same t (List.mem_cons_of_mem _ member) x (List.mem_cons_of_mem _ among)]

theorem listed_of_gives {s : Schema} (structural : s.Structural) {d : Document}
    (unrepeated : d.Unrepeated) {v : Value} (given : (check s d).Gives v) : v.listed = d.value := by
  induction structural generalizing d v with
  | any =>
    rw [(gives_any d v).mp given]
    exact unrepeated.listed_value
  | bool =>
    obtain ⟨b, rfl, rfl⟩ := (gives_bool d v).mp given
    rfl
  | int =>
    obtain ⟨n, rfl, rfl⟩ := (gives_int d v).mp given
    rfl
  | text =>
    obtain ⟨t, rfl, rfl⟩ := (gives_text d v).mp given
    rfl
  | null =>
    obtain ⟨rfl, rfl⟩ := (gives_null d v).mp given
    rfl
  | anyList =>
    obtain ⟨_, _, rfl⟩ := (gives_anyList d v).mp given
    exact unrepeated.listed_value
  | anyMapping =>
    obtain ⟨_, _, rfl⟩ := (gives_anyMapping d v).mp given
    exact unrepeated.listed_value
  | list item _ inductionHypothesis =>
    obtain ⟨items, values, rfl, rfl, elements⟩ := (gives_list item d v).mp given
    cases unrepeated with
    | array _ each =>
      refine (listed_array (map_eq_of_forall₂ elements ?_)).1
      exact fun x member w => inductionHypothesis (each x member)
  | sequence item _ inductionHypothesis =>
    obtain ⟨items, values, rfl, rfl, elements⟩ := (gives_sequence item d v).mp given
    cases unrepeated with
    | array _ each =>
      refine (listed_array (map_eq_of_forall₂ elements ?_)).2
      exact fun x member w => inductionHypothesis (each x member)
  | mapping value _ inductionHypothesis =>
    obtain ⟨members, entries, rfl, rfl, elements⟩ := (gives_mapping value d v).mp given
    cases unrepeated with
    | object _ distinct each =>
      obtain ⟨fields, same, names⟩ := fields_of_entries elements
      rw [same, Value.ofEntries_distinct fields (names ▸ distinct), ← same, Value.listed,
        Value.listedEntries_eq, Document.value_object members distinct]
      apply congrArg Value.mapping
      apply map_eq_of_forall₂ elements
      rintro m member _ ⟨w, given, rfl⟩
      exact congrArg (Prod.mk _) (inductionHypothesis (each m member) given)
  | tuple schemas _ inductionHypothesis =>
    obtain ⟨items, values, rfl, rfl, short, elements⟩ := (gives_tuple schemas d v).mp given
    cases unrepeated with
    | array _ each =>
      refine (listed_array (listed_elements elements short ?_)).2
      exact fun s member x among w => inductionHypothesis s member (each x among)
  | choice barred orNull members _ inductionHypothesis =>
    obtain ⟨_, rfl, rfl⟩ | ⟨t, listed, given⟩ := gives_choice given
    · rfl
    · exact inductionHypothesis t listed unrepeated given

end Strict

/-! ## Forms -/

/-- What a document may be made of. -/
inductive Form where
  | any
  | bool
  | int
  | text
  | null
  | anyList
  | anyMapping
  | list (item : Form)
  | mapping (value : Form)
  /-- As many elements, each of its own form. -/
  | tuple (items : List Form)
  | sequence (item : Form)
  | optional (form : Form)
  | union (members : List Form)

namespace Form

mutual

def schema : Form → Schema
  | any => .any
  | bool => .bool
  | int => .int
  | text => .text
  | null => .null
  | anyList => .anyList
  | anyMapping => .anyMapping
  | list item => .list item.schema
  | mapping value => .mapping .text value.schema
  | tuple items => .tuple (schemas items)
  | sequence item => .sequence item.schema
  | optional form => form.schema.optional
  | union members => .union (schemas members)

def schemas : List Form → List Schema
  | [] => []
  | f :: fs => f.schema :: schemas fs

end

mutual

def admits : Form → Document → Bool
  | any, _ => true
  | bool, .bool _ => true
  | int, .int _ => true
  | text, .text _ => true
  | null, .null => true
  | anyList, .array _ => true
  | anyMapping, .object _ => true
  | list item, .array items => items.all item.admits
  | mapping value, .object members => members.all fun m => value.admits m.2
  | tuple forms, .array items => admitsEach forms items
  | sequence item, .array items => items.all item.admits
  | optional _, .null => true
  | optional form, d => form.admits d
  | union members, d => admitsSome members d
  | _, _ => false

def admitsEach : List Form → List Document → Bool
  | [], [] => true
  | f :: fs, d :: ds => f.admits d && admitsEach fs ds
  | _, _ => false

def admitsSome : List Form → Document → Bool
  | [], _ => false
  | f :: fs, d => f.admits d || admitsSome fs d

end

open Schema Strict

mutual

theorem structural : (form : Form) → form.schema.Structural
  | any => .any
  | bool => .bool
  | int => .int
  | text => .text
  | null => .null
  | anyList => .anyList
  | anyMapping => .anyMapping
  | list item => .list _ item.structural
  | mapping value => .mapping _ value.structural
  | tuple items => .tuple _ (structural_all items)
  | sequence item => .sequence _ item.structural
  | optional form => form.structural.optional
  | union members => .choose _ (structural_all members)

theorem structural_all : (forms : List Form) → ∀ s ∈ schemas forms, s.Structural
  | [] => fun _ impossible => nomatch impossible
  | f :: fs => List.forall_mem_cons.mpr ⟨f.structural, structural_all fs⟩

end

mutual

theorem accepts_iff : (form : Form) → (d : Document) → Accepts form.schema d ↔ form.admits d = true
  | any, d => iff_of_true ⟨_, (gives_any d _).mpr rfl⟩ (admits.eq_def _ _)
  | bool, d => by cases d <;> simp [schema, admits, Accepts, gives_bool]
  | int, d => by cases d <;> simp [schema, admits, Accepts, gives_int]
  | text, d => by cases d <;> simp [schema, admits, Accepts, gives_text]
  | null, d => by cases d <;> simp [schema, admits, Accepts, gives_null]
  | anyList, d => by cases d <;> simp [schema, admits, Accepts, gives_anyList]
  | anyMapping, d => by cases d <;> simp [schema, admits, Accepts, gives_anyMapping]
  | list item, d => by
    rw [schema, accepts_items (gives_list _)]
    cases d <;> simp [admits, item.accepts_iff]
  | mapping value, d => by
    rw [schema, accepts_mapping]
    cases d <;> simp [admits, value.accepts_iff]
  | tuple forms, d => by
    rw [schema, accepts_tuple]
    cases d <;> simp [admits, accepts_each forms]
  | sequence item, d => by
    rw [schema, accepts_items (gives_sequence _)]
    cases d <;> simp [admits, item.accepts_iff]
  | optional form, d => by
    rw [schema, accepts_optional form.structural, form.accepts_iff]
    cases d <;> simp [admits]
  | union members, d => by
    rw [schema, Schema.union, accepts_choose _ (structural_all members), accepts_some members d]
    cases d <;> simp [admits]

theorem accepts_each : (forms : List Form) → (items : List Document) →
    (List.Forall₂ Accepts (schemas forms) items ↔ admitsEach forms items = true)
  | [], [] => iff_of_true .nil rfl
  | [], _ :: _ => iff_of_false nofun nofun
  | _ :: _, [] => iff_of_false nofun nofun
  | f :: fs, d :: ds => by
    rw [schemas, List.forall₂_cons, f.accepts_iff, accepts_each fs ds, admitsEach, Bool.and_eq_true]

theorem accepts_some : (forms : List Form) → (d : Document) →
    ((∃ s ∈ schemas forms, Accepts s d) ↔ admitsSome forms d = true)
  | [], d => iff_of_false nofun nofun
  | f :: fs, d => by
    rw [schemas, List.exists_mem_cons_iff, f.accepts_iff, accepts_some fs d, admitsSome,
      Bool.or_eq_true]

end

end Form

/-! ## Decoding -/

namespace Json

/-- Bytes are the text of a document. -/
def Denotes (text : Bytes) (d : Document) : Prop :=
  ∃ chars, Utf8.decode text = some chars ∧ Says chars d

theorem read_iff_denotes {text : Bytes} {d : Document} :
    read text = some d ↔ Denotes text d ∧ d.depth ≤ 200 := by
  rw [read_iff]
  constructor
  · rintro ⟨chars, decoded, said, room⟩
    exact ⟨⟨chars, decoded, said⟩, room⟩
  · rintro ⟨⟨chars, decoded, said⟩, room⟩
    exact ⟨chars, decoded, said, room⟩

theorem Denotes.unique {text : Bytes} {d e : Document} (first : Denotes text d)
    (second : Denotes text e) : d = e := by
  obtain ⟨chars, decoded, said⟩ := first
  obtain ⟨others, decoded', said'⟩ := second
  cases decoded.symm.trans decoded'
  exact Option.some.inj (said.symm.trans said')

theorem Denotes.unrepeated {text : Bytes} {d : Document} (denotes : Denotes text d)
    (distinct : d.Unrepeated) : ∀ other, Denotes text other → other.Unrepeated := by
  intro other denotes'
  rwa [denotes'.unique denotes]

end Json

namespace Payload

theorem decode_ok_iff_valid (raw : Bytes) (schema : Schema) (v : Value) :
    decode raw schema = .ok v ↔ Strict.validateBytes schema raw = .ok v := by
  unfold decode
  cases Strict.validateBytes schema raw <;> simp

/-- What is decoded is what the schema makes of the document that was read. -/
theorem decode_ok_iff (raw : Bytes) (schema : Schema) (v : Value) :
    decode raw schema = .ok v ↔ ∃ d, Json.read raw = some d ∧ (Strict.check schema d).Gives v := by
  rw [decode_ok_iff_valid]
  unfold Strict.validateBytes
  cases Json.read raw with
  | none => simp
  | some d => simp [Strict.validate_ok]

theorem decode_marshals {raw : Bytes} {schema : Schema} {r : Report}
    (failed : decode raw schema = .error r) : r.Marshals "decode" := by
  unfold decode at failed
  split at failed
  · cases failed
  · cases failed
    exact Report.marshaling_marshals ..

/-- Bytes are decoded as a form if they are the text of a document of that form that is not nested
too deeply, and as what the document says. -/
theorem decode_form (form : Form) (raw : Bytes)
    (unrepeated : ∀ d, Json.Denotes raw d → d.Unrepeated) :
    ((∃ v, decode raw form.schema = .ok v) ↔
      ∃ d, Json.Denotes raw d ∧ d.depth ≤ 200 ∧ form.admits d = true) ∧
    (∀ v, decode raw form.schema = .ok v →
      decode raw .any = .ok v.listed ∧ ∀ d, Json.Denotes raw d → v.listed = d.value) ∧
    ∀ r, decode raw form.schema = .error r → r.Marshals "decode" := by
  refine ⟨?accepted, ?plain, fun r => decode_marshals⟩
  case accepted =>
    simp only [decode_ok_iff, ← form.accepts_iff, ← and_assoc, ← Json.read_iff_denotes]
    rw [exists_comm]
    simp only [exists_and_left, Strict.Accepts]
  case plain =>
    intro v decoded
    obtain ⟨d, read, given⟩ := (decode_ok_iff ..).mp decoded
    have denotes := (Json.read_iff_denotes.mp read).1
    have same := Strict.listed_of_gives form.structural (unrepeated d denotes) given
    constructor
    · exact (decode_ok_iff ..).mpr ⟨d, read, (Strict.gives_any d _).mpr same⟩
    · intro other denotes'
      rw [denotes'.unique denotes]
      exact same

/-- A tuple whose second element is of one form of two is decoded. -/
theorem decode_form_mixed :
    let form : Form := .tuple [.int, .union [.sequence .bool, .tuple [.bool, .text]],
      .mapping (.optional .int)]
    let raw := Utf8.encode "[1,[true,\"a\"],\x7b\"k\":null\x7d]"
    (∀ d, Json.Denotes raw d → d.Unrepeated) ∧
      ∃ v, decode raw form.schema = .ok v ∧ decode raw .any = .ok v.listed := by
  intro form raw
  have read : Json.read raw = some
      (.array [.int 1, .array [.bool true, .text "a"], .object [("k", .null)]]) := by
    rfl
  obtain ⟨denotes, room⟩ := Json.read_iff_denotes.mp read
  have unrepeated : ∀ d, Json.Denotes raw d → d.Unrepeated := by
    apply denotes.unrepeated
    apply Document.Unrepeated.array
    simp only [List.forall_mem_cons]
    refine ⟨.int 1, .array _ ?_, .object _ (by decide) ?_, nofun⟩
    · simp only [List.forall_mem_cons]
      exact ⟨.bool true, .text "a", nofun⟩
    · exact List.forall_mem_singleton.mpr .null
  obtain ⟨accepted, plain, _⟩ := decode_form form raw unrepeated
  obtain ⟨v, decoded⟩ := accepted.mpr ⟨_, denotes, room, rfl⟩
  exact ⟨unrepeated, v, decoded, (plain v decoded).1⟩

/-- The smallest integer of 4301 digits has a text, but that is not decoded. -/
theorem decode_long :
    let raw := Utf8.encodeChars (Json.intChars (10 ^ 4300))
    encode (.int (10 ^ 4300)) = .ok raw ∧
      ∃ r, decode raw .int = .error r ∧ r.Marshals "decode" := by
  have long := Json.length_intChars_pow Json.maxWhole (by decide)
  obtain ⟨unread, _⟩ := Json.unread_of_holds (Utf8.decode_encodeChars _)
    (Json.holdsUnread_int long)
  refine ⟨rfl, ?_⟩
  cases decoded : decode (Utf8.encodeChars (Json.intChars (10 ^ 4300))) .int with
  | ok v =>
    obtain ⟨d, read, _⟩ := (decode_ok_iff ..).mp decoded
    cases unread.symm.trans read
  | error r => exact ⟨r, rfl, decode_marshals decoded⟩

end Payload
end PolicyHost
