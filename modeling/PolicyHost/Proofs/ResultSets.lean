import Mathlib.Data.List.Nodup
import PolicyHost.Proofs.Forms

namespace PolicyHost

/-!
# Result sets

A result set is an array of records, objects with a result among other members.  The
last result counts, but all of them have to be valid: what a caller gets is the last
of the results of all records, and there is none if one record is not a record, or has
no result, or one that the schema does not accept.  An evaluation without results is
told apart from an answer that is no result set.
-/

namespace Strict

open Checked

variable {members : List (String × Document)}

theorem lastMember_iff (distinct : (members.map (·.1)).Nodup) (name : String) (d : Document) :
    lastMember members name = some d ↔ (name, d) ∈ members := by
  have among : ∀ m, (members.reverse.find? fun m => m.1 == name) = some m →
      m ∈ members ∧ m.1 = name := by
    intro m found
    have member := List.mem_reverse.mp (List.mem_of_find?_eq_some found)
    have named := List.find?_some found
    exact ⟨member, eq_of_beq named⟩
  unfold lastMember
  rw [Option.map_eq_some_iff]
  constructor
  · rintro ⟨m, found, rfl⟩
    obtain ⟨member, rfl⟩ := among m found
    exact member
  · intro member
    have present : (members.reverse.find? fun m => m.1 == name).isSome := by
      rw [List.find?_isSome]
      exact ⟨(name, d), List.mem_reverse.mpr member, beq_self_eq_true name⟩
    obtain ⟨m, found⟩ := Option.isSome_iff_exists.mp present
    obtain ⟨other, named⟩ := among m found
    have same : m = (name, d) := List.inj_on_of_nodup_map distinct other member named
    exact ⟨m, found, congrArg Prod.snd same⟩

/-- A field without a default has to be there. -/
theorem gives_required (name : String) (schema : Schema)
    (rest : List (String × Schema × Option Value)) (found : List (String × Value)) :
    (all (checkFields ((name, schema, none) :: rest) members)).Gives found ↔
      ∃ d v others, lastMember members name = some d ∧ (check schema d).Gives v ∧
        (all (checkFields rest members)).Gives others ∧ found = (name, v) :: others := by
  rw [checkFields.eq_def]
  dsimp only
  rw [all, gives_both]
  simp only [gives_mapValue]
  unfold lastMember
  cases members.reverse.find? fun m => m.1 == name with
  | none =>
    constructor
    · rintro ⟨_, _, ⟨_, impossible, _⟩, _⟩
      exact impossible.elim
    · rintro ⟨_, _, _, impossible, _⟩
      cases impossible
  | some m =>
    simp only [gives_within]
    constructor
    · rintro ⟨_, others, ⟨v, given, rfl⟩, rest, rfl⟩
      exact ⟨m.2, v, others, rfl, given, rest, rfl⟩
    · rintro ⟨_, v, others, same, given, rest, rfl⟩
      cases same
      exact ⟨_, others, ⟨v, given, rfl⟩, rest, rfl⟩

end Strict

theorem Json.Denotes.resultSet {text : Bytes} {d : Document} (denotes : Denotes text d) :
    Denotes (resultSet text) (.array [.object [("result", d)]]) := by
  obtain ⟨chars, decoded, said⟩ := denotes
  exact ⟨_, decode_between "[\x7b\"result\":" "\x7d]" decoded, says_resultSet said⟩

namespace Payload

/-- A document is a record of a result set, with this as its result. -/
def HasResult (schema : Schema) (d : Document) (v : Value) : Prop :=
  ∃ members result, d = .object members ∧ ("result", result) ∈ members ∧
    Strict.validate schema result = .ok v

def resultRecord (schema : Schema) (v : Value) : Value :=
  .record .model ("ResultRecord[" ++ schema.fullName ++ "]") [("result", v)] []

theorem gives_resultRecord (schema : Schema) {d : Document} (unrepeated : d.Unrepeated)
    (w : Value) :
    (Strict.check (recordSchema schema) d).Gives w ↔
      ∃ v, HasResult schema d v ∧ w = resultRecord schema v := by
  unfold recordSchema HasResult resultRecord
  simp only [Strict.gives_model, Strict.gives_required, Strict.gives_fields_nil]
  constructor
  · rintro ⟨members, _, rfl, ⟨result, v, _, last, given, rfl, rfl⟩, rfl⟩
    cases unrepeated with
    | object _ distinct _ =>
      have member := (Strict.lastMember_iff distinct _ _).mp last
      exact ⟨v, ⟨members, result, rfl, member, (Strict.validate_ok ..).mpr given⟩, rfl⟩
  · rintro ⟨v, ⟨members, result, rfl, member, valid⟩, rfl⟩
    cases unrepeated with
    | object _ distinct _ =>
      have last := (Strict.lastMember_iff distinct _ _).mpr member
      have given := (Strict.validate_ok ..).mp valid
      exact ⟨members, _, rfl, ⟨result, v, [], last, given, rfl, rfl⟩, rfl⟩

theorem gives_resultRecords (schema : Schema) {documents : List Document}
    (unrepeated : ∀ d ∈ documents, d.Unrepeated) (values : List Value) :
    List.Forall₂ (fun d w => (Strict.check (recordSchema schema) d).Gives w) documents values ↔
      ∃ results, List.Forall₂ (HasResult schema) documents results ∧
        values = results.map (resultRecord schema) := by
  induction documents generalizing values with
  | nil => simp
  | cons d rest inductionHypothesis =>
    obtain ⟨first, others⟩ := List.forall_mem_cons.mp unrepeated
    simp only [List.forall₂_cons_left_iff, gives_resultRecord schema first,
      inductionHypothesis others]
    constructor
    · rintro ⟨_, _, ⟨v, has, rfl⟩, ⟨results, told, rfl⟩, rfl⟩
      exact ⟨v :: results, ⟨v, results, has, told, rfl⟩, rfl⟩
    · rintro ⟨_, ⟨v, results, has, told, rfl⟩, rfl⟩
      exact ⟨_, _, ⟨v, has, rfl⟩, ⟨results, told, rfl⟩, rfl⟩

/-- Bytes are the text of a result set with these results, which is not nested too deeply. -/
def HaveResults (raw : Bytes) (schema : Schema) (results : List Value) : Prop :=
  ∃ records, Json.Denotes raw (.array records) ∧ (Document.array records).depth ≤ 200 ∧
    List.Forall₂ (HasResult schema) records results

theorem haveResults_nil (raw : Bytes) (schema : Schema) :
    HaveResults raw schema [] ↔ Json.Denotes raw (.array []) := by
  constructor
  · rintro ⟨records, denotes, _, none_⟩
    cases none_
    exact denotes
  · intro denotes
    exact ⟨[], denotes, Nat.zero_le 200, .nil⟩

section Outcomes

variable {raw : Bytes} {schema : Schema} (unrepeated : ∀ d, Json.Denotes raw d → d.Unrepeated)

include unrepeated

/-- The records of a result set are decoded, all of them or none. -/
theorem decode_records (v : Value) :
    decode raw (.list (recordSchema schema)) = .ok v ↔
      ∃ results, HaveResults raw schema results ∧
        v = .list (results.map (resultRecord schema)) := by
  have each : ∀ records, Json.Denotes raw (.array records) → ∀ d ∈ records, d.Unrepeated := by
    intro records denotes
    cases unrepeated _ denotes with
    | array _ each => exact each
  rw [decode_ok_iff]
  simp only [Strict.gives_list, Json.read_iff_denotes]
  constructor
  · rintro ⟨_, ⟨denotes, room⟩, records, values, rfl, rfl, given⟩
    obtain ⟨results, told, rfl⟩ :=
      (gives_resultRecords schema (each records denotes) values).mp given
    exact ⟨results, ⟨records, denotes, room, told⟩, rfl⟩
  · rintro ⟨results, ⟨records, denotes, room, told⟩, rfl⟩
    have given := (gives_resultRecords schema (each records denotes) _).mpr ⟨results, told, rfl⟩
    exact ⟨_, ⟨denotes, room⟩, records, _, rfl, rfl, given⟩

/-- Of results the last one counts. -/
theorem lastResult_of_haveResults {results : List Value}
    (told : HaveResults raw schema results) (entrypoint : String) :
    lastResult raw schema entrypoint =
      match results.getLast? with
      | some x => .ok x
      | none => .error (Report.noResults entrypoint schema.name) := by
  have decoded := (decode_records unrepeated _).mpr ⟨results, told, rfl⟩
  unfold lastResult
  rw [decoded]
  dsimp only
  rw [List.getLast?_map]
  cases results.getLast? with
  | none => rfl
  | some x => rfl

/-- What is not decoded as records is no result set, whatever is wrong with it. -/
theorem lastResult_otherwise (none_ : ¬ ∃ results, HaveResults raw schema results)
    (entrypoint : String) :
    ∃ r, lastResult raw schema entrypoint = .error r ∧ r.Marshals "decode" := by
  cases decoded : decode raw (.list (recordSchema schema)) with
  | ok v =>
    obtain ⟨results, told, _⟩ := (decode_records unrepeated v).mp decoded
    exact absurd ⟨results, told⟩ none_
  | error r =>
    unfold lastResult
    rw [decoded]
    exact ⟨r, rfl, decode_marshals decoded⟩

/-- A result set has a last result or is an empty array, and anything else is refused. -/
theorem lastResult_cases (schema : Schema) (entrypoint : String) :
    (∃ results x, HaveResults raw schema results ∧ results.getLast? = some x ∧
      lastResult raw schema entrypoint = .ok x) ∨
    (Json.Denotes raw (.array []) ∧
      lastResult raw schema entrypoint = .error (Report.noResults entrypoint schema.name)) ∨
    ∃ r, lastResult raw schema entrypoint = .error r ∧ r.Marshals "decode" := by
  by_cases some_ : ∃ results, HaveResults raw schema results
  · obtain ⟨results, told⟩ := some_
    have outcome := lastResult_of_haveResults unrepeated told entrypoint
    cases last : results.getLast? with
    | some x =>
      rw [last] at outcome
      exact .inl ⟨results, x, told, last, outcome⟩
    | none =>
      rw [last] at outcome
      rw [List.getLast?_eq_none_iff.mp last, haveResults_nil] at told
      exact .inr (.inl ⟨told, outcome⟩)
  · exact .inr (.inr (lastResult_otherwise unrepeated some_ entrypoint))

end Outcomes

/-- The last result is the last of the results of all records, and a text without records is told
apart from all that is no result set. -/
theorem lastResult_outcomes (raw : Bytes) (schema : Schema) (entrypoint : String)
    (unrepeated : ∀ d, Json.Denotes raw d → d.Unrepeated) :
    (∀ x, lastResult raw schema entrypoint = .ok x ↔
      ∃ results, HaveResults raw schema results ∧ results.getLast? = some x) ∧
    (lastResult raw schema entrypoint = .error (Report.noResults entrypoint schema.name) ↔
      Json.Denotes raw (.array [])) ∧
    ∀ r, lastResult raw schema entrypoint = .error r → ¬ Json.Denotes raw (.array []) →
      r.Marshals "decode" := by
  have ways := lastResult_cases unrepeated schema entrypoint
  refine ⟨fun x => ⟨?found, ?last⟩, ⟨?none, ?empty⟩, ?otherwise⟩
  case found =>
    intro gives
    rcases ways with ⟨results, y, told, last, given⟩ | ⟨_, failed⟩ | ⟨r, failed, _⟩
    · cases gives.symm.trans given
      exact ⟨results, told, last⟩
    · cases gives.symm.trans failed
    · cases gives.symm.trans failed
  case last =>
    rintro ⟨results, told, last⟩
    rw [lastResult_of_haveResults unrepeated told, last]
  case none =>
    intro fails
    rcases ways with ⟨_, _, _, _, given⟩ | ⟨denotes, _⟩ | ⟨r, failed, kind, _⟩
    · cases fails.symm.trans given
    · exact denotes
    · cases fails.symm.trans failed
      cases kind
  case empty =>
    intro denotes
    exact lastResult_of_haveResults unrepeated ((haveResults_nil raw schema).mpr denotes) entrypoint
  case otherwise =>
    intro r fails some_
    rcases ways with ⟨_, _, _, _, given⟩ | ⟨denotes, _⟩ | ⟨r, failed, marshals⟩
    · cases fails.symm.trans given
    · exact absurd denotes some_
    · cases fails.symm.trans failed
      exact marshals

/-- Of two records with numbers the second one counts. -/
theorem lastResult_outcomes_two :
    let raw := Utf8.encode "[\x7b\"result\":1,\"note\":null\x7d,\x7b\"result\":2\x7d]"
    (∀ d, Json.Denotes raw d → d.Unrepeated) ∧ lastResult raw .int "policy" = .ok (.int 2) := by
  intro raw
  have read : Json.read raw = some (.array
      [.object [("result", .int 1), ("note", .null)], .object [("result", .int 2)]]) := by
    rfl
  obtain ⟨denotes, room⟩ := Json.read_iff_denotes.mp read
  have unrepeated : ∀ d, Json.Denotes raw d → d.Unrepeated := by
    apply denotes.unrepeated
    apply Document.Unrepeated.array
    refine List.forall_mem_cons.mpr ⟨.object _ (by decide) ?_, List.forall_mem_singleton.mpr ?_⟩
    · exact List.forall_mem_cons.mpr ⟨.int 1, List.forall_mem_singleton.mpr .null⟩
    · exact .object _ (by decide) (List.forall_mem_singleton.mpr (.int 2))
  obtain ⟨found, _⟩ := lastResult_outcomes raw .int "policy" unrepeated
  refine ⟨unrepeated, (found _).mpr ⟨[.int 1, .int 2], ⟨_, denotes, room, ?_⟩, rfl⟩⟩
  have first : HasResult .int (.object [("result", .int 1), ("note", .null)]) (.int 1) :=
    ⟨_, _, rfl, List.mem_cons_self .., rfl⟩
  have second : HasResult .int (.object [("result", .int 2)]) (.int 2) :=
    ⟨_, _, rfl, List.mem_cons_self .., rfl⟩
  exact .cons first (.cons second .nil)

/-- The result of one record may be null in 199 lists, or the smallest integer of 4301 digits, and
still there is no last result. -/
theorem lastResult_withheld :
    (∃ raw d r, encode (.nested 199 .null) = .ok raw ∧ decode raw .any = .ok (.nested 199 .null) ∧
      Json.Denotes (resultSet raw) (.array [.object [("result", d)]]) ∧
      Strict.validate .any d = .ok (.nested 199 .null) ∧
      lastResult (resultSet raw) .any "policy" = .error r ∧ r.kind = .marshaling) ∧
    ∃ raw r, encode (.int (10 ^ 4300)) = .ok raw ∧
      lastResult (resultSet raw) .any "policy" = .error r ∧ r.kind = .marshaling := by
  constructor
  · have plain : (Value.nested 199 .null).Plain 199 := Value.Plain.nested (.null 0) 199
    obtain ⟨raw, d, encoded, read, value, _⟩ := encode_plain plain (by decide)
    have deep : 198 < d.depth := Document.depth_nested value
    obtain ⟨r, refused, kind⟩ := lastResult_deep .any "policy" read deep
    obtain ⟨denotes, _⟩ := Json.read_iff_denotes.mp read
    have given : (Strict.check .any d).Gives (.nested 199 .null) :=
      (Strict.gives_any ..).mpr value.symm
    have decoded := (decode_ok_iff ..).mpr ⟨d, read, given⟩
    exact ⟨raw, d, r, encoded, decoded, denotes.resultSet, (Strict.validate_ok ..).mpr given,
      refused, kind⟩
  · exact lastResult_long _ (Json.length_intChars_pow Json.maxWhole (by decide)) _

end Payload
end PolicyHost
