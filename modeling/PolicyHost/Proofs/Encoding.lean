import PolicyHost.Payload

namespace PolicyHost

/-!
# No encoding is empty

A raw write of no bytes can miss the end of the memory, and a terminator can
stand right at its start.  Neither happens to a payload: whatever a value is,
its compact form has at least one character.
-/

namespace Double

/-- A plain notation has a decimal point. -/
theorem plain_ne_nil (digits : String) (before : Int) : (plain digits before).toList ≠ [] := by
  unfold plain
  dsimp only
  split
  · simp [String.toList_append]
  · split <;> simp [String.toList_append]

/-- A notation with an exponent has an `e`. -/
theorem scientific_ne_nil (layout : Layout) (digits : String) (leading : Int) :
    (scientific layout digits leading).toList ≠ [] := by
  unfold scientific
  simp [String.toList_append]

/-- Doubles are written with at least one character. -/
theorem format_ne_nil (x : Double) : (format jsonLayout x).toList ≠ [] := by
  cases x with
  | nan => simp [format, jsonLayout]
  | infinite negative => simp [format, jsonLayout, String.toList_append]
  | finite negative mantissa shift =>
    unfold format
    by_cases zero : mantissa = 0
    · simp [zero, String.toList_append]
    · simp only [if_neg zero, String.toList_append, ne_eq, List.append_eq_nil_iff, not_and]
      intro _
      split
      · exact plain_ne_nil _ _
      · exact scientific_ne_nil _ _ _

end Double

namespace Json

/-- Integers are written with at least one character. -/
theorem intChars_ne_nil (n : Int) : intChars n ≠ [] := by
  unfold intChars
  rw [Int.toString_eq_repr]
  cases n with
  | ofNat n =>
    intro empty
    exact Nat.repr_ne_empty (String.toList_eq_nil_iff.mp empty)
  | negSucc n => simp [Int.repr, String.toList_append]

/-- The compact form of a value has at least one character. -/
theorem compact_ne_nil (levels : Nat) (value : Value) (chars : List Char)
    (written : compact levels value = some chars) : chars ≠ [] := by
  cases levels with
  | zero =>
    rw [compact] at written
    cases written
  | succ levels =>
    cases value with
    | null => cases written; decide
    | bool b => cases written; cases b <;> decide
    | int n => cases written; exact intChars_ne_nil n
    | float x => cases written; exact Double.format_ne_nil x
    | text s => cases written; exact List.cons_ne_nil _ _
    | bytes b =>
      rcases Option.map_eq_some_iff.mp written with ⟨text, _, rfl⟩
      exact List.cons_ne_nil _ _
    | list items | tuple items | set items =>
      rcases Option.map_eq_some_iff.mp written with ⟨texts, _, rfl⟩
      exact List.cons_ne_nil _ _
    | mapping entries =>
      rcases Option.map_eq_some_iff.mp written with ⟨texts, _, rfl⟩
      exact List.cons_ne_nil _ _
    | record name full fields extras =>
      unfold compact at written
      split at written
      · cases written
        exact List.cons_ne_nil _ _
      · cases written
    | unencodable t => cases written
    | moment m => cases written
    | foreign name => cases written

end Json

namespace Utf8

/-- Every character has at least one byte. -/
theorem encodeChar_ne_nil (c : Char) : encodeChar c ≠ [] := by
  unfold encodeChar
  dsimp only
  split
  · exact List.cons_ne_nil _ _
  · split
    · exact List.cons_ne_nil _ _
    · split <;> exact List.cons_ne_nil _ _

end Utf8

namespace Payload

/-- A payload has at least one byte. -/
theorem encode_ne_nil (value : Value) (raw : Bytes) (encoded : encode value = .ok raw) :
    raw ≠ [] := by
  unfold encode at encoded
  cases written : Json.write value with
  | none =>
    rw [written] at encoded
    cases encoded
  | some bytes =>
    rw [written] at encoded
    cases encoded
    rcases Option.map_eq_some_iff.mp written with ⟨chars, compact, rfl⟩
    cases chars with
    | nil => exact absurd rfl (Json.compact_ne_nil _ _ _ compact)
    | cons c rest =>
      intro empty
      rw [Utf8.encodeChars, List.flatMap_cons, List.append_eq_nil_iff] at empty
      exact Utf8.encodeChar_ne_nil c empty.1

end Payload
end PolicyHost
