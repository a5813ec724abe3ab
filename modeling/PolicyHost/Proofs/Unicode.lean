import PolicyHost.Text.Utf8

namespace PolicyHost
namespace Utf8

/-!
# Text and its bytes

What is written as UTF-8 is read back as the same characters, and texts that are
read one after the other are read as one.
-/

theorem decodeFrom_cons (state : Option Pending) (read : List Char) (b : UInt8) (rest : Bytes) :
    decodeFrom state read (b :: rest) =
      match react state b with
      | .scalar c => decodeFrom none (c :: read) rest
      | .more p => decodeFrom (some p) read rest
      | .malformed => none := by
  cases state with
  | none => rfl
  | some pending => rfl

/-- The bytes after a text are read like a text of their own. -/
theorem decodeFrom_append (state : Option Pending) (read out : List Char) (first second : Bytes)
    (decoded : decodeFrom state read first = some out) :
    decodeFrom state read (first ++ second) = decodeFrom none out.reverse second := by
  induction first generalizing state read with
  | nil =>
    cases state with
    | none =>
      have same : read.reverse = out := Option.some.inj decoded
      rw [← same, List.reverse_reverse]
      rfl
    | some pending => exact nomatch decoded
  | cons b rest inductionHypothesis =>
    rw [decodeFrom_cons] at decoded
    rw [List.cons_append, decodeFrom_cons]
    cases reaction : react state b with
    | scalar c =>
      simp only [reaction] at decoded ⊢
      exact inductionHypothesis none (c :: read) decoded
    | more pending =>
      simp only [reaction] at decoded ⊢
      exact inductionHypothesis (some pending) read decoded
    | malformed => simp [reaction] at decoded

/-- What has been read already comes first. -/
theorem decodeFrom_read (state : Option Pending) (read : List Char) (bytes : Bytes) :
    decodeFrom state read bytes = (decodeFrom state [] bytes).map (read.reverse ++ ·) := by
  induction bytes generalizing state read with
  | nil =>
    cases state with
    | none => simp [decodeFrom]
    | some pending => rfl
  | cons b rest inductionHypothesis =>
    rw [decodeFrom_cons, decodeFrom_cons]
    cases react state b with
    | scalar c =>
      dsimp only
      rw [inductionHypothesis none (c :: read), inductionHypothesis none [c], Option.map_map]
      congr 1
      funext out
      simp
    | more pending => exact inductionHypothesis (some pending) read
    | malformed => rfl

/-- Two texts one after the other. -/
theorem decode_append {first second : Bytes} {out : List Char} (decoded : decode first = some out) :
    decode (first ++ second) = (decode second).map (out ++ ·) := by
  unfold decode at decoded ⊢
  rw [decodeFrom_append none [] out first second decoded, decodeFrom_read, List.reverse_reverse]

theorem toNat_toUInt8 {n : Nat} (small : n < 256) : n.toUInt8.toNat = n := by
  rw [Nat.toUInt8, UInt8.toNat_ofNat', Nat.mod_eq_of_lt small]

/-- The byte that starts a character of two bytes. -/
theorem lead_two {n : Nat} (least : 2 ≤ n) (most : n < 32) :
    lead (0xC0 + n).toUInt8 = .more ⟨0, 0x80, 0xBF, n⟩ := by
  have byte : (0xC0 + n).toUInt8.toNat = 0xC0 + n := toNat_toUInt8 (by omega)
  simp only [lead, UInt8.lt_iff_toNat_lt, byte, UInt8.reduceToNat]
  rw [if_neg (by omega), if_neg (by omega), if_pos (by omega), Nat.add_sub_cancel_left]

/-- The byte that starts a character of three. -/
theorem lead_three {n : Nat} (most : n < 16) :
    lead (0xE0 + n).toUInt8 =
      .more ⟨1, if n = 0 then 0xA0 else 0x80, if n = 13 then 0x9F else 0xBF, n⟩ := by
  have byte : (0xE0 + n).toUInt8.toNat = 0xE0 + n := toNat_toUInt8 (by omega)
  have low : (0xE0 + n).toUInt8 = 0xE0 ↔ n = 0 := by
    rw [← UInt8.toNat_inj, byte]
    simp only [UInt8.reduceToNat]
    omega
  have high : (0xE0 + n).toUInt8 = 0xED ↔ n = 13 := by
    rw [← UInt8.toNat_inj, byte]
    simp only [UInt8.reduceToNat]
    omega
  simp only [lead, UInt8.lt_iff_toNat_lt, byte, UInt8.reduceToNat, low, high]
  rw [if_neg (by omega), if_neg (by omega), if_neg (by omega), if_pos (by omega),
    Nat.add_sub_cancel_left]

/-- The byte that starts a character of four. -/
theorem lead_four {n : Nat} (most : n < 5) :
    lead (0xF0 + n).toUInt8 =
      .more ⟨2, if n = 0 then 0x90 else 0x80, if n = 4 then 0x8F else 0xBF, n⟩ := by
  have byte : (0xF0 + n).toUInt8.toNat = 0xF0 + n := toNat_toUInt8 (by omega)
  have low : (0xF0 + n).toUInt8 = 0xF0 ↔ n = 0 := by
    rw [← UInt8.toNat_inj, byte]
    simp only [UInt8.reduceToNat]
    omega
  have high : (0xF0 + n).toUInt8 = 0xF4 ↔ n = 4 := by
    rw [← UInt8.toNat_inj, byte]
    simp only [UInt8.reduceToNat]
    omega
  simp only [lead, UInt8.lt_iff_toNat_lt, byte, UInt8.reduceToNat, low, high]
  rw [if_neg (by omega), if_neg (by omega), if_neg (by omega), if_neg (by omega),
    if_pos (by omega), Nat.add_sub_cancel_left]

/-- A byte in the range of the automaton adds its six bits. -/
theorem continuation_six (pending : Pending) {n : Nat} (most : n < 64)
    (low : pending.low.toNat ≤ 0x80 + n) (high : 0x80 + n ≤ pending.high.toNat) :
    continuation pending (0x80 + n).toUInt8 =
      match pending.missing with
      | 0 => .scalar (Char.ofNat (pending.value * 64 + n))
      | missing + 1 => .more ⟨missing, 0x80, 0xBF, pending.value * 64 + n⟩ := by
  have byte : (0x80 + n).toUInt8.toNat = 0x80 + n := toNat_toUInt8 (by omega)
  have inside : ((0x80 + n).toUInt8 < pending.low || pending.high < (0x80 + n).toUInt8) = false := by
    simp only [UInt8.lt_iff_toNat_lt, byte, Bool.or_eq_false_iff, decide_eq_false_iff_not]
    omega
  unfold continuation
  rw [inside, byte, Nat.add_sub_cancel_left]
  rfl

/-- One character is read back. -/
theorem decode_encodeChar (c : Char) : decode (encodeChar c) = some [c] := by
  have valid : c.toNat < 0xD800 ∨ 0xDFFF < c.toNat ∧ c.toNat < 0x110000 := c.valid
  have whole : ∀ n, n = c.toNat → Char.ofNat n = c := by
    intro n same
    rw [same, Char.ofNat_toNat]
  unfold decode encodeChar
  dsimp only
  by_cases one : c.toNat < 0x80
  · have byte : c.toNat.toUInt8.toNat = c.toNat := toNat_toUInt8 (by omega)
    have small : lead c.toNat.toUInt8 = .scalar c := by
      simp only [lead, UInt8.lt_iff_toNat_lt, byte, UInt8.reduceToNat]
      rw [if_pos one, whole _ rfl]
    rw [if_pos one]
    simp [decodeFrom, react, small]
  · by_cases two : c.toNat < 0x800
    · have first := lead_two (n := c.toNat / 64) (by omega) (by omega)
      have second := continuation_six ⟨0, 0x80, 0xBF, c.toNat / 64⟩ (n := c.toNat % 64) (by omega)
        (by simp) (by simp; omega)
      rw [if_neg one, if_pos two]
      simp only [decodeFrom, react, first, second]
      rw [whole _ (by omega)]
      rfl
    · by_cases three : c.toNat < 0x10000
      · have first := lead_three (n := c.toNat / 4096) (by omega)
        have second := continuation_six
          ⟨1, if c.toNat / 4096 = 0 then 0xA0 else 0x80,
            if c.toNat / 4096 = 13 then 0x9F else 0xBF, c.toNat / 4096⟩
          (n := c.toNat / 64 % 64) (by omega)
          (by dsimp only; split <;> simp only [UInt8.reduceToNat] <;> omega)
          (by dsimp only; split <;> simp only [UInt8.reduceToNat] <;> omega)
        have third := continuation_six
          ⟨0, 0x80, 0xBF, c.toNat / 4096 * 64 + c.toNat / 64 % 64⟩ (n := c.toNat % 64) (by omega)
          (by simp) (by simp; omega)
        rw [if_neg one, if_neg two, if_pos three]
        simp only [decodeFrom, react, first, second, third]
        rw [whole _ (by omega)]
        rfl
      · have first := lead_four (n := c.toNat / 262144) (by omega)
        have second := continuation_six
          ⟨2, if c.toNat / 262144 = 0 then 0x90 else 0x80,
            if c.toNat / 262144 = 4 then 0x8F else 0xBF, c.toNat / 262144⟩
          (n := c.toNat / 4096 % 64) (by omega)
          (by dsimp only; split <;> simp only [UInt8.reduceToNat] <;> omega)
          (by dsimp only; split <;> simp only [UInt8.reduceToNat] <;> omega)
        have third := continuation_six
          ⟨1, 0x80, 0xBF, c.toNat / 262144 * 64 + c.toNat / 4096 % 64⟩
          (n := c.toNat / 64 % 64) (by omega) (by simp) (by simp; omega)
        have fourth := continuation_six
          ⟨0, 0x80, 0xBF, (c.toNat / 262144 * 64 + c.toNat / 4096 % 64) * 64 + c.toNat / 64 % 64⟩
          (n := c.toNat % 64) (by omega) (by simp) (by simp; omega)
        rw [if_neg one, if_neg two, if_neg three]
        simp only [decodeFrom, react, first, second, third, fourth]
        rw [whole _ (by omega)]
        rfl

theorem decode_encodeChars (chars : List Char) : decode (encodeChars chars) = some chars := by
  induction chars with
  | nil => rfl
  | cons c rest inductionHypothesis =>
    have split : encodeChars (c :: rest) = encodeChar c ++ encodeChars rest := by
      unfold encodeChars
      rw [List.flatMap_cons]
    rw [split, decode_append (decode_encodeChar c), inductionHypothesis]
    rfl

theorem decode_encode (text : String) : decode (encode text) = some text.toList :=
  decode_encodeChars text.toList

end Utf8
end PolicyHost
