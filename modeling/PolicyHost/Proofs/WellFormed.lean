import PolicyHost.Proofs.Unicode

namespace PolicyHost
namespace Utf8

/-!
# Well-formed text

What is read as text is written as the bytes it was read from: the automaton
takes a byte only where some character has it.  With what was shown of written
text, bytes are read as a text if they are its UTF-8 form, and in no other case.
This form is the array of bytes that a string has anyway.
-/

/-- The bytes that complete a character in progress, and the character. -/
inductive Completes : Pending → Bytes → Char → Prop
  | last {pending : Pending} {b : UInt8} {c : Char} :
    continuation pending b = .scalar c → Completes pending [b] c
  | further {pending next : Pending} {b : UInt8} {tail : Bytes} {c : Char} :
    continuation pending b = .more next → Completes next tail c → Completes pending (b :: tail) c

/-- A text that begins inside a character completes it first. -/
theorem completes_of_decodeFrom {pending : Pending} {read out : List Char} {bytes : Bytes}
    (decoded : decodeFrom (some pending) read bytes = some out) :
    ∃ tail c rest, bytes = tail ++ rest ∧ Completes pending tail c ∧
      decodeFrom none (c :: read) rest = some out := by
  induction bytes generalizing pending with
  | nil => exact nomatch decoded
  | cons b rest inductionHypothesis =>
    rw [decodeFrom_cons] at decoded
    cases reaction : continuation pending b with
    | scalar c =>
      simp only [react, reaction] at decoded
      exact ⟨[b], c, rest, rfl, .last reaction, decoded⟩
    | more next =>
      simp only [react, reaction] at decoded
      obtain ⟨tail, c, later, same, completes, read_on⟩ := inductionHypothesis decoded
      refine ⟨b :: tail, c, later, ?_, .further reaction completes, read_on⟩
      rw [same, List.cons_append]
    | malformed => simp [react, reaction] at decoded

theorem eq_toUInt8 {b : UInt8} {n : Nat} (same : b.toNat = n) : b = n.toUInt8 := by
  rw [← same]
  exact UInt8.ofNat_toNat.symm

/-- A byte that is read on after another one has six bits of its own. -/
theorem six_of_continuation (pending : Pending) (b : UInt8)
    (low : 0x80 ≤ pending.low.toNat) (high : pending.high.toNat ≤ 0xBF)
    (taken : continuation pending b ≠ .malformed) :
    ∃ n, n < 64 ∧ b = (0x80 + n).toUInt8 ∧
      pending.low.toNat ≤ 0x80 + n ∧ 0x80 + n ≤ pending.high.toNat := by
  have inside : ¬ (b < pending.low || pending.high < b) = true :=
    fun outside => taken (by rw [continuation, if_pos outside])
  simp only [UInt8.lt_iff_toNat_lt, Bool.or_eq_true, decide_eq_true_eq] at inside
  exact ⟨b.toNat - 0x80, by omega, eq_toUInt8 (by omega), by omega, by omega⟩

/-- The last byte of a character. -/
theorem completes_zero {low high : UInt8} {value : Nat} {tail : Bytes} {c : Char}
    (least : 0x80 ≤ low.toNat) (most : high.toNat ≤ 0xBF)
    (completes : Completes ⟨0, low, high, value⟩ tail c) :
    ∃ n, n < 64 ∧ tail = [(0x80 + n).toUInt8] ∧ low.toNat ≤ 0x80 + n ∧ 0x80 + n ≤ high.toNat ∧
      c = Char.ofNat (value * 64 + n) := by
  have six := fun b => six_of_continuation ⟨0, low, high, value⟩ b least most
  cases completes with
  | last taken =>
    obtain ⟨n, bits, rfl, above, below⟩ := six _ (by rw [taken]; exact nofun)
    rw [continuation_six _ bits above below] at taken
    exact ⟨n, bits, rfl, above, below, (Reaction.scalar.inj taken).symm⟩
  | further taken later =>
    obtain ⟨n, bits, rfl, above, below⟩ := six _ (by rw [taken]; exact nofun)
    rw [continuation_six _ bits above below] at taken
    exact nomatch taken

/-- A byte in the middle of a character. -/
theorem completes_succ {missing : Nat} {low high : UInt8} {value : Nat} {tail : Bytes} {c : Char}
    (least : 0x80 ≤ low.toNat) (most : high.toNat ≤ 0xBF)
    (completes : Completes ⟨missing + 1, low, high, value⟩ tail c) :
    ∃ n later, n < 64 ∧ tail = (0x80 + n).toUInt8 :: later ∧
      low.toNat ≤ 0x80 + n ∧ 0x80 + n ≤ high.toNat ∧
      Completes ⟨missing, 0x80, 0xBF, value * 64 + n⟩ later c := by
  have six := fun b => six_of_continuation ⟨missing + 1, low, high, value⟩ b least most
  cases completes with
  | last taken =>
    obtain ⟨n, bits, rfl, above, below⟩ := six _ (by rw [taken]; exact nofun)
    rw [continuation_six _ bits above below] at taken
    exact nomatch taken
  | further taken later =>
    obtain ⟨n, bits, rfl, above, below⟩ := six _ (by rw [taken]; exact nofun)
    rw [continuation_six _ bits above below] at taken
    cases taken
    exact ⟨n, _, bits, rfl, above, below, later⟩

theorem toNat_ofNat_char {n : Nat} (valid : n < 0xD800 ∨ 0xDFFF < n ∧ n < 0x110000) :
    (Char.ofNat n).toNat = n := by
  have isValid : n.isValidChar := valid
  rw [Char.ofNat, dif_pos isValid]
  rfl

/-- The ways a byte begins a character of several bytes. -/
theorem lead_more {b : UInt8} {pending : Pending} (more : lead b = .more pending) :
    (∃ n, 2 ≤ n ∧ n < 32 ∧ b = (0xC0 + n).toUInt8 ∧ pending = ⟨0, 0x80, 0xBF, n⟩) ∨
    (∃ n, n < 16 ∧ b = (0xE0 + n).toUInt8 ∧
      pending = ⟨1, if n = 0 then 0xA0 else 0x80, if n = 13 then 0x9F else 0xBF, n⟩) ∨
    ∃ n, n < 5 ∧ b = (0xF0 + n).toUInt8 ∧
      pending = ⟨2, if n = 0 then 0x90 else 0x80, if n = 4 then 0x8F else 0xBF, n⟩ := by
  have ranges : (0xC2 ≤ b.toNat ∧ b.toNat < 0xE0) ∨ (0xE0 ≤ b.toNat ∧ b.toNat < 0xF0) ∨
      (0xF0 ≤ b.toNat ∧ b.toNat < 0xF5) := by
    simp only [lead, UInt8.lt_iff_toNat_lt, UInt8.reduceToNat] at more
    grind
  obtain ⟨least, most⟩ | ⟨least, most⟩ | ⟨least, most⟩ := ranges
  · have same : b = (0xC0 + (b.toNat - 0xC0)).toUInt8 := eq_toUInt8 (by omega)
    refine Or.inl ⟨b.toNat - 0xC0, by omega, by omega, same, ?_⟩
    have known := lead_two (n := b.toNat - 0xC0) (by omega) (by omega)
    rw [← same, more] at known
    exact Reaction.more.inj known
  · have same : b = (0xE0 + (b.toNat - 0xE0)).toUInt8 := eq_toUInt8 (by omega)
    refine Or.inr (Or.inl ⟨b.toNat - 0xE0, by omega, same, ?_⟩)
    have known := lead_three (n := b.toNat - 0xE0) (by omega)
    rw [← same, more] at known
    exact Reaction.more.inj known
  · have same : b = (0xF0 + (b.toNat - 0xF0)).toUInt8 := eq_toUInt8 (by omega)
    refine Or.inr (Or.inr ⟨b.toNat - 0xF0, by omega, same, ?_⟩)
    have known := lead_four (n := b.toNat - 0xF0) (by omega)
    rw [← same, more] at known
    exact Reaction.more.inj known

theorem encodeChar_two {n x : Nat} (least : 2 ≤ n) (most : n < 32) (last : x < 64) :
    encodeChar (Char.ofNat (n * 64 + x)) = [(0xC0 + n).toUInt8, (0x80 + x).toUInt8] := by
  have first : (n * 64 + x) / 64 = n := by omega
  have second : (n * 64 + x) % 64 = x := by omega
  simp only [encodeChar, toNat_ofNat_char (n := n * 64 + x) (by omega), first, second]
  rw [if_neg (by omega), if_pos (by omega)]

theorem encodeChar_three {n x y : Nat} (most : n < 16) (least : n = 0 → 0x20 ≤ x)
    (plain : n = 13 → x < 0x20) (middle : x < 64) (last : y < 64) :
    encodeChar (Char.ofNat ((n * 64 + x) * 64 + y)) =
      [(0xE0 + n).toUInt8, (0x80 + x).toUInt8, (0x80 + y).toUInt8] := by
  have first : ((n * 64 + x) * 64 + y) / 4096 = n := by omega
  have second : ((n * 64 + x) * 64 + y) / 64 % 64 = x := by omega
  have third : ((n * 64 + x) * 64 + y) % 64 = y := by omega
  simp only [encodeChar, toNat_ofNat_char (n := (n * 64 + x) * 64 + y) (by omega), first, second,
    third]
  rw [if_neg (by omega), if_neg (by omega), if_pos (by omega)]

theorem encodeChar_four {n x y z : Nat} (most : n < 5) (least : n = 0 → 0x10 ≤ x)
    (plain : n = 4 → x < 0x10) (middle : x < 64) (further : y < 64) (last : z < 64) :
    encodeChar (Char.ofNat (((n * 64 + x) * 64 + y) * 64 + z)) =
      [(0xF0 + n).toUInt8, (0x80 + x).toUInt8, (0x80 + y).toUInt8, (0x80 + z).toUInt8] := by
  have first : (((n * 64 + x) * 64 + y) * 64 + z) / 262144 = n := by omega
  have second : (((n * 64 + x) * 64 + y) * 64 + z) / 4096 % 64 = x := by omega
  have third : (((n * 64 + x) * 64 + y) * 64 + z) / 64 % 64 = y := by omega
  have fourth : (((n * 64 + x) * 64 + y) * 64 + z) % 64 = z := by omega
  simp only [encodeChar, toNat_ofNat_char (n := ((n * 64 + x) * 64 + y) * 64 + z) (by omega),
    first, second, third, fourth]
  rw [if_neg (by omega), if_neg (by omega), if_neg (by omega)]

/-- A character that was read is written with the bytes it was read from. -/
theorem encodeChar_of_completes {b : UInt8} {pending : Pending} {tail : Bytes} {c : Char}
    (more : lead b = .more pending) (completes : Completes pending tail c) :
    encodeChar c = b :: tail := by
  obtain ⟨n, least, most, rfl, rfl⟩ | ⟨n, most, rfl, rfl⟩ | ⟨n, most, rfl, rfl⟩ := lead_more more
  · obtain ⟨x, last, rfl, _, _, rfl⟩ := completes_zero (by decide) (by decide) completes
    exact encodeChar_two least most last
  · obtain ⟨x, later, middle, rfl, above, below, completes⟩ :=
      completes_succ (by split <;> decide) (by split <;> decide) completes
    obtain ⟨y, last, rfl, _, _, rfl⟩ := completes_zero (by decide) (by decide) completes
    refine encodeChar_three most (fun zero => ?_) (fun top => ?_) middle last
    · simp only [if_pos zero, UInt8.reduceToNat] at above
      omega
    · simp only [if_pos top, UInt8.reduceToNat] at below
      omega
  · obtain ⟨x, later, middle, rfl, above, below, completes⟩ :=
      completes_succ (by split <;> decide) (by split <;> decide) completes
    obtain ⟨y, later, further, rfl, _, _, completes⟩ :=
      completes_succ (by decide) (by decide) completes
    obtain ⟨z, last, rfl, _, _, rfl⟩ := completes_zero (by decide) (by decide) completes
    refine encodeChar_four most (fun zero => ?_) (fun top => ?_) middle further last
    · simp only [if_pos zero, UInt8.reduceToNat] at above
      omega
    · simp only [if_pos top, UInt8.reduceToNat] at below
      omega

theorem encodeChar_of_lead {b : UInt8} {c : Char} (one : lead b = .scalar c) :
    encodeChar c = [b] := by
  have small : b.toNat < 0x80 ∧ c = Char.ofNat b.toNat := by
    simp only [lead, UInt8.lt_iff_toNat_lt, UInt8.reduceToNat] at one
    grind
  rw [small.2]
  simp only [encodeChar, toNat_ofNat_char (n := b.toNat) (by omega)]
  rw [if_pos small.1, ← eq_toUInt8 rfl]

/-- What is read is written with the bytes it was read from. -/
theorem encodeChars_of_decode {bytes : Bytes} {chars : List Char}
    (decoded : decode bytes = some chars) : encodeChars chars = bytes := by
  induction count : bytes.length using Nat.strongRecOn generalizing bytes chars with
  | _ length inductionHypothesis =>
    subst count
    cases bytes with
    | nil =>
      cases decoded
      rfl
    | cons b rest =>
      have first : ∃ c tail later, rest = tail ++ later ∧ encodeChar c = b :: tail ∧
          decodeFrom none [c] later = some chars := by
        unfold decode at decoded
        rw [decodeFrom_cons] at decoded
        cases reaction : lead b with
        | scalar c =>
          simp only [react, reaction] at decoded
          exact ⟨c, [], rest, rfl, encodeChar_of_lead reaction, decoded⟩
        | more pending =>
          simp only [react, reaction] at decoded
          obtain ⟨tail, c, later, same, completes, read⟩ := completes_of_decodeFrom decoded
          exact ⟨c, tail, later, same, encodeChar_of_completes reaction completes, read⟩
        | malformed => simp [react, reaction] at decoded
      obtain ⟨c, tail, later, rfl, written, read⟩ := first
      rw [decodeFrom_read, Option.map_eq_some_iff] at read
      obtain ⟨others, read, rfl⟩ := read
      have shorter : later.length < (b :: (tail ++ later)).length := by
        rw [List.length_cons, List.length_append]
        omega
      have same := inductionHypothesis later.length shorter read rfl
      calc encodeChars ([c].reverse ++ others)
          = encodeChar c ++ encodeChars others := by
            simp only [encodeChars, List.reverse_singleton, List.singleton_append,
              List.flatMap_cons]
        _ = b :: (tail ++ later) := by rw [written, same, List.cons_append]

/-- Bytes are read as just the characters they are the UTF-8 form of. -/
theorem decode_eq_some {bytes : Bytes} {chars : List Char} :
    decode bytes = some chars ↔ bytes = encodeChars chars :=
  ⟨fun decoded => (encodeChars_of_decode decoded).symm, fun same => same ▸ decode_encodeChars chars⟩

/-- The UTF-8 form of a character is the one that it has in a string. -/
theorem encodeChar_eq (c : Char) : encodeChar c = String.utf8EncodeChar c := by
  have valid : c.toNat < 0xD800 ∨ 0xDFFF < c.toNat ∧ c.toNat < 0x110000 := c.valid
  have value : c.val.toNat = c.toNat := rfl
  have two : c.toNat < 0x800 → c.toNat / 64 % 32 = c.toNat / 64 := by omega
  have three : c.toNat < 0x10000 → c.toNat / 4096 % 16 = c.toNat / 4096 := by omega
  have four : c.toNat / 262144 % 8 = c.toNat / 262144 := by omega
  simp only [encodeChar, String.utf8EncodeChar, value, Nat.toUInt8, Nat.add_comm]
  grind

/-- The UTF-8 form of a text is the array of its bytes. -/
theorem toByteArray_encode (text : String) : (encode text).toByteArray = text.toByteArray := by
  have same : encodeChar = String.utf8EncodeChar := funext encodeChar_eq
  rw [encode, encodeChars, same]
  conv => rhs; rw [← String.ofList_toList (s := text), String.toByteArray_ofList]
  rfl

/-- Text is read from just the bytes of its UTF-8 form. -/
theorem decodeText_eq_some {bytes : Bytes} {text : String} :
    decodeText bytes = some text ↔ bytes.toByteArray = text.toByteArray := by
  have exact_bytes : bytes.toByteArray = (encode text).toByteArray ↔ bytes = encode text := by
    refine ⟨fun same => ?_, fun same => same ▸ rfl⟩
    rw [← List.toList_data_toByteArray (l := bytes), same, List.toList_data_toByteArray]
  rw [← toByteArray_encode, exact_bytes, decodeText, Option.map_eq_some_iff]
  constructor
  · rintro ⟨chars, decoded, rfl⟩
    rw [encode, String.toList_ofList]
    exact decode_eq_some.mp decoded
  · rintro rfl
    exact ⟨text.toList, decode_encode text, String.ofList_toList⟩

end Utf8
end PolicyHost
