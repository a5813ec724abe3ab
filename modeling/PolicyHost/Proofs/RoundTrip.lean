import Mathlib.Algebra.Group.Int.Defs
import Mathlib.Data.List.TakeWhile
import PolicyHost.Proofs.Publication
import PolicyHost.Proofs.Results

namespace PolicyHost

/-!
# Values that come back from their texts

The text of a value is read as that value again, if it is made of what JSON has:
null, truth values, integers, texts, lists, and mappings whose keys are distinct
texts.  There are two limits.  The reader has a stack for so many containers that
hold something, and it takes integers of so many digits and no longer ones; the
writer goes deeper, and writes integers of any length.
-/

namespace Json

/-! ## Integers -/

/-- The digits of a number are read as that number. -/
theorem ofDigits_toDigits (n : Nat) : Characters.ofDigits 10 (Nat.toDigits 10 n) = n := by
  have digits : ∀ c ∈ Nat.toDigits 10 n, c.isDigit = true :=
    fun c member => Nat.isDigit_of_mem_toDigits (by decide) (by decide) member
  have back : Nat.ofDigitChars 10 (Nat.toDigits 10 n) 0 = n :=
    Nat.ofDigitChars_toDigits (by decide) (by decide)
  rw [Nat.ofDigitChars_eq_foldl] at back
  refine Eq.trans ?_ back
  unfold Characters.ofDigits
  generalize 0 = start
  revert digits
  induction Nat.toDigits 10 n generalizing start with
  | nil => exact fun _ => rfl
  | cons c rest inductionHypothesis =>
    intro digits
    have digit : Characters.digit? c = some (c.toNat - '0'.toNat) :=
      if_pos (digits c (List.mem_cons_self ..))
    rw [List.foldl_cons, List.foldl_cons, digit, Nat.mul_comm 10 start]
    exact inductionHypothesis _ fun d member => digits d (List.mem_cons_of_mem _ member)

/-- No number but zero begins with a zero. -/
theorem head_toDigits (n : Nat) (positive : 0 < n) : (Nat.toDigits 10 n).head? ≠ some '0' := by
  induction n using Nat.strongRecOn with
  | ind n inductionHypothesis =>
    by_cases single : n < 10
    · rw [Nat.toDigits_of_lt_base single]
      have nonzero : ∀ d < 10, 0 < d → [Nat.digitChar d].head? ≠ some '0' := by decide
      exact nonzero n single positive
    · rw [Nat.toDigits_eq_if (by decide), if_neg single,
        List.head?_append_of_ne_nil _ Nat.toDigits_ne_nil]
      exact inductionHypothesis (n / 10) (by omega) (by omega)

theorem digits_toDigits (n : Nat) : digits? (Nat.toDigits 10 n) = some (Nat.toDigits 10 n, []) := by
  have digits : ∀ c ∈ Nat.toDigits 10 n, c.isDigit = true :=
    fun c member => Nat.isDigit_of_mem_toDigits (by decide) (by decide) member
  have taken : (Nat.toDigits 10 n).takeWhile Char.isDigit = Nat.toDigits 10 n :=
    List.takeWhile_eq_self_iff.mpr digits
  have dropped : (Nat.toDigits 10 n).dropWhile Char.isDigit = [] :=
    List.dropWhile_eq_nil_iff.mpr digits
  unfold digits?
  rw [taken, dropped]
  cases some_ : Nat.toDigits 10 n with
  | nil => exact absurd some_ Nat.toDigits_ne_nil
  | cons c rest => rfl

/-- A number is read, unless it is too long. -/
theorem unsigned_toDigits (negative : Bool) (n : Nat) :
    unsigned? negative (Nat.toDigits 10 n) =
      if maxWhole < (Nat.toDigits 10 n).length + (if negative then 1 else 0) then none
      else some (.int (if negative then -n else n)) := by
  have led : ((Nat.toDigits 10 n).head? == some '0' && (Nat.toDigits 10 n).length != 1) = false := by
    obtain rfl | positive := Nat.eq_zero_or_pos n
    · rfl
    · simp [head_toDigits n positive]
  unfold unsigned?
  rw [digits_toDigits]
  dsimp only
  rw [led, ofDigits_toDigits]
  rfl

/-- What begins with a digit is a number, or nothing. -/
theorem bareDocument_digit {c : Char} (rest : List Char) (digit : c.isDigit = true) :
    bareDocument? (c :: rest) = unsigned? false (c :: rest) ∧
      bareDocument? ('-' :: c :: rest) = unsigned? true (c :: rest) := by
  have other : ∀ d : Char, d.isDigit = false → c ≠ d := by
    intro d plain same
    rw [same, plain] at digit
    cases digit
  constructor
  · have words : c :: rest ≠ "null".toList ∧ c :: rest ≠ "true".toList ∧
        c :: rest ≠ "false".toList ∧ c :: rest ≠ "NaN".toList ∧ c :: rest ≠ "Infinity".toList ∧
        c :: rest ≠ "-Infinity".toList := by
      simp [other 'n' rfl, other 't' rfl, other 'f' rfl, other 'N' rfl, other 'I' rfl,
        other '-' rfl]
    obtain ⟨null, true_, false_, nan, infinity, lowest⟩ := words
    unfold bareDocument?
    rw [if_neg null, if_neg true_, if_neg false_, if_neg nan, if_neg infinity, if_neg lowest]
    split
    · rename_i signed
      exact absurd (List.cons.inj signed).1 (other '-' rfl)
    · rfl
  · have words : '-' :: c :: rest ≠ "null".toList ∧ '-' :: c :: rest ≠ "true".toList ∧
        '-' :: c :: rest ≠ "false".toList ∧ '-' :: c :: rest ≠ "NaN".toList ∧
        '-' :: c :: rest ≠ "Infinity".toList ∧ '-' :: c :: rest ≠ "-Infinity".toList := by
      simp [other 'I' rfl]
    obtain ⟨null, true_, false_, nan, infinity, lowest⟩ := words
    unfold bareDocument?
    rw [if_neg null, if_neg true_, if_neg false_, if_neg nan, if_neg infinity, if_neg lowest]
    rfl

theorem intChars_ofNat (m : Nat) : intChars (.ofNat m) = Nat.toDigits 10 m := by
  simp [intChars, Int.repr, Nat.repr]

theorem intChars_negSucc (m : Nat) : intChars (.negSucc m) = '-' :: Nat.toDigits 10 (m + 1) := by
  simp [intChars, Int.repr, Nat.repr]

/-- The word of an integer is read as that integer, unless it is too long. -/
theorem bareDocument_intChars (n : Int) :
    bareDocument? (intChars n) =
      if maxWhole < (intChars n).length then none else some (.int n) := by
  have split : ∀ m : Nat, ∃ c rest, Nat.toDigits 10 m = c :: rest ∧ c.isDigit = true := by
    intro m
    cases digits : Nat.toDigits 10 m with
    | nil => exact absurd digits Nat.toDigits_ne_nil
    | cons c rest =>
      have member : c ∈ Nat.toDigits 10 m := digits ▸ List.mem_cons_self ..
      exact ⟨c, rest, rfl, Nat.isDigit_of_mem_toDigits (by decide) (by decide) member⟩
  cases n with
  | ofNat m =>
    obtain ⟨c, rest, digits, digit⟩ := split m
    rw [intChars_ofNat, digits, (bareDocument_digit rest digit).1, ← digits, unsigned_toDigits]
    simp
  | negSucc m =>
    obtain ⟨c, rest, digits, digit⟩ := split (m + 1)
    rw [intChars_negSucc, digits, (bareDocument_digit rest digit).2, ← digits, unsigned_toDigits]
    simp [Int.negSucc_eq]

/-! ## Words -/

theorem begin_word (c : Char) (inside : isWordChar c = true) :
    begin? c = some (.bare [c], []) := by
  have solid : isGap c = false := by
    rw [← Bool.not_eq_true]
    intro gap
    simp only [isGap, Bool.or_eq_true, beq_iff_eq] at gap
    obtain ((rfl | rfl) | rfl) | rfl := gap <;> cases inside
  simp [begin?, solid, inside]

theorem scan_word {word : List Char} (inside : ∀ c ∈ word, isWordChar c = true)
    (some_ : word ≠ []) : scan word = some [.bare word] := by
  have rest : ∀ (read others : List Char), (∀ c ∈ others, isWordChar c = true) →
      scanFrom (.bare read) [] others = some [.bare (read.reverse ++ others)] := by
    intro read others inside
    induction others generalizing read with
    | nil => simp [scanFrom]
    | cons c others inductionHypothesis =>
      have first := inside c (List.mem_cons_self ..)
      have more := inductionHypothesis (c :: read) fun d member =>
        inside d (List.mem_cons_of_mem _ member)
      simpa [scanFrom, step, first] using more
  cases word with
  | nil => exact absurd rfl some_
  | cons c others =>
    have first := begin_word c (inside c (List.mem_cons_self ..))
    have more := rest [c] others fun d member => inside d (List.mem_cons_of_mem _ member)
    simpa [scan, scanFrom, step, first] using more

theorem says_word {word : List Char} {d : Document} (inside : ∀ c ∈ word, isWordChar c = true)
    (some_ : word ≠ []) (means : bareDocument? word = some d) : Says word d := by
  refine says_iff.mpr ⟨[.bare word], scan_word inside some_, ?_⟩
  simp [readTokens, readToken, readValue, means]

theorem intChars_word (n : Int) : ∀ c ∈ intChars n, isWordChar c = true := by
  have digits : ∀ (m : Nat) (c : Char), c ∈ Nat.toDigits 10 m → isWordChar c = true := by
    intro m c member
    have digit : c.isDigit = true := Nat.isDigit_of_mem_toDigits (by decide) (by decide) member
    simp [isWordChar, Char.isAlphanum, digit]
  intro c member
  cases n with
  | ofNat m =>
    rw [intChars_ofNat] at member
    exact digits m c member
  | negSucc m =>
    rw [intChars_negSucc, List.mem_cons] at member
    obtain rfl | member := member
    · rfl
    · exact digits (m + 1) c member

/-- A power of ten is longer than its exponent says. -/
theorem length_intChars_pow (exponent : Nat) (positive : 0 < exponent) :
    exponent < (intChars ((10 : Int) ^ exponent)).length := by
  have natural : (10 : Int) ^ exponent = .ofNat (10 ^ exponent) := (Int.natCast_pow 10 exponent).symm
  rw [natural, intChars_ofNat, ← Nat.not_le, Nat.length_toDigits_le_iff (by decide) positive]
  exact Nat.lt_irrefl _

theorem says_int {n : Int} (short : (intChars n).length ≤ maxWhole) :
    Says (intChars n) (.int n) := by
  apply says_word (intChars_word n) (intChars_ne_nil n)
  rw [bareDocument_intChars, if_neg (Nat.not_lt.mpr short)]

/-- An integer that is too long means nothing to the reader. -/
theorem holdsUnread_int {n : Int} (long : maxWhole < (intChars n).length) :
    HoldsUnread (intChars n) := by
  refine ⟨_, intChars n, scan_word (intChars_word n) (intChars_ne_nil n),
    List.mem_singleton_self _, ?_⟩
  rw [bareDocument_intChars, if_pos long]

theorem says_bool (b : Bool) : Says (boolChars b) (.bool b) := by
  cases b <;> rfl

theorem says_text (s : String) : Says (quoted s.toList) (.text s) := by
  refine says_iff.mpr ⟨[.text s], ?_, rfl⟩
  have whole := scan_quoted s.toList []
  rw [List.append_nil, String.ofList_toList] at whole
  exact whole

end Json

/-! ## Values -/

namespace Document

theorem putMember_new {α : Type} (stored : List (String × α)) (name : String) (value : α)
    (fresh : name ∉ stored.map (·.1)) : putMember stored name value = stored ++ [(name, value)] := by
  induction stored with
  | nil => rfl
  | cons m rest inductionHypothesis =>
    rw [List.map_cons, List.mem_cons, not_or] at fresh
    obtain ⟨other, later⟩ := fresh
    have apart : (m.1 == name) = false := beq_eq_false_iff_ne.mpr (Ne.symm other)
    rw [putMember, if_neg (by simp [apart]), inductionHypothesis later]
    rfl

theorem settle_of_nodup {α : Type} (members : List (String × α))
    (distinct : (members.map (·.1)).Nodup) : settle members = members := by
  have stored : ∀ first second : List (String × α), ((first ++ second).map (·.1)).Nodup →
      second.foldl (fun stored m => putMember stored m.1 m.2) first = first ++ second := by
    intro first second distinct
    induction second generalizing first with
    | nil => simp
    | cons m rest inductionHypothesis =>
      have fresh : m.1 ∉ first.map (·.1) := by
        intro present
        rw [List.map_append, List.map_cons] at distinct
        exact (List.nodup_append.mp distinct).2.2 _ present _ (List.mem_cons_self ..) rfl
      have moved : first ++ m :: rest = (first ++ [m]) ++ rest := by simp
      rw [List.foldl_cons, putMember_new first m.1 m.2 fresh]
      rw [moved] at distinct ⊢
      exact inductionHypothesis (first ++ [m]) distinct
  exact stored [] members distinct

end Document

namespace Value

/-- A value that is made of what JSON has, with at most so many containers in each
other.  A container without anything in it does not count. -/
inductive Plain : Nat → Value → Prop
  | null (depth : Nat) : Plain depth .null
  | bool (depth : Nat) (b : Bool) : Plain depth (.bool b)
  | int (depth : Nat) (n : Int) (short : (Json.intChars n).length ≤ Json.maxWhole) :
    Plain depth (.int n)
  | text (depth : Nat) (s : String) : Plain depth (.text s)
  | emptyList (depth : Nat) : Plain depth (.list [])
  | emptyObject (depth : Nat) : Plain depth (object [])
  | list (depth : Nat) (items : List Value) (inner : ∀ v ∈ items, Plain depth v) :
    Plain (depth + 1) (.list items)
  | object (depth : Nat) (fields : List (String × Value)) (distinct : (fields.map (·.1)).Nodup)
    (inner : ∀ f ∈ fields, Plain depth f.2) : Plain (depth + 1) (object fields)

/-- The text of a value says a document that has this value. -/
def ReadsBack (levels depth : Nat) (v : Value) : Prop :=
  ∃ chars d, Json.compact levels v = some chars ∧ Json.Says chars d ∧ d.value = v ∧ d.depth ≤ depth

theorem items_readBack {levels depth : Nat} (items : List Value)
    (each : ∀ v ∈ items, ReadsBack levels depth v) :
    ∃ texts docs, Json.compactItems levels items = some texts ∧ List.Forall₂ Json.Says texts docs ∧
      Document.values docs = items ∧ Document.itemsDepth docs ≤ depth + 1 := by
  induction items with
  | nil => exact ⟨[], [], rfl, .nil, rfl, Nat.zero_le _⟩
  | cons v rest inductionHypothesis =>
    obtain ⟨chars, d, written, said, value, deep⟩ := each v (List.mem_cons_self ..)
    obtain ⟨texts, docs, writtenAll, saidAll, values, deepAll⟩ :=
      inductionHypothesis fun w member => each w (List.mem_cons_of_mem _ member)
    refine ⟨chars :: texts, d :: docs, ?_, .cons said saidAll, ?_, ?_⟩
    · simp [Json.compactItems, written, writtenAll]
    · simp [Document.values, value, values]
    · simp only [Document.itemsDepth]
      omega

theorem fields_readBack {levels depth : Nat} (fields : List (String × Value))
    (each : ∀ f ∈ fields, ReadsBack levels depth f.2) :
    ∃ texts members, Json.compactEntries levels (fields.map fun f => (.text f.1, f.2)) = some texts ∧
      List.Forall₂ Json.SaysMember texts members ∧ Document.memberValues members = fields ∧
      Document.membersDepth members ≤ depth + 1 := by
  induction fields with
  | nil => exact ⟨[], [], rfl, .nil, rfl, Nat.zero_le _⟩
  | cons f rest inductionHypothesis =>
    obtain ⟨chars, d, written, said, value, deep⟩ := each f (List.mem_cons_self ..)
    obtain ⟨texts, members, writtenAll, saidAll, values, deepAll⟩ :=
      inductionHypothesis fun g member => each g (List.mem_cons_of_mem _ member)
    refine ⟨(Json.quoted f.1.toList ++ ':' :: chars) :: texts, (f.1, d) :: members, ?_,
      .cons ⟨chars, rfl, said⟩ saidAll, ?_, ?_⟩
    · simp [Json.compactEntries, Json.keyChars, written, writtenAll]
    · simp [Document.memberValues, value, values]
    · simp only [Document.membersDepth]
      omega

theorem Plain.readsBack {depth levels : Nat} {v : Value} (plain : Plain depth v)
    (room : depth < levels) : ReadsBack levels depth v := by
  induction plain generalizing levels with
  | null depth =>
    obtain ⟨more, rfl⟩ := Nat.exists_eq_add_of_lt room
    exact ⟨_, .null, rfl, rfl, rfl, Nat.zero_le _⟩
  | bool depth b =>
    obtain ⟨more, rfl⟩ := Nat.exists_eq_add_of_lt room
    exact ⟨_, .bool b, rfl, Json.says_bool b, rfl, Nat.zero_le _⟩
  | int depth n short =>
    obtain ⟨more, rfl⟩ := Nat.exists_eq_add_of_lt room
    exact ⟨_, .int n, rfl, Json.says_int short, rfl, Nat.zero_le _⟩
  | text depth s =>
    obtain ⟨more, rfl⟩ := Nat.exists_eq_add_of_lt room
    exact ⟨_, .text s, rfl, Json.says_text s, rfl, Nat.zero_le _⟩
  | emptyList depth =>
    obtain ⟨more, rfl⟩ := Nat.exists_eq_add_of_lt room
    exact ⟨_, .array [], rfl, Json.says_array .nil, rfl, Nat.zero_le _⟩
  | emptyObject depth =>
    obtain ⟨more, rfl⟩ := Nat.exists_eq_add_of_lt room
    exact ⟨_, .object [], rfl, Json.says_object .nil, rfl, Nat.zero_le _⟩
  -- One level is used up by the container, and the elements get by with the rest.
  | list depth items inner inductionHypothesis =>
    obtain ⟨levels, rfl⟩ := Nat.exists_eq_succ_of_ne_zero (Nat.ne_zero_of_lt room)
    obtain ⟨texts, docs, written, said, values, deep⟩ := items_readBack items
      fun v member => inductionHypothesis v member (Nat.lt_of_succ_lt_succ room)
    refine ⟨_, .array docs, ?_, Json.says_array said, ?_, ?_⟩
    · simp [Json.compact, written]
    · simp [Document.value, values]
    · simpa [Document.depth] using deep
  | object depth fields distinct inner inductionHypothesis =>
    obtain ⟨levels, rfl⟩ := Nat.exists_eq_succ_of_ne_zero (Nat.ne_zero_of_lt room)
    obtain ⟨texts, members, written, said, values, deep⟩ := fields_readBack fields
      fun f member => inductionHypothesis f member (Nat.lt_of_succ_lt_succ room)
    refine ⟨_, .object members, ?_, Json.says_object said, ?_, ?_⟩
    · simp [Value.object, Json.compact, written]
    · simp [Document.value, values, Document.settle_of_nodup fields distinct]
    · simpa [Document.depth] using deep

def nested : Nat → Value → Value
  | 0, v => v
  | levels + 1, v => .list [nested levels v]

theorem Plain.nested {depth : Nat} {v : Value} (plain : Plain depth v) (levels : Nat) :
    Plain (depth + levels) (v.nested levels) := by
  induction levels with
  | zero => exact plain
  | succ levels inductionHypothesis =>
    exact .list (depth + levels) _ (List.forall_mem_singleton.mpr inductionHypothesis)

end Value

theorem Document.depth_nested {levels : Nat} {v : Value} {d : Document}
    (same : d.value = v.nested levels) : levels ≤ d.depth := by
  induction levels generalizing d with
  | zero => exact Nat.zero_le _
  | succ levels inductionHypothesis =>
    cases d with
    | array docs =>
      have values : Document.values docs = [v.nested levels] := by
        simpa [Document.value, Value.nested] using same
      cases docs with
      | nil => cases values
      | cons d rest =>
        have inner := inductionHypothesis (List.cons.inj values).1
        simp only [Document.depth, Document.itemsDepth]
        omega
    | _ => cases same

namespace Payload

theorem encode_plain {depth : Nat} {v : Value} (plain : v.Plain depth) (room : depth ≤ 200) :
    ∃ raw d, encode v = .ok raw ∧ Json.read raw = some d ∧ d.value = v ∧ d.depth ≤ depth := by
  obtain ⟨chars, d, written, said, value, deep⟩ :=
    plain.readsBack (show depth < Json.maxLevels by unfold Json.maxLevels; omega)
  refine ⟨Utf8.encodeChars chars, d, ?_, ?_, value, deep⟩
  · simp [encode, Json.write, Json.writeChars, written]
  · rw [Json.read_of_says (Utf8.decode_encodeChars chars) said, if_pos (Nat.le_trans deep room)]

theorem lastResult_plain {v : Value} (plain : v.Plain 198) (path : String) :
    ∃ raw, encode v = .ok raw ∧ lastResult (resultSet raw) .any path = .ok v := by
  obtain ⟨raw, d, encoded, read, value, deep⟩ := encode_plain plain (by decide)
  have delivered := lastResult_resultSet .any path read deep
  have fits : Strict.check .any d = .ok ⟨d.value, .close, none⟩ := by
    simp [Strict.check, Checked.fits]
  rw [fits] at delivered
  refine ⟨raw, encoded, ?_⟩
  rw [← value]
  exact delivered

theorem lastResult_long (n : Int) (long : Json.maxWhole < (Json.intChars n).length)
    (path : String) :
    ∃ raw r, encode (.int n) = .ok raw ∧ lastResult (resultSet raw) .any path = .error r ∧
      r.kind = .marshaling := by
  have encoded : encode (.int n) = .ok (Utf8.encodeChars (Json.intChars n)) := rfl
  obtain ⟨_, _, unread⟩ := Json.unread_of_holds (Utf8.decode_encodeChars (Json.intChars n))
    (Json.holdsUnread_int long)
  obtain ⟨r, failed, kind⟩ := lastResult_unread .any path unread
  exact ⟨_, r, encoded, failed, kind⟩

end Payload
end PolicyHost
