import Mathlib.Tactic.SplitIfs
import PolicyHost.Json.Data
import PolicyHost.Proofs.Unicode

namespace PolicyHost
namespace Json
namespace Data

/-!
# Documents and the room for them

A document is what its bytes denote to a reader with room enough.  More room
changes nothing for a reader that did not run out of it, and as many places as
a text has tokens are always enough.
-/

/-! ## More room -/

section More

variable {room more : Nat}

theorem enter_more (stack : List Open) (next : Expect) (within : room ≤ more)
    (enough : enter room stack next ≠ .error .exhausted) :
    enter more stack next = enter room stack next := by
  unfold enter at enough ⊢
  split at enough
  · rename_i fits
    rw [if_pos fits, if_pos (Nat.lt_of_lt_of_le fits within)]
  · exact absurd rfl enough

theorem readValue_more (stack : List Open) (token : Token) (within : room ≤ more)
    (enough : readValue room stack token ≠ .error .exhausted) :
    readValue more stack token = readValue room stack token := by
  cases token with
  | beginArray => exact enter_more stack _ within enough
  | beginObject => exact enter_more stack _ within enough
  | _ => rfl

theorem readToken_firstElement (room : Nat) (stack : List Open) {token : Token}
    (goesOn : token ≠ .endArray) :
    readToken room (.firstElement stack) token = readValue room (.array [] :: stack) token := by
  cases token with
  | endArray => exact absurd rfl goesOn
  | _ => rfl

theorem readToken_more (expect : Expect) (token : Token) (within : room ≤ more)
    (enough : readToken room expect token ≠ .error .exhausted) :
    readToken more expect token = readToken room expect token := by
  cases expect with
  | value stack => exact readValue_more stack token within enough
  | firstElement stack =>
    by_cases ends : token = .endArray
    · subst ends
      rfl
    · rw [readToken_firstElement _ stack ends] at enough ⊢
      rw [readToken_firstElement _ stack ends]
      exact readValue_more _ token within enough
  | after stack complete =>
    cases stack with
    | nil => cases token <;> rfl
    | cons top stack => cases top <;> cases token <;> rfl
  | _ => cases token <;> rfl

/-- At the end of a text a value is complete or missing. -/
theorem readTokens_nil (room : Nat) (expect : Expect) :
    readTokens room expect [] =
      match expect with
      | .after [] complete => .ok complete
      | _ => .error .malformed := by
  cases expect with
  | after stack complete => cases stack <;> rfl
  | _ => rfl

theorem readTokens_more (expect : Expect) (tokens : List Token) (within : room ≤ more)
    (enough : readTokens room expect tokens ≠ .error .exhausted) :
    readTokens more expect tokens = readTokens room expect tokens := by
  induction tokens generalizing expect with
  | nil => rw [readTokens_nil, readTokens_nil]
  | cons token rest inductionHypothesis =>
    rw [readTokens] at enough ⊢
    rw [readTokens]
    have kept : readToken more expect token = readToken room expect token := by
      apply readToken_more expect token within
      intro spent
      rw [spent] at enough
      exact enough rfl
    rw [kept]
    cases read : readToken room expect token with
    | error flaw => rfl
    | ok next =>
      rw [read] at enough
      exact inductionHypothesis next enough

/-- More room changes nothing for a text that was read without running out of it. -/
theorem readPoints_more (points : List Nat) (within : room ≤ more)
    (enough : readPoints room points ≠ .error .exhausted) :
    readPoints more points = readPoints room points :=
  readTokens_more _ _ within enough

end More

/-! ## Enough room -/

/-- The containers that are open, the one that was begun last included. -/
def Expect.height : Expect → Nat
  | .value stack | .after stack _ => stack.length
  | .firstElement stack | .name stack _ | .firstName stack | .colon stack _ _ => stack.length + 1

/-- A token opens one container at most, and none that there is room for is refused. -/
def Grows (room height : Nat) : Except Flaw Expect → Prop
  | .ok next => next.height ≤ height + 1
  | .error flaw => flaw = .exhausted → room ≤ height

section Enough

variable {room : Nat}

theorem enter_grows (stack : List Open) (next : Expect) (height : next.height = stack.length + 1) :
    Grows room stack.length (enter room stack next) := by
  unfold enter
  split
  · exact Nat.le_of_eq height
  · rename_i full
    exact fun _ => Nat.le_of_not_lt full

theorem integer_spares (negative : Bool) (digits : List Char) :
    integer negative digits ≠ .error .exhausted := by
  unfold integer
  split <;> exact nofun

theorem unsigned_spares (negative : Bool) (chars : List Char) :
    unsigned negative chars ≠ .error .exhausted := by
  unfold unsigned
  split
  · exact nofun
  · rename_i whole rest _
    have spared := integer_spares negative whole
    have spoiled : (integer negative whole).bind (fun _ => .error .malformed) ≠
        (.error .exhausted : Except Flaw Value) := by
      cases made : integer negative whole with
      | ok n => exact nofun
      | error flaw => exact fun same => spared (made.trans (congrArg _ (Except.error.inj same)))
    have read : (integer negative whole).map Value.int ≠ .error .exhausted := by
      cases made : integer negative whole with
      | ok n => exact nofun
      | error flaw => exact fun same => spared (made.trans (congrArg _ (Except.error.inj same)))
    dsimp only
    split_ifs
    · exact nofun
    · split
      · exact read
      · split
        · exact spoiled
        · split <;> exact nofun
      · split
        · exact spoiled
        · exact nofun

theorem bareValue_spares (word : List Char) : bareValue word ≠ .error .exhausted := by
  unfold bareValue
  split_ifs
  iterate 6 exact nofun
  split <;> exact unsigned_spares _ _

theorem readValue_grows (stack : List Open) (token : Token) :
    Grows room stack.length (readValue room stack token) := by
  cases token with
  | beginArray => exact enter_grows stack _ rfl
  | beginObject => exact enter_grows stack _ rfl
  | text t => exact Nat.le_succ _
  | bare word =>
    dsimp only [readValue]
    cases read : bareValue word with
    | ok v => exact Nat.le_succ _
    | error flaw =>
      rintro rfl
      exact absurd read (bareValue_spares word)
  | _ => exact fun spent => nomatch spent

theorem readToken_grows (expect : Expect) (token : Token) :
    Grows room expect.height (readToken room expect token) := by
  cases expect with
  | value stack => exact readValue_grows stack token
  | firstElement stack =>
    by_cases ends : token = .endArray
    · subst ends
      exact Nat.le_succ_of_le (Nat.le_succ _)
    · rw [readToken_firstElement _ stack ends]
      exact readValue_grows _ token
  | after stack complete =>
    cases stack with
    | nil => cases token <;> simp [readToken, Grows, Expect.height]
    | cons top stack =>
      cases top <;> cases token <;> simp [readToken, Grows, Expect.height, Nat.le_add_right_of_le]
  | _ => cases token <;> simp [readToken, Grows, Expect.height, Nat.le_add_right_of_le]

theorem readTokens_spares (expect : Expect) (tokens : List Token)
    (enough : expect.height + tokens.length ≤ room) :
    readTokens room expect tokens ≠ .error .exhausted := by
  induction tokens generalizing expect with
  | nil =>
    rw [readTokens_nil]
    split <;> exact nofun
  | cons token rest inductionHypothesis =>
    rw [List.length_cons] at enough
    have grows : Grows room expect.height (readToken room expect token) :=
      readToken_grows expect token
    rw [readTokens]
    cases read : readToken room expect token with
    | error flaw =>
      rw [read] at grows
      rintro same
      cases same
      have := grows rfl
      omega
    | ok next =>
      rw [read] at grows
      have : next.height ≤ expect.height + 1 := grows
      exact inductionHypothesis next (by omega)

end Enough

theorem exists_room (points : List Nat) : ∃ room, readPoints room points ≠ .error .exhausted :=
  ⟨_, readTokens_spares (.value []) (scanFrom .between points) (Nat.le_of_eq (Nat.zero_add _))⟩

/-! ## Denotation -/

/-- The value that code points mean to a reader with room enough. -/
def Means (points : List Nat) (v : Value) : Prop :=
  ∃ room, readPoints room points = .ok v

theorem readPoints_ok (room : Nat) (points : List Nat) (v : Value) :
    readPoints room points = .ok v ↔
      Means points v ∧ readPoints room points ≠ .error .exhausted := by
  constructor
  · exact fun made => ⟨⟨room, made⟩, by rw [made]; nofun⟩
  · rintro ⟨⟨enough, made⟩, fits⟩
    obtain within | within := Nat.le_total room enough
    · rw [← readPoints_more points within fits, made]
    · rw [readPoints_more points within (by rw [made]; nofun), made]

theorem Means.unique {points : List Nat} {v w : Value} (one : Means points v)
    (two : Means points w) : v = w := by
  obtain ⟨room, enough⟩ := exists_room points
  have first := (readPoints_ok room points v).mpr ⟨one, enough⟩
  have second := (readPoints_ok room points w).mpr ⟨two, enough⟩
  exact Except.ok.inj (first.symm.trans second)

/-- The value that the bytes of a data file mean. -/
def Denotes (bytes : Bytes) (v : Value) : Prop :=
  ∃ points, pointsOf bytes = some points ∧ Means points v

/-- A reader runs out of room for the containers that bytes open. -/
def Exhausts (room : Nat) (bytes : Bytes) : Prop :=
  read room bytes = .error .exhausted

theorem read_ok (room : Nat) (bytes : Bytes) (v : Value) :
    read room bytes = .ok v ↔ Denotes bytes v ∧ ¬ Exhausts room bytes := by
  unfold Exhausts Denotes read
  cases pointsOf bytes with
  | none => simp
  | some points => simp [readPoints_ok]

theorem Denotes.unique {bytes : Bytes} {v w : Value} (one : Denotes bytes v)
    (two : Denotes bytes w) : v = w := by
  obtain ⟨points, there, first⟩ := one
  obtain ⟨others, same, second⟩ := two
  cases there.symm.trans same
  exact first.unique second

/-- Bytes that are refused where there is room denote nothing. -/
theorem read_error (room : Nat) (bytes : Bytes) :
    (∃ flaw, flaw ≠ .exhausted ∧ read room bytes = .error flaw) ↔
      (∀ v, ¬ Denotes bytes v) ∧ ¬ Exhausts room bytes := by
  constructor
  · rintro ⟨flaw, other, refused⟩
    have fits : ¬ Exhausts room bytes := fun spent =>
      other (Except.error.inj (refused.symm.trans spent))
    refine ⟨fun v denotes => ?_, fits⟩
    rw [(read_ok room bytes v).mpr ⟨denotes, fits⟩] at refused
    cases refused
  · rintro ⟨nothing, fits⟩
    cases made : read room bytes with
    | ok v => exact absurd ((read_ok room bytes v).mp made).1 (nothing v)
    | error flaw => exact ⟨flaw, fun spent => fits (by rw [Exhausts, made, spent]), rfl⟩

/-! ## Deep documents -/

/-- Lists inside each other. -/
def nestedText (depth : Nat) : String :=
  String.ofList (List.replicate depth '[' ++ List.replicate depth ']')

def nested (depth : Nat) : Bytes :=
  Utf8.encode (nestedText depth)

theorem nested_eq (depth : Nat) :
    nested depth = List.replicate depth 0x5B ++ List.replicate depth 0x5D := by
  have one : Utf8.encodeChar '[' = [0x5B] := rfl
  have other : Utf8.encodeChar ']' = [0x5D] := rfl
  simp [nested, nestedText, Utf8.encode, Utf8.encodeChars, List.flatMap_replicate, one, other]

/-- Bytes without a lead of three that may be half of a pair are plain UTF-8. -/
theorem points8_plain (piece bytes : Bytes) (plain : 0xED ∉ bytes) :
    points8 piece bytes =
      (Utf8.decode (piece.reverse ++ bytes)).map fun chars => chars.map Char.toNat := by
  induction bytes generalizing piece with
  | nil => rw [points8, List.append_nil]
  | cons b rest inductionHypothesis =>
    rw [List.mem_cons, not_or] at plain
    rw [points8, inductionHypothesis (b :: piece) plain.2, List.reverse_cons, List.append_assoc]
    · rfl
    · rintro _ _ _ rfl
      exact absurd rfl plain.1

theorem pointsOf_nested (depth : Nat) :
    pointsOf (nested depth) = some ((nestedText depth).toList.map Char.toNat) := by
  have units : detectUnits (nested depth) = (.utf8, 0) := by
    rw [nested_eq]
    match depth with
    | 0 | 1 | 2 | 3 => rfl
    | depth + 4 => rfl
  have plain : 0xED ∉ nested depth := by
    rw [nested_eq]
    simp [List.mem_replicate]
  unfold pointsOf
  rw [units]
  dsimp only
  rw [List.drop_zero, points8_plain [] _ plain]
  exact congrArg (Option.map _) (Utf8.decode_encode _)

theorem scanFrom_nested (depth : Nat) :
    scanFrom .between ((nestedText depth).toList.map Char.toNat) =
      List.replicate depth .beginArray ++ List.replicate depth .endArray := by
  have ended : ∀ closing, scanFrom .between (List.replicate closing ']'.toNat) =
      List.replicate closing .endArray := fun closing => by
    induction closing with
    | zero => rfl
    | succ closing inductionHypothesis => exact congrArg (Token.endArray :: ·) inductionHypothesis
  have begun : ∀ opening rest, scanFrom .between (List.replicate opening '['.toNat ++ rest) =
      List.replicate opening .beginArray ++ scanFrom .between rest := fun opening rest => by
    induction opening with
    | zero => rfl
    | succ opening inductionHypothesis => exact congrArg (Token.beginArray :: ·) inductionHypothesis
  rw [nestedText, String.toList_ofList, List.map_append, List.map_replicate, List.map_replicate,
    begun, ended]

def opened (depth : Nat) : List Open :=
  List.replicate depth (.array [])

theorem readToken_beginArray (room depth : Nat) :
    readToken room (.firstElement (opened depth)) .beginArray =
      if depth + 1 < room then .ok (.firstElement (opened (depth + 1))) else .error .exhausted := by
  change enter room (opened (depth + 1)) _ = _
  rw [enter, opened, List.length_replicate]
  rfl

theorem readTokens_opened (room opening depth : Nat) (rest : List Token)
    (fits : depth + opening < room) :
    readTokens room (.firstElement (opened depth)) (List.replicate opening .beginArray ++ rest) =
      readTokens room (.firstElement (opened (depth + opening))) rest := by
  induction opening generalizing depth with
  | zero => rfl
  | succ opening inductionHypothesis =>
    rw [List.replicate_succ, List.cons_append, readTokens, readToken_beginArray,
      if_pos (by omega)]
    refine (inductionHypothesis (depth + 1) (by omega)).trans ?_
    rw [Nat.add_right_comm, Nat.add_assoc]

theorem readTokens_spent (room opening depth : Nat) (rest : List Token) (begins : 0 < opening)
    (full : room ≤ depth + opening) :
    readTokens room (.firstElement (opened depth)) (List.replicate opening .beginArray ++ rest) =
      .error .exhausted := by
  induction opening generalizing depth with
  | zero => exact absurd begins (Nat.lt_irrefl 0)
  | succ opening inductionHypothesis =>
    rw [List.replicate_succ, List.cons_append, readTokens, readToken_beginArray]
    split_ifs with fits
    · exact inductionHypothesis (depth + 1) (by omega) (by omega)
    · rfl

theorem readTokens_closed (room depth : Nat) (v : Value) :
    ∃ w, readTokens room (.after (opened depth) v) (List.replicate depth .endArray) = .ok w := by
  induction depth generalizing v with
  | zero => exact ⟨v, rfl⟩
  | succ depth inductionHypothesis => exact inductionHypothesis (.list [v])

/-- Lists inside each other are a document, -/
theorem denotes_nested (depth : Nat) : ∃ v, Denotes (nested (depth + 1)) v := by
  obtain ⟨v, closed⟩ := readTokens_closed (depth + 1) depth (.list [])
  refine ⟨v, _, pointsOf_nested (depth + 1), depth + 1, ?_⟩
  have begun := readTokens_opened (depth + 1) depth 0 (List.replicate (depth + 1) .endArray)
    (by omega)
  rw [Nat.zero_add] at begun
  rw [readPoints, scanFrom_nested]
  exact begun.trans closed

/-- for which a reader has too little room if it has less than one place for each. -/
theorem exhausts_nested (room : Nat) : Exhausts room (nested (room + 1)) := by
  rw [Exhausts, read, pointsOf_nested]
  dsimp only
  rw [readPoints, scanFrom_nested]
  cases room with
  | zero => rfl
  | succ room => exact readTokens_spent (room + 1) (room + 1) 0 _ (by omega) (by omega)

end Data
end Json
end PolicyHost
