import Mathlib.Data.List.Forall2
import PolicyHost.Json.Write
import PolicyHost.Proofs.Nesting

namespace PolicyHost
namespace Json

/-!
# Texts put together

Between brackets, with commas between them, texts that say documents say the
array of those documents, and with names before them they say an object.
-/

/-- What a text says, whatever its depth. -/
def Says (chars : List Char) (d : Document) : Prop :=
  readChars unbounded chars = some d

theorem says_iff {chars : List Char} {d : Document} :
    Says chars d ↔ ∃ tokens, scan chars = some tokens ∧
      readTokens unbounded (.value []) tokens = some d := by
  unfold Says readChars
  cases scan chars with
  | none => simp
  | some tokens => simp

/-! ## Tokens of texts in a row -/

/-- What was cut off before comes first. -/
theorem scanFrom_tokens (state : Scan) (tokens : List Token) (chars : List Char) :
    scanFrom state tokens chars = (scanFrom state [] chars).map (tokens.reverse ++ ·) := by
  induction chars generalizing state tokens with
  | nil => cases state <;> simp [scanFrom]
  | cons c rest inductionHypothesis =>
    rw [scanFrom, scanFrom]
    cases step state c with
    | none => rfl
    | some next =>
      dsimp only
      rw [inductionHypothesis next.1 (next.2.reverse ++ tokens),
        inductionHypothesis next.1 (next.2.reverse ++ []), Option.map_map]
      congr 1
      funext others
      simp

/-- A character that is a token by itself. -/
structure Mark (c : Char) (token : Token) : Prop where
  begins : begin? c = some (.between, [token])
  wordless : isWordChar c = false

theorem mark_beginArray : Mark '[' .beginArray := ⟨rfl, rfl⟩
theorem mark_endArray : Mark ']' .endArray := ⟨rfl, rfl⟩
theorem mark_beginObject : Mark '\x7b' .beginObject := ⟨rfl, rfl⟩
theorem mark_endObject : Mark '\x7d' .endObject := ⟨rfl, rfl⟩
theorem mark_colon : Mark ':' .colon := ⟨rfl, rfl⟩
theorem mark_comma : Mark ',' .comma := ⟨rfl, rfl⟩

/-- A mark ends whatever word stands before it. -/
theorem scanFrom_mark {c : Char} {token : Token} (mark : Mark c token) {state : Scan}
    {before tokens : List Token} {chars : List Char} (rest : List Char)
    (cut : scanFrom state before chars = some tokens) :
    scanFrom state before (chars ++ c :: rest) =
      scanFrom .between (token :: tokens.reverse) rest := by
  induction chars generalizing state before with
  | nil =>
    cases state with
    | between =>
      cases cut
      simp [scanFrom, step, mark.begins]
    | bare read =>
      cases cut
      simp [scanFrom, step, mark.begins, mark.wordless]
    | text | escape | hex | afterHigh | afterHighEscape => cases cut
  | cons d others inductionHypothesis =>
    rw [List.cons_append, scanFrom]
    rw [scanFrom] at cut
    cases next : step state d with
    | none =>
      rw [next] at cut
      cases cut
    | some next' =>
      rw [next] at cut
      exact inductionHypothesis cut

/-- Texts on both sides of a mark. -/
theorem scan_mark {c : Char} {token : Token} (mark : Mark c token) {chars : List Char}
    {tokens : List Token} (rest : List Char) (cut : scan chars = some tokens) :
    scan (chars ++ c :: rest) = (scan rest).map fun others => tokens ++ token :: others := by
  unfold scan at cut ⊢
  rw [scanFrom_mark mark rest cut, scanFrom_tokens]
  congr 1
  funext others
  simp

theorem scan_mark_first {c : Char} {token : Token} (mark : Mark c token) (rest : List Char) :
    scan (c :: rest) = (scan rest).map (token :: ·) := by
  have nothing : scan [] = some [] := rfl
  exact scan_mark mark rest nothing

/-! ## Text in quotes -/

/-- The escape of a control character has two zeros and the digits of its code. -/
theorem padded_control : ∀ n < 32,
    (Characters.padded 16 4 n).toList =
        ['0', '0', Nat.digitChar (n / 16), Nat.digitChar (n % 16)] ∧
      Characters.digit? (Nat.digitChar (n / 16)) = some (n / 16) ∧
      Characters.digit? (Nat.digitChar (n % 16)) = some (n % 16) := by
  decide

/-- What stands for a character inside quotes is read as that character. -/
theorem scanFrom_escapeChar (read : List Char) (tokens : List Token) (c : Char)
    (rest : List Char) :
    scanFrom (.text read) tokens (escapeChar c ++ rest) =
      scanFrom (.text (c :: read)) tokens rest := by
  unfold escapeChar
  split
  · rfl
  · rfl
  · rfl
  · rfl
  · rfl
  · rfl
  · rfl
  · rename_i quote slash _ _ _ _ _
    split
    · rename_i control
      obtain ⟨digits, high, low⟩ := padded_control c.toNat control
      have zero : Characters.digit? '0' = some 0 := rfl
      have code : (c.toNat / 16) * 16 + c.toNat % 16 = c.toNat := Nat.div_add_mod' _ _
      have single : isHigh c.toNat = false ∧ isLow c.toNat = false := by
        simp only [isHigh, isLow, Bool.and_eq_false_iff, decide_eq_false_iff_not]
        omega
      rw [digits]
      simp [scanFrom, step, inText, inEscape, shortEscape?, zero, high, low, code, endHex, single]
    · rename_i printable
      have kept : inText read c = some (.text (c :: read), []) := by
        rw [inText, if_neg quote, if_neg slash, if_neg printable]
      simp [scanFrom, step, kept]

theorem scanFrom_text (read : List Char) (tokens : List Token) (chars rest : List Char) :
    scanFrom (.text read) tokens (chars.flatMap escapeChar ++ rest) =
      scanFrom (.text (chars.reverse ++ read)) tokens rest := by
  induction chars generalizing read with
  | nil => rfl
  | cons c others inductionHypothesis =>
    rw [List.flatMap_cons, List.append_assoc, scanFrom_escapeChar, inductionHypothesis]
    simp

/-- A text in quotes is one token. -/
theorem scan_quoted (chars rest : List Char) :
    scan (quoted chars ++ rest) = (scan rest).map (.text (String.ofList chars) :: ·) := by
  have opens : scan (quoted chars ++ rest) =
      scanFrom (.text []) [] (chars.flatMap escapeChar ++ '"' :: rest) := by
    unfold quoted scan
    rw [List.append_assoc]
    rfl
  rw [opens, scanFrom_text, List.append_nil]
  have closes : scanFrom (.text chars.reverse) [] ('"' :: rest) =
      scanFrom .between [.text (String.ofList chars)] rest := by
    simp [scanFrom, step, inText]
  rw [closes, scanFrom_tokens]
  rfl

/-! ## Documents with something open around them -/

/-- The same expectation, with containers open around it. -/
def Expect.onto (base : List Open) : Expect → Expect
  | .value stack => .value (stack ++ base)
  | .firstElement stack => .firstElement (stack ++ base)
  | .name stack done => .name (stack ++ base) done
  | .firstName stack => .firstName (stack ++ base)
  | .colon stack done key => .colon (stack ++ base) done key
  | .after stack complete => .after (stack ++ base) complete

theorem readValue_onto {base stack : List Open} {token : Token} {next : Expect}
    (reads : readValue stack token = some next) :
    readValue (stack ++ base) token = some (next.onto base) := by
  cases token with
  | beginArray | beginObject | text => cases reads; rfl
  | bare word =>
    obtain ⟨d, means, rfl⟩ := Option.map_eq_some_iff.mp reads
    simp [readValue, means, Expect.onto]
  | endArray | endObject | colon | comma => cases reads

theorem readToken_onto {base : List Open} {expect next : Expect} {token : Token}
    (reads : readToken unbounded expect token = some next) :
    readToken unbounded (expect.onto base) token = some (next.onto base) := by
  cases readToken_takes reads with
  | value reads => exact readValue_onto reads
  | element starts reads =>
    rw [Expect.onto, readToken_first _ token starts]
    exact readValue_onto reads
  | emptyArray | emptyObject | firstName | name | colon => rfl
  | nextElement | nextMember | endArray | endObject => rfl

/-- The tokens of a document are read the same way, whatever is open around it and
whatever follows. -/
theorem readTokens_onto {expect : Expect} {tokens : List Token} {d : Document}
    (base : List Open) (rest : List Token)
    (reads : readTokens unbounded expect tokens = some d) :
    readTokens unbounded (expect.onto base) (tokens ++ rest) =
      readTokens unbounded (.after base d) rest := by
  induction tokens generalizing expect with
  | nil =>
    rw [(readTokens_nil unbounded expect d).mp reads]
    rfl
  | cons token others inductionHypothesis =>
    rw [readTokens_cons] at reads
    obtain ⟨next, first, more⟩ := Option.bind_eq_some_iff.mp reads
    rw [List.cons_append, readTokens_cons, readToken_onto first, Option.bind_some]
    exact inductionHypothesis more

theorem readTokens_value {tokens : List Token} {d : Document} (stack : List Open)
    (rest : List Token) (reads : readTokens unbounded (.value []) tokens = some d) :
    readTokens unbounded (.value stack) (tokens ++ rest) =
      readTokens unbounded (.after stack d) rest :=
  readTokens_onto stack rest reads

theorem starts_of_reads {tokens : List Token} {d : Document}
    (reads : readTokens unbounded (.value []) tokens = some d) :
    ∃ token others, tokens = token :: others ∧ token ≠ .endArray := by
  cases tokens with
  | nil => exact absurd ((readTokens_nil _ _ d).mp reads) Expect.noConfusion
  | cons token others =>
    refine ⟨token, others, rfl, ?_⟩
    intro ends
    subst ends
    cases reads

theorem readTokens_first {token : Token} (stack : List Open) (others : List Token)
    (starts : token ≠ .endArray) :
    readTokens unbounded (.firstElement stack) (token :: others) =
      readTokens unbounded (.value (.array [] :: stack)) (token :: others) := by
  rw [readTokens_cons, readTokens_cons, readToken_first stack token starts]
  rfl

/-! ## Arrays and objects -/

theorem joined_cons (separator : Char) (first second : List Char) (others : List (List Char)) :
    joined separator (first :: second :: others) =
      first ++ separator :: joined separator (second :: others) := rfl

/-- The tokens of texts with commas between them are read as the elements they say. -/
theorem items_read {texts : List (List Char)} {items : List Document}
    (say : List.Forall₂ Says texts items) (some_ : texts ≠ []) :
    ∃ token others, scan (joined ',' texts) = some (token :: others) ∧
      token ≠ .endArray ∧ ∀ stack done rest,
        readTokens unbounded (.value (.array done :: stack))
            ((token :: others) ++ .endArray :: rest) =
          readTokens unbounded (.after stack (.array (done.reverse ++ items))) rest := by
  induction say with
  | nil => exact absurd rfl some_
  | @cons text d texts items said say inductionHypothesis =>
    obtain ⟨tokens, cut, reads⟩ := says_iff.mp said
    obtain ⟨token, others, rfl, starts⟩ := starts_of_reads reads
    cases say with
    | nil =>
      refine ⟨token, others, cut, starts, ?_⟩
      intro stack done rest
      rw [readTokens_value _ _ reads, readTokens_cons]
      simp [readToken]
    | @cons text' d' texts items said' say =>
      obtain ⟨token', others', cut', _, reads'⟩ := inductionHypothesis (List.cons_ne_nil _ _)
      refine ⟨token, others ++ .comma :: (token' :: others'), ?_, starts, ?_⟩
      · rw [joined_cons, scan_mark mark_comma _ cut, cut']
        rfl
      · intro stack done rest
        have apart : (token :: (others ++ .comma :: (token' :: others'))) ++ .endArray :: rest =
            (token :: others) ++ .comma :: ((token' :: others') ++ .endArray :: rest) := by
          simp
        rw [apart, readTokens_value _ _ reads, readTokens_cons]
        have next := reads' stack (d :: done) rest
        simpa [readToken] using next

theorem says_array {texts : List (List Char)} {items : List Document}
    (say : List.Forall₂ Says texts items) :
    Says ('[' :: joined ',' texts ++ [']']) (.array items) := by
  cases texts with
  | nil =>
    cases say
    rfl
  | cons text texts =>
    obtain ⟨token, others, cut, starts, reads⟩ := items_read say (List.cons_ne_nil _ _)
    refine says_iff.mpr ⟨.beginArray :: ((token :: others) ++ [.endArray]), ?_, ?_⟩
    · rw [List.cons_append, scan_mark_first mark_beginArray, scan_mark mark_endArray [] cut]
      rfl
    · have opened : readTokens unbounded (.value [])
          (.beginArray :: ((token :: others) ++ [.endArray])) =
          readTokens unbounded (.firstElement []) ((token :: others) ++ [.endArray]) := by
        rw [readTokens_cons]
        rfl
      rw [opened, List.cons_append, readTokens_first _ _ starts]
      have closed := reads [] [] []
      simpa [readTokens] using closed

/-- A text that says a member of an object. -/
def SaysMember (chars : List Char) (m : String × Document) : Prop :=
  ∃ inner, chars = quoted m.1.toList ++ ':' :: inner ∧ Says inner m.2

theorem SaysMember.tokens {chars : List Char} {m : String × Document} (member : SaysMember chars m) :
    ∃ tokens, scan chars = some (.text m.1 :: .colon :: tokens) ∧
      readTokens unbounded (.value []) tokens = some m.2 := by
  obtain ⟨inner, rfl, said⟩ := member
  obtain ⟨tokens, cut, reads⟩ := says_iff.mp said
  refine ⟨tokens, ?_, reads⟩
  rw [scan_quoted, scan_mark_first mark_colon, cut, String.ofList_toList]
  rfl

theorem members_read {texts : List (List Char)} {members : List (String × Document)}
    (say : List.Forall₂ SaysMember texts members) (some_ : texts ≠ []) :
    ∃ name others, scan (joined ',' texts) = some (.text name :: .colon :: others) ∧
      ∀ stack done rest,
        readTokens unbounded (.colon stack done name) (.colon :: (others ++ .endObject :: rest)) =
          readTokens unbounded (.after stack (.object (done.reverse ++ members))) rest := by
  induction say with
  | nil => exact absurd rfl some_
  | @cons text m texts members said say inductionHypothesis =>
    obtain ⟨tokens, cut, reads⟩ := said.tokens
    cases say with
    | nil =>
      refine ⟨m.1, tokens, cut, ?_⟩
      intro stack done rest
      rw [readTokens_cons]
      simp only [readToken, Option.bind_some]
      rw [readTokens_value _ _ reads, readTokens_cons]
      simp [readToken]
    | @cons text' m' texts members said' say =>
      obtain ⟨name', others', cut', reads'⟩ := inductionHypothesis (List.cons_ne_nil _ _)
      refine ⟨m.1, tokens ++ .comma :: (.text name' :: .colon :: others'), ?_, ?_⟩
      · rw [joined_cons, scan_mark mark_comma _ cut, cut']
        rfl
      · intro stack done rest
        have apart : tokens ++ .comma :: (.text name' :: .colon :: others') ++ .endObject :: rest =
            tokens ++ .comma :: (.text name' :: .colon :: (others' ++ .endObject :: rest)) := by
          simp
        rw [readTokens_cons]
        simp only [readToken, Option.bind_some]
        rw [apart, readTokens_value _ _ reads, readTokens_cons]
        simp only [readToken, Option.bind_some]
        rw [readTokens_cons]
        have next := reads' stack (m :: done) rest
        simpa [readToken] using next

theorem says_object {texts : List (List Char)} {members : List (String × Document)}
    (say : List.Forall₂ SaysMember texts members) :
    Says ('\x7b' :: joined ',' texts ++ ['\x7d']) (.object members) := by
  cases texts with
  | nil =>
    cases say
    rfl
  | cons text texts =>
    obtain ⟨name, others, cut, reads⟩ := members_read say (List.cons_ne_nil _ _)
    refine says_iff.mpr
      ⟨.beginObject :: ((.text name :: .colon :: others) ++ [.endObject]), ?_, ?_⟩
    · rw [List.cons_append, scan_mark_first mark_beginObject, scan_mark mark_endObject [] cut]
      rfl
    · have opened : readTokens unbounded (.value [])
          (.beginObject :: ((.text name :: .colon :: others) ++ [.endObject])) =
          readTokens unbounded (.colon [] [] name) (.colon :: (others ++ [.endObject])) := by
        rw [readTokens_cons]
        rfl
      rw [opened]
      have closed := reads [] [] []
      simpa [readTokens] using closed

end Json
end PolicyHost
