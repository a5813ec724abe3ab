import PolicyHost.Json.Read
import PolicyHost.Proofs.Unicode

namespace PolicyHost

/-!
# Documents inside documents

A text that stands inside another one is read as if it stood alone; all that
the text around it takes away is room on the stack.  So a reader with a bounded
stack reads just what a reader without a bound finds to be nested no deeper.
-/

namespace Document

mutual

/-- How many containers that hold something are open at once, at most. -/
def depth : Document → Nat
  | .array items => itemsDepth items
  | .object members => membersDepth members
  | _ => 0

/-- The depth of an array with these elements. -/
def itemsDepth : List Document → Nat
  | [] => 0
  | d :: ds => max (depth d + 1) (itemsDepth ds)

def membersDepth : List (String × Document) → Nat
  | [] => 0
  | (_, d) :: ms => max (depth d + 1) (membersDepth ms)

end

theorem itemsDepth_append (first second : List Document) :
    itemsDepth (first ++ second) = max (itemsDepth first) (itemsDepth second) := by
  induction first with
  | nil => simp [itemsDepth]
  | cons d ds inductionHypothesis =>
    rw [List.cons_append, itemsDepth, itemsDepth, inductionHypothesis, Nat.max_assoc]

theorem membersDepth_append (first second : List (String × Document)) :
    membersDepth (first ++ second) = max (membersDepth first) (membersDepth second) := by
  induction first with
  | nil => simp [membersDepth]
  | cons m ms inductionHypothesis =>
    rw [List.cons_append, membersDepth, membersDepth, inductionHypothesis, Nat.max_assoc]

theorem itemsDepth_reverse (items : List Document) :
    itemsDepth items.reverse = itemsDepth items := by
  induction items with
  | nil => rfl
  | cons d ds inductionHypothesis =>
    rw [List.reverse_cons, itemsDepth_append, inductionHypothesis]
    simp [itemsDepth, Nat.max_comm]

theorem membersDepth_reverse (members : List (String × Document)) :
    membersDepth members.reverse = membersDepth members := by
  induction members with
  | nil => rfl
  | cons m ms inductionHypothesis =>
    rw [List.reverse_cons, membersDepth_append, inductionHypothesis]
    simp [membersDepth, Nat.max_comm]

end Document

namespace Json

open Document

/-! ## How far a document reaches -/

/-- The reader of documents with room for so many open containers. -/
def bounded (limit : Nat) : Dialect := ⟨some limit⟩

/-- The reader with room for all of them. -/
def unbounded : Dialect := ⟨none⟩

/-- The depth of what an open container holds so far. -/
def Open.depth : Open → Nat
  | .array done => itemsDepth done
  | .object done _ => membersDepth done

/-- The depth of the whole document, if what comes next on the stack has a depth. -/
def height : List Open → Nat → Nat
  | [], inner => inner
  | o :: rest, inner => height rest (max o.depth (inner + 1))

/-- The depth that a document has for certain. -/
def Expect.height : Expect → Nat
  | .value stack | .firstElement stack | .firstName stack => Json.height stack 0
  | .name stack done | .colon stack done _ => Json.height stack (max (membersDepth done) 1)
  | .after stack complete => Json.height stack complete.depth

theorem height_eq (stack : List Open) (inner : Nat) :
    height stack inner = max (height stack 0) (stack.length + inner) := by
  induction stack generalizing inner with
  | nil => simp [height]
  | cons o rest inductionHypothesis =>
    simp only [height, List.length_cons]
    rw [inductionHypothesis, inductionHypothesis (max o.depth (0 + 1))]
    omega

/-- The stack that a first element or member is about to leave behind. -/
def Expect.opening : Expect → Token → Option (List Open)
  | .firstElement _, .endArray => none
  | .firstElement stack, _ => some stack
  | .firstName stack, .text _ => some stack
  | _, _ => none

theorem unsigned_depth {negative : Bool} {chars : List Char} {d : Document}
    (means : unsigned? negative chars = some d) : d.depth = 0 := by
  unfold unsigned? at means
  repeat' split at means
  all_goals first
    | cases means; rfl
    | obtain ⟨e, _, rfl⟩ := Option.map_eq_some_iff.mp means; rfl
    | cases means

theorem bareDocument_depth {word : List Char} {d : Document} (means : bareDocument? word = some d) :
    d.depth = 0 := by
  unfold bareDocument? at means
  repeat' split at means
  all_goals first
    | exact unsigned_depth means
    | cases means; rfl

theorem readValue_height {stack : List Open} {token : Token} {next : Expect}
    (reads : readValue stack token = some next) : next.height = height stack 0 := by
  cases token with
  | beginArray => cases reads; rfl
  | beginObject => cases reads; rfl
  | text s => cases reads; rfl
  | bare word =>
    obtain ⟨d, means, rfl⟩ := Option.map_eq_some_iff.mp reads
    simp [Expect.height, bareDocument_depth means]
  | endArray | endObject | colon | comma => cases reads

theorem readToken_first (stack : List Open) (token : Token) (starts : token ≠ .endArray) :
    readToken unbounded (.firstElement stack) token = readValue (.array [] :: stack) token := by
  cases token with
  | endArray => exact absurd rfl starts
  | beginArray | beginObject | text | bare | endObject | colon | comma => rfl

/-- What a token can come to where it is expected, with room for every container. -/
inductive Takes : Expect → Token → Expect → Prop where
  | value {stack : List Open} {token : Token} {next : Expect}
      (reads : readValue stack token = some next) : Takes (.value stack) token next
  | element {stack : List Open} {token : Token} {next : Expect} (starts : token ≠ .endArray)
      (reads : readValue (.array [] :: stack) token = some next) :
      Takes (.firstElement stack) token next
  | emptyArray (stack : List Open) :
      Takes (.firstElement stack) .endArray (.after stack (.array []))
  | emptyObject (stack : List Open) :
      Takes (.firstName stack) .endObject (.after stack (.object []))
  | firstName (stack : List Open) (name : String) :
      Takes (.firstName stack) (.text name) (.colon stack [] name)
  | name (stack : List Open) (done : List (String × Document)) (name : String) :
      Takes (.name stack done) (.text name) (.colon stack done name)
  | colon (stack : List Open) (done : List (String × Document)) (name : String) :
      Takes (.colon stack done name) .colon (.value (.object done name :: stack))
  | nextElement (rest : List Open) (done : List Document) (complete : Document) :
      Takes (.after (.array done :: rest) complete) .comma
        (.value (.array (complete :: done) :: rest))
  | endArray (rest : List Open) (done : List Document) (complete : Document) :
      Takes (.after (.array done :: rest) complete) .endArray
        (.after rest (.array (complete :: done).reverse))
  | nextMember (rest : List Open) (done : List (String × Document)) (name : String)
      (complete : Document) :
      Takes (.after (.object done name :: rest) complete) .comma
        (.name rest ((name, complete) :: done))
  | endObject (rest : List Open) (done : List (String × Document)) (name : String)
      (complete : Document) :
      Takes (.after (.object done name :: rest) complete) .endObject
        (.after rest (.object ((name, complete) :: done).reverse))

theorem readToken_takes {expect next : Expect} {token : Token}
    (reads : readToken unbounded expect token = some next) : Takes expect token next := by
  cases expect with
  | value stack => exact .value reads
  | firstElement stack =>
    by_cases starts : token = .endArray
    · subst starts
      cases reads
      exact .emptyArray stack
    · rw [readToken_first stack token starts] at reads
      exact .element starts reads
  | firstName stack =>
    cases token with
    | endObject => cases reads; exact .emptyObject stack
    | text name => cases reads; exact .firstName stack name
    | beginArray | beginObject | bare | endArray | colon | comma => cases reads
  | name stack done =>
    cases token with
    | text name => cases reads; exact .name stack done name
    | beginArray | beginObject | bare | endArray | endObject | colon | comma => cases reads
  | colon stack done name =>
    cases token with
    | colon => cases reads; exact .colon stack done name
    | beginArray | beginObject | text | bare | endArray | endObject | comma => cases reads
  | after stack complete =>
    cases stack with
    | nil => cases reads
    | cons o rest =>
      cases o with
      | array done =>
        cases token with
        | comma => cases reads; exact .nextElement rest done complete
        | endArray => cases reads; exact .endArray rest done complete
        | beginArray | beginObject | text | bare | endObject | colon => cases reads
      | object done name =>
        cases token with
        | comma => cases reads; exact .nextMember rest done name complete
        | endObject => cases reads; exact .endObject rest done name complete
        | beginArray | beginObject | text | bare | endArray | colon => cases reads

/-- A token adds to the certain depth only if it opens a container. -/
theorem readToken_height {expect next : Expect} {token : Token}
    (reads : readToken unbounded expect token = some next) :
    next.height =
      match expect.opening token with
      | some stack => height stack 1
      | none => expect.height := by
  cases readToken_takes reads with
  | value reads => exact readValue_height reads
  | element starts reads =>
    cases token with
    | endArray => exact absurd rfl starts
    | beginArray | beginObject | text | bare | endObject | colon | comma =>
      exact readValue_height reads
  | emptyArray | emptyObject | firstName | name | colon => rfl
  | nextElement =>
    simp only [Expect.opening, Expect.height, height, itemsDepth, Open.depth]
    congr 1
    omega
  | nextMember =>
    simp only [Expect.opening, Expect.height, height, membersDepth, Open.depth]
    congr 1
    omega
  | endArray =>
    simp only [Expect.opening, Expect.height, height, Document.depth, itemsDepth_reverse,
      itemsDepth, Open.depth, Nat.max_comm]
  | endObject =>
    simp only [Expect.opening, Expect.height, height, Document.depth, membersDepth_reverse,
      membersDepth, Open.depth, Nat.max_comm]

/-- A reader with little room stops where a container would not fit. -/
theorem readToken_bounded (limit : Nat) (expect : Expect) (token : Token) :
    readToken (bounded limit) expect token =
      if ∀ stack, expect.opening token = some stack → stack.length < limit then
        readToken unbounded expect token
      else none := by
  cases expect with
  | firstElement stack =>
    cases token with
    | endArray => simp [Expect.opening, readToken]
    | beginArray | beginObject | text | bare | endObject | colon | comma =>
      simp [Expect.opening, readToken, Dialect.admits, bounded, unbounded]
  | firstName stack =>
    cases token with
    | text name => simp [Expect.opening, readToken, Dialect.admits, bounded, unbounded]
    | beginArray | beginObject | bare | endArray | endObject | colon | comma =>
      simp [Expect.opening, readToken]
  | value stack => simp [Expect.opening, readToken]
  | name stack done => cases token <;> simp [Expect.opening, readToken]
  | colon stack done name => cases token <;> simp [Expect.opening, readToken]
  | after stack complete =>
    cases stack with
    | nil => simp [Expect.opening, readToken]
    | cons o rest => cases o <;> cases token <;> simp [Expect.opening, readToken]

/-- The stack that is about to grow is all there is to the depth so far. -/
theorem height_opening {expect : Expect} {token : Token} {stack : List Open}
    (opening : expect.opening token = some stack) : expect.height = height stack 0 := by
  cases expect with
  | firstElement other =>
    cases token with
    | endArray => cases opening
    | beginArray | beginObject | text | bare | endObject | colon | comma => cases opening; rfl
  | firstName other =>
    cases token with
    | text name => cases opening; rfl
    | beginArray | beginObject | bare | endArray | endObject | colon | comma => cases opening
  | value | name | colon | after => cases opening

/-- A certain depth stays certain. -/
theorem height_le {expect next : Expect} {token : Token}
    (reads : readToken unbounded expect token = some next) : expect.height ≤ next.height := by
  rw [readToken_height reads]
  cases opening : expect.opening token with
  | none => exact Nat.le_refl _
  | some stack =>
    dsimp only
    rw [height_opening opening, height_eq stack 1]
    exact Nat.le_max_left _ _

/-- There is room for a token if and only if there is room for the depth that is
certain after it. -/
theorem readToken_bounded_iff {limit : Nat} {expect next : Expect} {token : Token}
    (within : expect.height ≤ limit) (reads : readToken unbounded expect token = some next) :
    readToken (bounded limit) expect token = if next.height ≤ limit then some next else none := by
  have room : (∀ stack, expect.opening token = some stack → stack.length < limit) ↔
      next.height ≤ limit := by
    rw [readToken_height reads]
    cases opening : expect.opening token with
    | none => simpa using within
    | some stack =>
      rw [height_opening opening] at within
      simp only [Option.some.injEq, forall_eq']
      rw [height_eq stack 1]
      omega
  rw [readToken_bounded, reads]
  simp only [room]

theorem readTokens_cons (dialect : Dialect) (expect : Expect) (token : Token) (rest : List Token) :
    readTokens dialect expect (token :: rest) =
      (readToken dialect expect token).bind fun next => readTokens dialect next rest := by
  rw [readTokens]
  cases readToken dialect expect token with
  | none => rfl
  | some next => rfl

/-- A text ends with a complete document that nothing is open around. -/
theorem readTokens_nil (dialect : Dialect) (expect : Expect) (d : Document) :
    readTokens dialect expect [] = some d ↔ expect = .after [] d := by
  cases expect with
  | after stack complete =>
    cases stack with
    | nil => simp [readTokens]
    | cons o rest => simp [readTokens]
  | value | firstElement | name | firstName | colon => simp [readTokens]

/-- A document is at least as deep as is certain on the way. -/
theorem readTokens_height {expect : Expect} {tokens : List Token} {d : Document}
    (reads : readTokens unbounded expect tokens = some d) : expect.height ≤ d.depth := by
  induction tokens generalizing expect with
  | nil =>
    rw [(readTokens_nil unbounded expect d).mp reads]
    exact Nat.le_refl _
  | cons token rest inductionHypothesis =>
    rw [readTokens_cons] at reads
    obtain ⟨next, first, others⟩ := Option.bind_eq_some_iff.mp reads
    exact Nat.le_trans (height_le first) (inductionHypothesis others)

theorem readTokens_bounded {limit : Nat} {expect : Expect} (tokens : List Token)
    (within : expect.height ≤ limit) :
    readTokens (bounded limit) expect tokens =
      (readTokens unbounded expect tokens).filter (·.depth ≤ limit) := by
  induction tokens generalizing expect with
  | nil =>
    cases read : readTokens unbounded expect [] with
    | none =>
      rw [Option.filter_none, Option.eq_none_iff_forall_ne_some]
      intro d read'
      rw [(readTokens_nil _ expect d).mp read', (readTokens_nil unbounded _ d).mpr rfl] at read
      cases read
    | some d =>
      have complete := (readTokens_nil unbounded expect d).mp read
      have fits : d.depth ≤ limit := by
        rw [complete] at within
        exact within
      rw [Option.filter_some, if_pos (by simpa using fits)]
      exact (readTokens_nil _ expect d).mpr complete
  | cons token rest inductionHypothesis =>
    rw [readTokens_cons, readTokens_cons]
    cases reads : readToken unbounded expect token with
    | none =>
      have nothing : readToken (bounded limit) expect token = none := by
        rw [readToken_bounded, reads, ite_self]
      rw [nothing]
      rfl
    | some next =>
      rw [readToken_bounded_iff within reads]
      by_cases fits : next.height ≤ limit
      · rw [if_pos fits]
        exact inductionHypothesis fits
      · rw [if_neg fits]
        symm
        rw [Option.bind_none, Option.bind_some, Option.filter_eq_none_iff]
        intro d others deep
        -- A stack that is too high ends in a document that is too deep.
        have certain := readTokens_height others
        simp only [decide_eq_true_eq] at deep
        omega

/-- The documents of the host's dialect are those nested within its bound. -/
theorem readChars_strict (chars : List Char) :
    readChars strictDialect chars = (readChars unbounded chars).filter (·.depth ≤ 200) := by
  unfold readChars
  cases scan chars with
  | none => rfl
  | some tokens => exact readTokens_bounded tokens (Nat.zero_le 200)

end Json
end PolicyHost
