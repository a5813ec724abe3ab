import PolicyHost.Proofs.Assembly
import PolicyHost.Remote.Client

namespace PolicyHost

/-!
# Results and the texts around them

A policy's result comes out of a guest in an array of records and from a server
in an object.  Both texts are read as the result in its container, as long as
there is room for that on the stack of the reader: a result set takes two
places and the body of a response one.
-/

def resultSet (text : Bytes) : Bytes :=
  Utf8.encode "[\x7b\"result\":" ++ text ++ Utf8.encode "\x7d]"

def resultBody (text : Bytes) : Bytes :=
  Utf8.encode "\x7b\"result\":" ++ text ++ Utf8.encode "\x7d"

namespace Json

variable {chars : List Char} {text : Bytes} {d : Document}

/-- A document is read from the characters of its bytes, and fits the stack. -/
theorem read_iff :
    read text = some d ↔
      ∃ chars, Utf8.decode text = some chars ∧ Says chars d ∧ d.depth ≤ 200 := by
  unfold read
  cases Utf8.decode text with
  | none => simp
  | some chars =>
    simp only [readChars_strict, Option.filter_eq_some_iff, decide_eq_true_eq, Option.some.injEq]
    constructor
    · intro both
      exact ⟨chars, rfl, both⟩
    · intro found
      obtain ⟨_, rfl, both⟩ := found
      exact both

/-- Characters that say a document are read, if there is room for it. -/
theorem read_of_says (decoded : Utf8.decode text = some chars) (said : Says chars d) :
    read text = if d.depth ≤ 200 then some d else none := by
  unfold read
  rw [decoded]
  dsimp only
  rw [readChars_strict, show readChars unbounded chars = some d from said]
  by_cases room : d.depth ≤ 200
  · simp [room]
  · have deep : 200 < d.depth := Nat.not_le.mp room
    simp [room, deep]

theorem decode_between (opening closing : String) (decoded : Utf8.decode text = some chars) :
    Utf8.decode (Utf8.encode opening ++ text ++ Utf8.encode closing) =
      some (opening.toList ++ chars ++ closing.toList) := by
  have front : Utf8.decode (Utf8.encode opening ++ text) = some (opening.toList ++ chars) := by
    rw [Utf8.decode_append (Utf8.decode_encode opening), decoded]
    rfl
  rw [Utf8.decode_append front, Utf8.decode_encode]
  rfl

theorem says_resultBody (said : Says chars d) :
    Says ("\x7b\"result\":".toList ++ chars ++ "\x7d".toList) (.object [("result", d)]) := by
  have member : SaysMember (quoted "result".toList ++ ':' :: chars) ("result", d) :=
    ⟨chars, rfl, said⟩
  have object := says_object (.cons member .nil)
  simpa [joined, quoted, escapeChar] using object

theorem says_resultSet (said : Says chars d) :
    Says ("[\x7b\"result\":".toList ++ chars ++ "\x7d]".toList)
      (.array [.object [("result", d)]]) := by
  have array := says_array (.cons (says_resultBody said) .nil)
  simpa [joined] using array

theorem read_resultBody (decoded : Utf8.decode text = some chars) (said : Says chars d) :
    read (resultBody text) = if d.depth ≤ 199 then some (.object [("result", d)]) else none := by
  have object := read_of_says (decode_between "\x7b\"result\":" "\x7d" decoded)
    (says_resultBody said)
  have depth : (Document.object [("result", d)]).depth = d.depth + 1 := by
    simp [Document.depth, Document.membersDepth]
  simp only [depth, Nat.reduceLeDiff] at object
  rw [resultBody]
  exact object

theorem read_resultSet (decoded : Utf8.decode text = some chars) (said : Says chars d) :
    read (resultSet text) =
      if d.depth ≤ 198 then some (.array [.object [("result", d)]]) else none := by
  have array := read_of_says (decode_between "[\x7b\"result\":" "\x7d]" decoded)
    (says_resultSet said)
  have depth : (Document.array [.object [("result", d)]]).depth = d.depth + 2 := by
    simp [Document.depth, Document.itemsDepth, Document.membersDepth]
  simp only [depth, Nat.reduceLeDiff] at array
  rw [resultSet]
  exact array

/-! ### Words that mean nothing -/

/-- Among the words of a text there is one that means nothing to the reader, such as
a number that is too long. -/
def HoldsUnread (chars : List Char) : Prop :=
  ∃ tokens word, scan chars = some tokens ∧ .bare word ∈ tokens ∧ bareDocument? word = none

theorem readToken_bare {dialect : Dialect} {expect next : Expect} {word : List Char}
    (reads : readToken dialect expect (.bare word) = some next) : bareDocument? word ≠ none := by
  intro nothing
  have unread : ∀ stack, readValue stack (.bare word) = none := by
    simp [readValue, nothing]
  cases expect with
  | value | firstElement => simp [readToken, unread] at reads
  | name | firstName | colon => cases reads
  | after stack complete =>
    cases stack with
    | nil => cases reads
    | cons o rest => cases o <;> cases reads

/-- Every word of a text that is read means something. -/
theorem readTokens_bare {dialect : Dialect} {expect : Expect} {tokens : List Token}
    {word : List Char} (reads : readTokens dialect expect tokens = some d)
    (member : .bare word ∈ tokens) : bareDocument? word ≠ none := by
  induction tokens generalizing expect with
  | nil => cases member
  | cons token rest inductionHypothesis =>
    rw [readTokens_cons] at reads
    obtain ⟨next, first, others⟩ := Option.bind_eq_some_iff.mp reads
    obtain rfl | later := List.mem_cons.mp member
    · exact readToken_bare first
    · exact inductionHypothesis others later

theorem HoldsUnread.unread (holds : HoldsUnread chars) (dialect : Dialect) :
    readChars dialect chars = none := by
  obtain ⟨tokens, word, cut, member, nothing⟩ := holds
  unfold readChars
  rw [cut]
  dsimp only
  rw [Option.eq_none_iff_forall_ne_some]
  intro d reads
  exact readTokens_bare reads member nothing

theorem HoldsUnread.resultBody (holds : HoldsUnread chars) :
    HoldsUnread ("\x7b\"result\":".toList ++ chars ++ "\x7d".toList) := by
  obtain ⟨tokens, word, cut, member, nothing⟩ := holds
  have framed : "\x7b\"result\":".toList ++ chars ++ "\x7d".toList =
      '\x7b' :: (quoted "result".toList ++ ':' :: (chars ++ '\x7d' :: [])) := by
    simp [quoted, escapeChar]
  have closing : scan [] = some [] := rfl
  refine ⟨[.beginObject, .text "result", .colon] ++ (tokens ++ [.endObject]), word, ?_, ?_, nothing⟩
  · rw [framed, scan_mark_first mark_beginObject, scan_quoted, scan_mark_first mark_colon,
      scan_mark mark_endObject _ cut, closing]
    rfl
  · simp [member]

theorem HoldsUnread.resultSet (holds : HoldsUnread chars) :
    HoldsUnread ("[\x7b\"result\":".toList ++ chars ++ "\x7d]".toList) := by
  obtain ⟨tokens, word, cut, member, nothing⟩ := holds.resultBody
  have framed : "[\x7b\"result\":".toList ++ chars ++ "\x7d]".toList =
      '[' :: (("\x7b\"result\":".toList ++ chars ++ "\x7d".toList) ++ ']' :: []) := by
    simp
  have closing : scan [] = some [] := rfl
  refine ⟨.beginArray :: (tokens ++ [.endArray]), word, ?_, ?_, nothing⟩
  · rw [framed, scan_mark_first mark_beginArray, scan_mark mark_endArray _ cut, closing]
    rfl
  · simp [member]

/-- Such a text is not read, by itself or in a container. -/
theorem unread_of_holds (decoded : Utf8.decode text = some chars) (holds : HoldsUnread chars) :
    read text = none ∧ read (PolicyHost.resultBody text) = none ∧
      read (PolicyHost.resultSet text) = none := by
  have body := decode_between "\x7b\"result\":" "\x7d" decoded
  have set := decode_between "[\x7b\"result\":" "\x7d]" decoded
  unfold read PolicyHost.resultBody PolicyHost.resultSet
  rw [decoded, body, set]
  exact ⟨holds.unread _, holds.resultBody.unread _, holds.resultSet.unread _⟩

end Json

/-! ## One result -/

/-- What a checked result comes to for a caller. -/
def Delivers (checked : Checked Value) (outcome : Except Report Value) : Prop :=
  match checked with
  | .ok fit => outcome = .ok fit.value
  | .error _ => ∃ r, outcome = .error r ∧ r.kind = .marshaling

namespace Strict

/-- A value that fits with the value of a document in it, if the document fits. -/
def Carries (checked : Checked Value) (wrap : Value → Value) (whole : Checked Value) : Prop :=
  match checked with
  | .ok fit => ∃ exactness given, whole = .ok ⟨wrap fit.value, exactness, given⟩
  | .error _ => ∃ issues, whole = .error issues

theorem check_record (schema : Schema) (d : Document) :
    Carries (check schema d)
      (fun v => .record .model ("ResultRecord[" ++ schema.fullName ++ "]") [("result", v)] [])
      (check (Payload.recordSchema schema) (.object [("result", d)])) := by
  have only : ([("result", d)] : List (String × Document)).reverse.find? (fun m => m.1 == "result") =
      some ("result", d) := rfl
  unfold Payload.recordSchema
  simp only [check, checkFields, only]
  cases check schema d with
  | ok fit => exact ⟨_, _, rfl⟩
  | error issues => exact ⟨_, rfl⟩

theorem check_records (schema : Schema) (d : Document) :
    Carries (check schema d)
      (fun v => .list [.record .model ("ResultRecord[" ++ schema.fullName ++ "]") [("result", v)] []])
      (check (.list (Payload.recordSchema schema)) (.array [.object [("result", d)]])) := by
  have record := check_record schema d
  simp only [check, List.map_cons, List.map_nil]
  cases checked : check schema d with
  | ok fit =>
    rw [checked] at record
    obtain ⟨exactness, given, fits⟩ := record
    rw [fits]
    exact ⟨_, _, rfl⟩
  | error issues =>
    rw [checked] at record
    obtain ⟨found, fails⟩ := record
    rw [fails]
    exact ⟨_, rfl⟩

end Strict

namespace Payload

theorem lastResult_unread {raw : Bytes} (schema : Schema) (path : String)
    (unread : Json.read raw = none) :
    ∃ r, lastResult raw schema path = .error r ∧ r.kind = .marshaling := by
  unfold lastResult decode Strict.validateBytes
  rw [unread]
  exact ⟨_, rfl, rfl⟩

/-- The last result of a result set with one result, which is not nested too
deeply in it. -/
theorem lastResult_resultSet {text : Bytes} {d : Document} (schema : Schema) (path : String)
    (read : Json.read text = some d) (room : d.depth ≤ 198) :
    Delivers (Strict.check schema d) (lastResult (resultSet text) schema path) := by
  obtain ⟨chars, decoded, said, _⟩ := Json.read_iff.mp read
  have whole := Json.read_resultSet decoded said
  rw [if_pos room] at whole
  have records := Strict.check_records schema d
  unfold lastResult decode Strict.validateBytes Strict.validate
  rw [whole]
  dsimp only
  cases checked : Strict.check schema d with
  | ok fit =>
    rw [checked] at records
    obtain ⟨exactness, given, fits⟩ := records
    rw [fits]
    rfl
  | error issues =>
    rw [checked] at records
    obtain ⟨found, fails⟩ := records
    rw [fails]
    exact ⟨_, rfl, rfl⟩

/-- One that is nested too deeply is not read. -/
theorem lastResult_deep {text : Bytes} {d : Document} (schema : Schema) (path : String)
    (read : Json.read text = some d) (deep : 198 < d.depth) :
    ∃ r, lastResult (resultSet text) schema path = .error r ∧ r.kind = .marshaling := by
  obtain ⟨chars, decoded, said, _⟩ := Json.read_iff.mp read
  have whole := Json.read_resultSet decoded said
  rw [if_neg (Nat.not_le.mpr deep)] at whole
  exact lastResult_unread schema path whole

end Payload

/-! ## A result or null -/

namespace Schema

/-- Members of a choice without those that are the same as an earlier one. -/
def gather (kept : List Schema) (more : List Schema) : List Schema :=
  more.foldl (fun kept s => if kept.any (same s) then kept else kept ++ [s]) kept

theorem choose_eq (barred : Bool) (alternatives : List Schema) :
    choose barred alternatives =
      match alternatives.any fun s => s.parts.1,
        gather [] (alternatives.flatMap fun s => s.parts.2) with
      | true, [] => .null
      | false, [s] => s
      | orNull, members => .choice barred orNull members := by
  have members_eq : (alternatives.flatMap fun s => s.parts.2).foldl
      (fun kept s => if kept.any (same s) then kept else kept ++ [s]) [] =
      gather [] (alternatives.flatMap fun s => s.parts.2) := rfl
  unfold choose
  rw [members_eq]
  generalize gather [] (alternatives.flatMap fun s => s.parts.2) = members
  cases alternatives.any fun s => s.parts.1 with
  | true => cases members <;> rfl
  | false =>
    cases members with
    | nil => rfl
    | cons m ms => cases ms <;> rfl

/-- No later member is the same as an earlier one. -/
def Distinct (members : List Schema) : Prop :=
  members.Pairwise fun earlier later => same later earlier = false

theorem gather_distinct (kept more : List Schema) (distinct : Distinct kept) :
    Distinct (gather kept more) := by
  induction more generalizing kept with
  | nil => exact distinct
  | cons s rest inductionHypothesis =>
    apply inductionHypothesis
    dsimp only
    split
    · exact distinct
    · rename_i fresh
      simp only [List.any_eq_true, not_exists, not_and, Bool.not_eq_true] at fresh
      apply List.pairwise_append.mpr
      refine ⟨distinct, List.pairwise_singleton _ _, ?_⟩
      intro earlier member later last
      rw [List.mem_singleton.mp last]
      exact fresh earlier member

theorem gather_eq (kept more : List Schema) (distinct : Distinct (kept ++ more)) :
    gather kept more = kept ++ more := by
  induction more generalizing kept with
  | nil => simp [gather]
  | cons s rest inductionHypothesis =>
    have fresh : kept.any (same s) = false := by
      rw [List.any_eq_false]
      intro earlier member
      have apart := (List.pairwise_append.mp distinct).2.2 earlier member s (by simp)
      simp [apart]
    have moved : kept ++ s :: rest = (kept ++ [s]) ++ rest := by simp
    rw [moved] at distinct ⊢
    rw [← inductionHypothesis _ distinct]
    unfold gather
    rw [List.foldl_cons, fresh]
    rfl

theorem mem_gather {kept more : List Schema} {s : Schema} (member : s ∈ gather kept more) :
    s ∈ kept ∨ s ∈ more := by
  induction more generalizing kept with
  | nil => exact .inl member
  | cons t rest inductionHypothesis =>
    have found := inductionHypothesis member
    dsimp only at found
    split at found
    · exact found.imp id (List.mem_cons_of_mem t)
    · obtain early | late := found
      · rw [List.mem_append, List.mem_singleton] at early
        obtain early | rfl := early
        · exact .inl early
        · exact .inr (List.mem_cons_self ..)
      · exact .inr (List.mem_cons_of_mem t late)

/-- A schema whose alternatives are distinct, and are no choices themselves. -/
structure Tidy (s : Schema) : Prop where
  distinct : Distinct s.parts.2
  flat : ∀ m ∈ s.parts.2, m.parts = (false, [m])

theorem parts_cases (s : Schema) :
    s = .null ∨ (∃ barred orNull members, s = .choice barred orNull members) ∨
      s.parts = (false, [s]) := by
  cases s with
  | null => exact .inl rfl
  | choice barred orNull members => exact .inr (.inl ⟨barred, orNull, members, rfl⟩)
  | any | bool | int | float | text | bytes | identifier | anyList | anyMapping | list | set |
    mapping | tuple | sequence | literal | model | refined => exact .inr (.inr rfl)

theorem tidy_of_parts {s : Schema} (alone : s.parts = (false, [s])) : s.Tidy := by
  constructor
  · rw [alone]
    exact List.pairwise_singleton _ _
  · intro m member
    rw [alone] at member
    rw [List.mem_singleton.mp member]
    exact alone

theorem tidy_choose (barred : Bool) (alternatives : List Schema)
    (tidy : ∀ s ∈ alternatives, s.Tidy) : (choose barred alternatives).Tidy := by
  have distinct : Distinct (gather [] (alternatives.flatMap fun s => s.parts.2)) :=
    gather_distinct _ _ .nil
  have flat : ∀ m ∈ gather [] (alternatives.flatMap fun s => s.parts.2),
      m.parts = (false, [m]) := by
    intro m member
    obtain impossible | among := mem_gather member
    · cases impossible
    · obtain ⟨s, present, part⟩ := List.mem_flatMap.mp among
      exact (tidy s present).flat m part
  rw [choose_eq]
  split
  · exact ⟨.nil, fun m member => nomatch member⟩
  · rename_i m _ single
    apply tidy_of_parts
    apply flat
    rw [single]
    exact List.mem_singleton_self m
  · exact ⟨distinct, flat⟩

/-- The schemas that results are declared with. -/
inductive Expressible : Schema → Prop
  | any : Expressible .any
  | bool : Expressible .bool
  | int : Expressible .int
  | float : Expressible .float
  | text : Expressible .text
  | bytes : Expressible .bytes
  | null : Expressible .null
  | anyList : Expressible .anyList
  | anyMapping : Expressible .anyMapping
  | list (item : Schema) (inner : Expressible item) : Expressible (.list item)
  | set (item : Schema) (inner : Expressible item) : Expressible (.set item)
  | mapping (key value : Schema) (keys : Expressible key) (values : Expressible value) :
    Expressible (.mapping key value)
  | tuple (items : List Schema) (inner : ∀ s ∈ items, Expressible s) : Expressible (.tuple items)
  | sequence (item : Schema) (inner : Expressible item) : Expressible (.sequence item)
  | optional (s : Schema) (inner : Expressible s) : Expressible s.optional
  | union (alternatives : List Schema) (inner : ∀ s ∈ alternatives, Expressible s) :
    Expressible (union alternatives)
  | literal (choices : List Value) : Expressible (.literal choices)
  | model (name : String) (fields : List (String × Schema × Option Value)) (extras : Extras)
    (inner : ∀ f ∈ fields, Expressible f.2.1) : Expressible (.model name fields extras)

theorem Expressible.tidy {s : Schema} (expressible : Expressible s) : s.Tidy := by
  have null : Tidy .null := ⟨.nil, fun m member => nomatch member⟩
  induction expressible with
  | null => exact null
  | optional s _ inductionHypothesis =>
    apply tidy_choose
    intro t member
    simp only [List.mem_cons, List.not_mem_nil, or_false] at member
    obtain rfl | rfl := member
    · exact inductionHypothesis
    · exact null
  | union alternatives _ inductionHypothesis =>
    exact tidy_choose _ alternatives inductionHypothesis
  | any | bool | int | float | text | bytes | anyList | anyMapping | list | set | mapping | tuple |
    sequence | literal | model => exact tidy_of_parts rfl

theorem optional_eq (s : Schema) :
    s.optional =
      match gather [] s.parts.2 with
      | [] => .null
      | members => .choice (!s.namedWhenOptional) true members := by
  have alternatives : ([s, .null].flatMap fun t => t.parts.2) = s.parts.2 := by
    simp [parts]
  have orNull : ([s, .null].any fun t => t.parts.1) = true := by
    simp [parts]
  unfold optional
  rw [choose_eq, alternatives, orNull]
  cases gather [] s.parts.2 with
  | nil => rfl
  | cons m ms => rfl

end Schema

namespace Strict

theorem Carries.self (checked : Checked Value) : Carries checked id checked := by
  cases checked with
  | ok fit => exact ⟨_, _, rfl⟩
  | error issues => exact ⟨_, rfl⟩

theorem check_choice {d : Document} (present : d ≠ .null) (barred orNull : Bool)
    (members : List Schema) :
    check (.choice barred orNull members) d = Checked.ofMembers (checkMembers members d) := by
  cases d with
  | null => exact absurd rfl present
  | bool | int | float | text | array | object => simp [check]

theorem check_optional {s : Schema} (tidy : s.Tidy) {d : Document} (present : d ≠ .null) :
    Carries (check s d) id (check s.optional d) := by
  have refused : ∃ issues, check .null d = .error issues := by
    cases d with
    | null => exact absurd rfl present
    | bool | int | float | text | array | object => exact ⟨_, rfl⟩
  rw [Schema.optional_eq, Schema.gather_eq [] s.parts.2 tidy.distinct, List.nil_append]
  obtain rfl | ⟨barred, orNull, members, rfl⟩ | alone := s.parts_cases
  · obtain ⟨issues, fails⟩ := refused
    dsimp only [Schema.parts]
    rw [fails]
    exact ⟨_, rfl⟩
  · rw [check_choice present]
    cases members with
    | nil => exact refused
    | cons m ms =>
      dsimp only [Schema.parts]
      rw [check_choice present]
      exact Carries.self _
  · rw [alone]
    dsimp only
    rw [check_choice present]
    exact Carries.self _

end Strict

namespace Remote

/-- The body of a response is read as a decision with the result in it, if that
is not null and not nested too deeply. -/
theorem readDecision_resultBody {text : Bytes} {d : Document} {schema : Schema}
    (tidy : schema.Tidy) (read : Json.read text = some d) (present : d ≠ .null)
    (room : d.depth ≤ 199) (response : Response) (body : response.body = resultBody text) :
    match Strict.check schema d with
    | .ok fit => readDecision schema response = .ok (.decision ⟨fit.value, none⟩)
    | .error _ => ∃ r, readDecision schema response = .error r ∧ r.kind = .marshaling := by
  obtain ⟨chars, decoded, said, _⟩ := Json.read_iff.mp read
  have whole := Json.read_resultBody decoded said
  rw [if_pos room] at whole
  have result := Strict.check_optional tidy present
  have decision : Strict.Carries (Strict.check schema d)
      (fun v => .record .model ("Decision[" ++ schema.fullName ++ "]")
        [("result", v), ("decision_id", .null)] [])
      (Strict.check (decisionResponse schema) (.object [("result", d)])) := by
    unfold decisionResponse
    have only : ([("result", d)] : List (String × Document)).reverse.find?
        (fun m => m.1 == "result") = some ("result", d) := rfl
    have other : ([("result", d)] : List (String × Document)).reverse.find?
        (fun m => m.1 == "decision_id") = none := rfl
    simp only [Strict.check, Strict.checkFields, only, other]
    cases checked : Strict.check schema d with
    | ok fit =>
      rw [checked] at result
      obtain ⟨exactness, given, fits⟩ := result
      rw [fits]
      exact ⟨_, _, rfl⟩
    | error issues =>
      rw [checked] at result
      obtain ⟨found, fails⟩ := result
      rw [fails]
      exact ⟨_, rfl⟩
  unfold readDecision Payload.decode Strict.validateBytes Strict.validate
  rw [body, whole]
  dsimp only
  cases checked : Strict.check schema d with
  | ok fit =>
    rw [checked] at decision
    obtain ⟨exactness, given, fits⟩ := decision
    rw [fits]
    rfl
  | error issues =>
    rw [checked] at decision
    obtain ⟨found, fails⟩ := decision
    rw [fails]
    exact ⟨_, rfl, rfl⟩

theorem readDecision_unread (schema : Schema) (response : Response)
    (unread : Json.read response.body = none) :
    ∃ r, readDecision schema response = .error r ∧ r.kind = .marshaling := by
  unfold readDecision Payload.decode Strict.validateBytes
  rw [unread]
  exact ⟨_, rfl, rfl⟩

theorem readDecision_deep {text : Bytes} {d : Document} (schema : Schema)
    (read : Json.read text = some d) (deep : 199 < d.depth) (response : Response)
    (body : response.body = resultBody text) :
    ∃ r, readDecision schema response = .error r ∧ r.kind = .marshaling := by
  obtain ⟨chars, decoded, said, _⟩ := Json.read_iff.mp read
  have whole := Json.read_resultBody decoded said
  rw [if_neg (Nat.not_le.mpr deep), ← body] at whole
  exact readDecision_unread schema response whole

end Remote
end PolicyHost
