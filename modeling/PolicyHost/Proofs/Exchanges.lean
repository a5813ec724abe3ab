import PolicyHost.Proofs.Forms
import PolicyHost.Remote.Script

namespace PolicyHost

/-!
# How calls to a server end

A call has something to send or it fails at once, and then no request is made.
A document or an input that cannot be sent is reported; the source of a policy
that has no UTF-8 form ends the call with a fault that is no report.
Otherwise one request is made, and the call ends according to the answer: it fails on
the way, it is refused, or there is a response in which the call finds what it returns
or does not.  What a call looks for depends on the call alone, and so does whether it
has anything to send.  So each of several calls ends by itself, whatever became of the
others, and is answered after the calls before it that made a request.
-/

namespace Report

/-- A request to an address came to nothing, with the status of the response if there was one. -/
def FailedAt (report : Report) (url : String) (status : Option Int) : Prop :=
  report.kind = .remote ∧ report.details.get "url" = .text url ∧
    report.details.get "status_code" = (status.map Value.int).getD .null

theorem requestFailed_failedAt (url : String) (status : Option Int) (underlying : String) :
    (requestFailed url status underlying).FailedAt url status := by
  cases status <;> exact ⟨rfl, rfl, rfl⟩

variable {report : Report} {url direction : String} {status : Option Int}

theorem FailedAt.iff (failedAt : report.FailedAt url status) (other : String)
    (another : Option Int) :
    report.FailedAt other another ↔ url = other ∧ status = another := by
  obtain ⟨kind, told, answered⟩ := failedAt
  unfold FailedAt
  rw [kind, told, answered]
  cases status <;> cases another <;> simp

theorem Marshals.iff (marshals : report.Marshals direction) (other : String) :
    report.Marshals other ↔ direction = other := by
  obtain ⟨kind, told⟩ := marshals
  unfold Marshals
  rw [kind, told]
  simp

theorem FailedAt.not_marshals (failedAt : report.FailedAt url status) (direction : String) :
    ¬ report.Marshals direction := by
  intro marshals
  cases failedAt.1.symm.trans marshals.1

theorem Marshals.not_failedAt (marshals : report.Marshals direction) (url : String)
    (status : Option Int) : ¬ report.FailedAt url status :=
  fun failedAt => failedAt.not_marshals direction marshals

end Report

namespace Payload

/-- A value is encoded if it has a document form. -/
theorem encode_cases (value : Value) :
    (Json.write value = none ∧ ∃ r, encode value = .error r ∧ r.Marshals "encode") ∨
      ∃ bytes, Json.write value = some bytes ∧ encode value = .ok bytes := by
  unfold encode
  cases Json.write value with
  | none => exact .inl ⟨rfl, _, rfl, Report.marshaling_marshals ..⟩
  | some bytes => exact .inr ⟨bytes, rfl, rfl⟩

end Payload

theorem Binding.prepareInput_eq (binding : Binding) (input : Value) :
    binding.prepareInput input =
      match Lenient.check binding.input input with
      | .ok fit => .ok fit.value
      | .error issues =>
        .error (Report.marshaling "encode" binding.input.name (Issue.summary .host issues)) := by
  unfold prepareInput
  split
  · rename_i any_
    rw [any_, Lenient.check.eq_def]
    rfl
  · rfl

namespace Remote

namespace Call

/-- A call that has nothing to send: a document or an input without a document form, or an input
that its binding does not accept. -/
inductive Unsendable : Call → Prop
  | document (path : String) (value : Value) (unwritten : Json.write value = none) :
    Unsendable (.setDocument path value)
  | input (path : String) (value : Value) (schema : Schema) (unwritten : Json.write value = none) :
    Unsendable (.getDecision path value schema)
  | refused (binding : Binding) (input : Value) (issues : List Issue)
    (invalid : Lenient.check binding.input input = .error issues) :
    Unsendable (.decide binding input)
  | prepared (binding : Binding) (input : Value) (fit : Fit Value)
    (valid : Lenient.check binding.input input = .ok fit)
    (unwritten : Json.write fit.value = none) : Unsendable (.decide binding input)

/-- A call that stores a policy whose source has no UTF-8 form. -/
inductive Unwritable : Call → Prop
  | source (policy : StoredPolicy) (text : Unencodable) (broken : policy.source = .broken text) :
    Unwritable (.setPolicy policy)

theorem Unwritable.not_unsendable {c : Call} (unwritable : c.Unwritable) : ¬ c.Unsendable := by
  cases unwritable
  exact nofun

/-- What the body of a response has to be, for the calls that read it. -/
def model? : Call → Option Schema
  | getPolicy _ => some policyResponse
  | listPolicies => some policiesResponse
  | getDecision _ _ schema => some (decisionResponse schema)
  | decide binding _ => some (decisionResponse binding.output)
  | _ => none

/-- What a call returns of a body that is valid. -/
def replyTo : Call → Value → Reply
  | getPolicy _, record => .policy (.ofRecord (record.field "result"))
  | listPolicies, record => .policies ((record.field "result").items.map StoredPolicy.ofRecord)
  | getDecision .., record | decide .., record =>
    .decision ⟨record.field "result", (record.field "decision_id").text?⟩
  | _, _ => .done

/-- A body is what a call looks for, and this is what it returns. -/
def Finds (c : Call) (body : Bytes) (reply : Reply) : Prop :=
  match c.model? with
  | none => reply = .done
  | some model => ∃ record, Strict.validateBytes model body = .ok record ∧ reply = c.replyTo record

theorem Finds.iff {c : Call} {body : Bytes} {reply : Reply} (finds : c.Finds body reply)
    (other : Reply) : c.Finds body other ↔ reply = other := by
  unfold Finds at finds ⊢
  generalize c.model? = model? at finds ⊢
  cases model? with
  | none =>
    dsimp only at finds ⊢
    rw [finds, eq_comm]
  | some model =>
    obtain ⟨record, valid, rfl⟩ := finds
    simp [valid, eq_comm]

def read (c : Call) (response : Response) : Except Report Reply :=
  match c.model? with
  | none => .ok .done
  | some model =>
    match Payload.decode response.body model with
    | .ok record => .ok (c.replyTo record)
    | .error report => .error report

/-- A call returns what it finds in a response, and reports that it finds nothing. -/
theorem read_cases (c : Call) (response : Response) :
    (∃ reply, c.read response = .ok reply ∧ c.Finds response.body reply) ∨
      ∃ r, c.read response = .error r ∧ r.Marshals "decode" ∧
        ¬ ∃ reply, c.Finds response.body reply := by
  unfold read Finds
  cases c.model? with
  | none => exact .inl ⟨_, rfl, rfl⟩
  | some model =>
    dsimp only
    cases decoded : Payload.decode response.body model with
    | ok record =>
      exact .inl ⟨_, rfl, record, (Payload.decode_ok_iff_valid ..).mp decoded, rfl⟩
    | error r =>
      refine .inr ⟨r, rfl, Payload.decode_marshals decoded, ?_⟩
      rintro ⟨reply, record, valid, rfl⟩
      cases decoded.symm.trans ((Payload.decode_ok_iff_valid ..).mpr valid)

end Call

namespace Client

/-- An input without a document form is not asked about. -/
theorem asking_cases (client : Client) (path : String) (input : Value) (schema : Schema) :
    (Json.write input = none ∧
      ∃ r, client.asking path input schema = .error (.report r) ∧ r.Marshals "encode") ∨
    ∃ bytes exchange, Json.write input = some bytes ∧
      client.asking path input schema = .ok exchange ∧ exchange.read = readDecision schema := by
  unfold asking
  obtain ⟨unwritten, r, encoded, marshals⟩ | ⟨bytes, written, encoded⟩ :=
    Payload.encode_cases input
  · rw [encoded]
    exact .inl ⟨unwritten, r, rfl, marshals⟩
  · rw [encoded]
    exact .inr ⟨bytes, _, written, rfl, rfl⟩

/-- A call has nothing to send, or an exchange is made of it. -/
theorem exchange_cases (client : Client) (c : Call) :
    (c.Unsendable ∧ ∃ r, client.exchange c = .error (.report r) ∧ r.Marshals "encode") ∨
      (c.Unwritable ∧ client.exchange c = .error .unencodable) ∨
      (¬ c.Unsendable ∧ ¬ c.Unwritable ∧
        ∃ exchange, client.exchange c = .ok exchange ∧ exchange.read = c.read) := by
  cases c with
  | setPolicy policy =>
    unfold exchange
    dsimp only
    cases source : policy.source with
    | whole text =>
      refine .inr (.inr ⟨nofun, ?_, _, rfl, rfl⟩)
      rintro ⟨_, other, broken⟩
      cases source.symm.trans broken
    | broken text => exact .inr (.inl ⟨.source policy text source, rfl⟩)
  | setDocument path value =>
    unfold exchange
    dsimp only
    obtain ⟨unwritten, r, encoded, marshals⟩ | ⟨bytes, written, encoded⟩ :=
      Payload.encode_cases value
    · rw [encoded]
      exact .inl ⟨.document path value unwritten, r, rfl, marshals⟩
    · rw [encoded]
      refine .inr (.inr ⟨?_, nofun, _, rfl, rfl⟩)
      intro unsendable
      cases unsendable with
      | document _ _ unwritten => cases written.symm.trans unwritten
  | getDecision path input schema =>
    obtain ⟨unwritten, failed⟩ | ⟨bytes, asked, written, made, read⟩ :=
      client.asking_cases path input schema
    · exact .inl ⟨.input path input schema unwritten, failed⟩
    · refine .inr (.inr ⟨?_, nofun, asked, made, read⟩)
      intro unsendable
      cases unsendable with
      | input _ _ _ unwritten => cases written.symm.trans unwritten
  | decide binding input =>
    unfold exchange
    dsimp only
    rw [Binding.prepareInput_eq]
    cases checked : Lenient.check binding.input input with
    | error issues =>
      exact .inl ⟨.refused binding input issues checked, _, rfl, Report.marshaling_marshals ..⟩
    | ok fit =>
      dsimp only
      obtain ⟨unwritten, failed⟩ | ⟨bytes, asked, written, made, read⟩ :=
        client.asking_cases binding.path fit.value binding.output
      · exact .inl ⟨.prepared binding input fit checked unwritten, failed⟩
      · refine .inr (.inr ⟨?_, nofun, asked, made, read⟩)
        intro unsendable
        cases unsendable with
        | refused _ _ _ invalid => cases checked.symm.trans invalid
        | prepared _ _ _ valid unwritten =>
          cases checked.symm.trans valid
          cases written.symm.trans unwritten
  | _ => exact .inr (.inr ⟨nofun, nofun, _, rfl, rfl⟩)

end Client

namespace Script

/-- How a call ended that got this answer, if it made a request. -/
structure Classified (c : Call) (answer : Answer) (outcome : Outcome) : Prop where
  /-- There is no request only for want of something to send. -/
  silent : outcome.request = none ↔ c.Unsendable ∨ c.Unwritable
  withheld : (∃ r, outcome.result = .error (.report r) ∧ r.Marshals "encode") ↔ c.Unsendable
  /-- A source without a UTF-8 form is the one thing that is not reported. -/
  leaked : ∀ fault, (outcome.result = .error fault ∧ fault.report? = none) ↔
    c.Unwritable ∧ fault = .unencodable
  returned : ∀ reply, outcome.result = .ok reply ↔
    ∃ request response, outcome.request = some request ∧ answer = .ok response ∧
      response.isSuccess = true ∧ c.Finds response.body reply
  misread : (∃ r, outcome.result = .error (.report r) ∧ r.Marshals "decode") ↔
    ∃ request response, outcome.request = some request ∧ answer = .ok response ∧
      response.isSuccess = true ∧ ¬ ∃ reply, c.Finds response.body reply
  refused : ∀ url status, (∃ r, outcome.result = .error (.report r) ∧ r.FailedAt url (some status)) ↔
    ∃ request response, outcome.request = some request ∧ answer = .ok response ∧
      response.isSuccess = false ∧ request.url = url ∧ response.status = status
  failed : ∀ url, (∃ r, outcome.result = .error (.report r) ∧ r.FailedAt url none) ↔
    ∃ request failure, outcome.request = some request ∧ answer = .error failure ∧
      request.url = url

def requests (outcomes : List Outcome) : List Request :=
  outcomes.filterMap (·.request)

inductive Ends (c : Call) (answer : Answer) : Outcome → Prop
  | withheld (r : Report) (unsendable : c.Unsendable) (marshals : r.Marshals "encode") :
    Ends c answer ⟨.error (.report r), none⟩
  | leaked (unwritable : c.Unwritable) : Ends c answer ⟨.error .unencodable, none⟩
  | returned (request : Request) (response : Response) (reply : Reply)
    (sendable : ¬ c.Unsendable) (writable : ¬ c.Unwritable) (answered : answer = .ok response)
    (success : response.isSuccess = true) (finds : c.Finds response.body reply) :
    Ends c answer ⟨.ok reply, some request⟩
  | misread (request : Request) (response : Response) (r : Report)
    (sendable : ¬ c.Unsendable) (writable : ¬ c.Unwritable) (answered : answer = .ok response)
    (success : response.isSuccess = true) (lost : ¬ ∃ reply, c.Finds response.body reply)
    (marshals : r.Marshals "decode") : Ends c answer ⟨.error (.report r), some request⟩
  | refused (request : Request) (response : Response) (r : Report)
    (sendable : ¬ c.Unsendable) (writable : ¬ c.Unwritable) (answered : answer = .ok response)
    (success : response.isSuccess = false)
    (failedAt : r.FailedAt request.url (some response.status)) :
    Ends c answer ⟨.error (.report r), some request⟩
  | failed (request : Request) (failure : Failure) (r : Report)
    (sendable : ¬ c.Unsendable) (writable : ¬ c.Unwritable) (answered : answer = .error failure)
    (failedAt : r.FailedAt request.url none) : Ends c answer ⟨.error (.report r), some request⟩

theorem Ends.classified {c : Call} {answer : Answer} {outcome : Outcome}
    (ends : Ends c answer outcome) : Classified c answer outcome := by
  cases ends with
  | withheld r unsendable marshals =>
    have writable : ¬ c.Unwritable := fun unwritable => unwritable.not_unsendable unsendable
    constructor <;>
      simp [unsendable, writable, Fault.report?, marshals.iff, marshals.not_failedAt]
  | leaked unwritable =>
    have sendable := unwritable.not_unsendable
    constructor
    case leaked =>
      intro fault
      constructor
      · rintro ⟨same, _⟩
        exact ⟨unwritable, (Except.error.inj same).symm⟩
      · rintro ⟨_, rfl⟩
        exact ⟨rfl, rfl⟩
    all_goals simp [sendable, unwritable]
  | returned request response reply sendable writable answered success finds =>
    constructor <;> simp [sendable, writable, answered, success, finds.iff]
  | misread request response r sendable writable answered success lost marshals =>
    rw [not_exists] at lost
    constructor <;> simp [sendable, writable, answered, success, lost, Fault.report?, marshals.iff,
      marshals.not_failedAt]
  | refused request response r sendable writable answered success failedAt =>
    constructor <;> simp [sendable, writable, answered, success, Fault.report?, failedAt.iff,
      failedAt.not_marshals]
  | failed request failure r sendable writable answered failedAt =>
    constructor <;> simp [sendable, writable, answered, Fault.report?, failedAt.iff,
      failedAt.not_marshals]

theorem call_ends (client : Client) (script : Script) (c : Call) :
    Ends c script.answer.1 (call client script c).1 := by
  unfold call
  obtain ⟨unsendable, r, failed, marshals⟩ | ⟨unwritable, failed⟩ |
    ⟨sendable, writable, exchange, made, read⟩ := client.exchange_cases c
  · rw [failed]
    exact .withheld r unsendable marshals
  · rw [failed]
    exact .leaked unwritable
  · rw [made]
    dsimp only
    generalize script.answer.1 = answer
    unfold Exchange.conclude received
    cases answer with
    | error failure =>
      cases failure with
      | timeout message =>
        exact .failed _ _ _ sendable writable rfl (Report.requestFailed_failedAt ..)
      | broken message =>
        exact .failed _ _ _ sendable writable rfl (Report.requestFailed_failedAt ..)
    | ok response =>
      dsimp only
      cases success : response.isSuccess with
      | true =>
        rw [if_pos rfl]
        dsimp only
        rw [read]
        obtain ⟨reply, found, finds⟩ | ⟨r, missed, marshals, lost⟩ := c.read_cases response
        · rw [found]
          exact .returned _ response reply sendable writable rfl success finds
        · rw [missed]
          exact .misread _ response r sendable writable rfl success lost marshals
      | false =>
        rw [if_neg Bool.false_ne_true]
        exact .refused _ response _ sendable writable rfl success (Report.requestFailed_failedAt ..)

/-- A request takes one answer, and no request takes none. -/
theorem call_script (client : Client) (script : Script) (c : Call) :
    (call client script c).2 = script.drop (requests [(call client script c).1]).length := by
  unfold call
  cases client.exchange c with
  | error r => rfl
  | ok exchange => cases script <;> rfl

theorem calls_cons (client : Client) (script : Script) (c : Call) (rest : List Call) :
    calls client script (c :: rest) =
      (call client script c).1 :: calls client (call client script c).2 rest := rfl

theorem drop_requests (script : Script) (outcome : Outcome) (later : List Outcome) :
    script.drop (requests (outcome :: later)).length =
      (script.drop (requests [outcome]).length).drop (requests later).length := by
  have both : requests (outcome :: later) = requests [outcome] ++ requests later :=
    @List.filterMap_append _ _ [outcome] later _
  rw [both, List.length_append, List.drop_drop]

/-- Calls go on after other calls with the answers that are left. -/
theorem calls_append (client : Client) (script : Script) (before rest : List Call) :
    let earlier := calls client script before
    calls client script (before ++ rest) =
      earlier ++ calls client (script.drop (requests earlier).length) rest := by
  dsimp only
  induction before generalizing script with
  | nil => rfl
  | cons c before inductionHypothesis =>
    rw [List.cons_append, calls_cons, calls_cons, inductionHypothesis, List.cons_append,
      drop_requests, ← call_script]

/-- Whatever calls there were before, and whatever comes after, a call has one outcome, according
to the first answer that none of the requests before has taken. -/
theorem calls_classified (client : Client) (script : Script) (before : List Call) (c : Call)
    (rest : List Call) :
    let earlier := calls client script before
    let left : Script := script.drop (requests earlier).length
    ∃ outcome later, calls client script (before ++ c :: rest) = earlier ++ outcome :: later ∧
      Classified c left.answer.1 outcome := by
  intro earlier left
  have appended := calls_append client script before (c :: rest)
  exact ⟨_, _, appended, (call_ends client left c).classified⟩

/-- The source of a policy without a UTF-8 form is no document that a server is asked to keep,
and yet no request is made, and nothing is reported. -/
theorem source_unsent :
    let text : Unencodable := ⟨[0xD800], rfl⟩
    let c : Call := .setPolicy ⟨"x", .broken text⟩
    ∃ outcome, calls (.make "http://h" false) [.ok ⟨200, []⟩] [c] = [outcome] ∧
      ¬ c.Unsendable ∧ outcome.request = none ∧ outcome.result = .error .unencodable :=
  ⟨_, rfl, nofun, rfl, rfl⟩

end Script
end Remote
end PolicyHost
