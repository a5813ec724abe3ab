import PolicyHost.Proofs.Addressing
import PolicyHost.Proofs.Footprint
import PolicyHost.Proofs.Results
import PolicyHost.Remote.Script

namespace PolicyHost

/-!
# The same decision, here and there

A binding is decided by a host, which evaluates it in a guest, or by a client,
which asks a server.  If both find the same result, in the text that the guest
dumps and in the body that the server sends, they make the same of it: one value,
or a complaint on either side.  A result that fills the stack of the client's
reader to the last place is the exception, since the host's reader has one place
less for it.
-/

variable {σ : Type}

open Instance Operation

/-! ## The text of an evaluation -/

namespace Discipline

/-- The text of the result set that an evaluation in a context comes to. -/
def contextText (discipline : Discipline) (terms : Region.Terms) (handle : Handle)
    (entrypoint : Int) : Operation (Instance σ) Bytes :=
  match discipline with
  | explicitFree => do
    let result ← runContext handle entrypoint
    ensuring (Exchange.readRaw terms result) (Region.free terms result)
  | heapRewind => do
    let saved ← Region.heapPointer
    ensuring (do Exchange.readRaw terms (← runContext handle entrypoint)) (Region.rewind saved)

/-- The text of the result set that an evaluation on its own comes to. -/
def evaluationText (discipline : Discipline) (terms : Region.Terms) (checkpoints : Checkpoints)
    (entrypoint : Int) (data : Address) (input : Value) : Operation (Instance σ) Bytes :=
  match discipline with
  | explicitFree => do
    let handle ← openContext discipline terms checkpoints data input
    let text ← onFault (contextText discipline terms handle entrypoint)
      (closeQuietly discipline terms checkpoints handle)
    closeContext discipline terms checkpoints handle
    return text
  | heapRewind => do
    let raw ← liftReport (Payload.encode input)
    let heap ← lift (checkpoints.data.advance raw.length)
    let (result, text) ← ensuring
      (do
        Region.write terms checkpoints.data raw
        let result ← callAddress "opa_eval"
          (evalArguments entrypoint data checkpoints.data raw.length heap)
        return (result, ← Region.readUntilZero result))
      (Region.rewind checkpoints.data)
    match text with
    | some text => return text
    | none => report (Exchange.unterminated "result set" "result" result)

/-- An evaluation in a context reads the text of its result set. -/
theorem contextEval_eq (discipline : Discipline) (terms : Region.Terms) (handle : Handle)
    (name : String) (entrypoint : Int) (schema : Schema) :
    contextEval (σ := σ) discipline terms handle name entrypoint schema =
      (do
        let text ← contextText discipline terms handle entrypoint
        liftReport (Payload.lastResult text schema name)) := by
  cases discipline with
  | explicitFree => simp only [contextEval, contextText, bind_assoc]
  | heapRewind => simp only [contextEval, contextText, bind_assoc]

/-- What comes of a text of a result set, for a guest that stays as it is. -/
def readAt {S : Type} (text : Bytes) (schema : Schema) (name : String) (after : S) :
    EStateM.Result Fault S Value :=
  match Payload.lastResult text schema name with
  | .ok value => .ok value after
  | .error r => .error (.report r) after

theorem liftReport_lastResult {S : Type} (text : Bytes) (schema : Schema) (name : String)
    (s : S) : liftReport (Payload.lastResult text schema name) s = readAt text schema name s := by
  unfold readAt
  cases Payload.lastResult text schema name with
  | ok value => rfl
  | error r => rfl

/-- A release that returns has nothing to log. -/
theorem closeQuietly_of_ok {discipline : Discipline} {terms : Region.Terms}
    {checkpoints : Checkpoints} {handle : Handle} {guest after : Instance σ}
    (closed : closeContext discipline terms checkpoints handle guest = .ok () after) :
    closeQuietly discipline terms checkpoints handle guest = .ok () after := by
  have attempted : attempt (closeContext discipline terms checkpoints handle) guest =
      .ok (.ok ()) after := by
    unfold attempt
    rw [closed]
  unfold closeQuietly
  rw [bind_of_ok attempted]
  rfl

theorem evaluate_of_text {discipline : Discipline} {terms : Region.Terms}
    {checkpoints : Checkpoints} {entrypoint : Int} {data : Address} {input : Value} {text : Bytes}
    {guest after : Instance σ} (name : String) (schema : Schema)
    (returned : evaluationText discipline terms checkpoints entrypoint data input guest =
      .ok text after) :
    evaluate discipline terms checkpoints name entrypoint data input schema guest =
      readAt text schema name after := by
  cases discipline with
  | explicitFree =>
    obtain ⟨handle, opened, bound, rest⟩ := bind_ok.mp returned
    obtain ⟨found, ran, read, rest⟩ := bind_ok.mp rest
    obtain ⟨_, closed, released, rest⟩ := bind_ok.mp rest
    cases rest
    have read := onFault_of_ok.mp read
    have evaluated : contextEval .explicitFree terms handle name entrypoint schema opened =
        readAt text schema name ran := by
      rw [contextEval_eq, bind_of_ok read, liftReport_lastResult]
    refine (bind_of_ok bound).trans ?_
    unfold readAt at evaluated ⊢
    cases result : Payload.lastResult text schema name with
    | ok value =>
      rw [result] at evaluated
      refine (bind_of_ok (onFault_of_ok.mpr evaluated)).trans ?_
      exact bind_of_ok released
    | error r =>
      rw [result] at evaluated
      exact bind_of_error (onFault_of_error evaluated (closeQuietly_of_ok released))
  | heapRewind =>
    obtain ⟨raw, _, encoded, rest⟩ := bind_ok.mp returned
    obtain ⟨heap, _, advanced, rest⟩ := bind_ok.mp rest
    obtain ⟨⟨result, found⟩, _, ran, rest⟩ := bind_ok.mp rest
    refine (bind_of_ok encoded).trans ((bind_of_ok advanced).trans ((bind_of_ok ran).trans ?_))
    cases found with
    | none => cases rest
    | some found =>
      cases rest
      exact liftReport_lastResult text schema name after

end Discipline

/-! ## What a guest is handed -/

/-- The text that was written into a guest. -/
def Access.text? : Access σ → Option Bytes
  | .write _ bytes => some bytes
  | .call _ _ _ => none

namespace Instance

/-- The texts that were written into a guest, the latest first. -/
def texts (guest : Instance σ) : List Bytes := guest.history.filterMap Access.text?

/-- Nothing was written in between. -/
def Silent (before after : Instance σ) : Prop := after.texts = before.texts

instance : IsPreorder (Instance σ) Silent where
  refl _ := rfl
  trans _ _ _ first second := second.trans first

/-- A call writes nothing for the host. -/
theorem call_silent (name : String) (arguments : List Int) :
    Keeps Silent (Instance.call (σ := σ) name arguments) := by
  have adds : Keeps (Adds fun access => access.text? = none) (call (σ := σ) name arguments) :=
    call_adds fun _ => rfl
  intro guest
  have silent : ∀ after, Adds (fun access => access.text? = none) guest after →
      Silent guest after := by
    intro after added
    obtain ⟨recent, history, none⟩ := added
    unfold Silent texts
    rw [history, List.filterMap_append, List.filterMap_eq_nil_iff.mpr none, List.nil_append]
  exact (adds guest).mono (fun _ after => silent after) fun _ after => silent after

theorem callVoid_silent (name : String) (arguments : List Int) :
    Keeps Silent (Instance.callVoid (σ := σ) name arguments) :=
  callVoid_keeps (call_silent name arguments)

theorem callAddress_silent (name : String) (arguments : List Int) :
    Keeps Silent (Instance.callAddress (σ := σ) name arguments) :=
  callAddress_keeps (call_silent name arguments)

theorem callWord_silent (name : String) (arguments : List Int) :
    Keeps Silent (Instance.callWord (σ := σ) name arguments) :=
  callWord_keeps (call_silent name arguments)

theorem free_silent (terms : Region.Terms) (address : Address) :
    Keeps Silent (Region.free (σ := σ) terms address) := by
  unfold Region.free
  split
  · exact keeps_pure _
  · exact callVoid_silent _ _

theorem rewind_silent (address : Address) : Keeps Silent (Region.rewind (σ := σ) address) := by
  intro guest
  unfold Ends Region.rewind
  cases guest.trapped with
  | true => rfl
  | false => exact callVoid_silent _ _ guest

theorem readUntilZero_silent (address : Address) :
    Keeps Silent (Region.readUntilZero (σ := σ) address) :=
  fun _ => rfl

theorem log_silent (source : String) (severity : Logging.Level) (text : String) :
    Keeps Silent (Instance.log (σ := σ) source severity text) :=
  fun _ => rfl

theorem readRaw_silent (terms : Region.Terms) (document : Address) :
    Keeps Silent (Exchange.readRaw (σ := σ) terms document) := by
  refine (callAddress_silent _ _).bind fun text => ?_
  refine ((readUntilZero_silent text).ensuring (free_silent terms text)).bind fun raw => ?_
  cases raw with
  | some raw => exact keeps_pure _
  | none => exact keeps_throw _

end Instance

namespace Discipline

theorem runContext_silent (handle : Handle) (entrypoint : Int) :
    Keeps Silent (runContext (σ := σ) handle entrypoint) := by
  refine (callVoid_silent _ _).bind fun _ => ?_
  exact (callVoid_silent _ _).bind fun _ => callAddress_silent _ _

/-- Reading a result writes nothing. -/
theorem contextText_silent (discipline : Discipline) (terms : Region.Terms) (handle : Handle)
    (entrypoint : Int) :
    Keeps Silent (contextText (σ := σ) discipline terms handle entrypoint) := by
  cases discipline with
  | explicitFree =>
    refine (runContext_silent handle entrypoint).bind fun result => ?_
    exact (readRaw_silent terms result).ensuring (free_silent terms result)
  | heapRewind =>
    refine (callAddress_silent _ _).bind fun saved => ?_
    refine Keeps.ensuring ?_ (rewind_silent saved)
    exact (runContext_silent handle entrypoint).bind fun result => readRaw_silent terms result

theorem closeContext_silent (discipline : Discipline) (terms : Region.Terms)
    (checkpoints : Checkpoints) (handle : Handle) :
    Keeps Silent (closeContext (σ := σ) discipline terms checkpoints handle) := by
  cases discipline with
  | explicitFree => exact (free_silent terms _).bind fun _ => free_silent terms _
  | heapRewind => exact callVoid_silent _ _

theorem closeQuietly_silent (discipline : Discipline) (terms : Region.Terms)
    (checkpoints : Checkpoints) (handle : Handle) :
    Keeps Silent (closeQuietly (σ := σ) discipline terms checkpoints handle) := by
  refine (closeContext_silent discipline terms checkpoints handle).attempt.bind fun closed => ?_
  cases closed with
  | ok _ => exact keeps_pure _
  | error fault => exact log_silent _ _ _

end Discipline

namespace Instance

/-- An operation that returns has written this text, and no other. -/
def Hands {α : Type} (raw : Bytes) (operation : Operation (Instance σ) α) : Prop :=
  ∀ guest, Ends operation guest (fun _ after => after.texts = raw :: guest.texts)
    (fun _ _ => True)

/-- What writes nothing may come before. -/
theorem Hands.after {α β : Type} {raw : Bytes} {first : Operation (Instance σ) α}
    {next : α → Operation (Instance σ) β} (silent : Keeps Silent first)
    (hands : ∀ a, Hands raw (next a)) : Hands raw (first >>= next) := by
  intro guest
  rw [ends_bind]
  refine (silent guest).mono (fun a middle same => ?_) fun _ _ _ => trivial
  have same : middle.texts = guest.texts := same
  rw [← same]
  exact hands a middle

/-- What writes nothing may come afterwards. -/
theorem Hands.bind {α β : Type} {raw : Bytes} {first : Operation (Instance σ) α}
    {next : α → Operation (Instance σ) β} (hands : Hands raw first)
    (silent : ∀ a, Keeps Silent (next a)) : Hands raw (first >>= next) := by
  intro guest
  rw [ends_bind]
  refine (hands guest).mono (fun a middle wrote => ?_) fun _ _ _ => trivial
  refine (silent a middle).mono (fun _ after same => ?_) fun _ _ _ => trivial
  exact Eq.trans same wrote

/-- A cleanup that writes nothing may follow as well. -/
theorem Hands.ensuring {α : Type} {raw : Bytes} {operation : Operation (Instance σ) α}
    {cleanup : Operation (Instance σ) Unit} (hands : Hands raw operation)
    (silent : Keeps Silent cleanup) : Hands raw (Operation.ensuring operation cleanup) := by
  intro guest
  rw [ends_ensuring]
  refine (hands guest).mono (fun a middle wrote => ?_) fun _ middle _ => ?_
  · refine (silent middle).mono (fun _ after same => ?_) fun _ _ _ => trivial
    exact Eq.trans same wrote
  · exact (ends_nothing cleanup middle).mono (fun _ _ _ => trivial) fun _ _ _ => trivial

theorem write_hands (terms : Region.Terms) (address : Address) (raw : Bytes) :
    Hands raw (Region.write (σ := σ) terms address raw) := by
  intro guest
  refine (ends_bind _ _ _ _ _).mpr ?_
  have kept : Ends (Region.ensure terms (address.offset + raw.length)) guest
      (fun _ middle => middle.history = guest.history) (fun _ _ => True) := by
    have room := Region.ensure_ends terms (address.offset + raw.length) guest
    rw [Int.natCast_add] at room
    refine room.mono (fun _ middle grown => ?_) fun _ _ _ => trivial
    obtain ⟨pages, _, _, _, rfl⟩ := grown
    rfl
  refine kept.mono (fun _ middle same => ?_) fun _ _ _ => trivial
  refine ends_ite.mpr ?_
  split
  · trivial
  · unfold texts
    rw [← same]
    rfl

theorem place_hands (terms : Region.Terms) (raw : Bytes) :
    Hands raw (Region.place (σ := σ) terms raw) := by
  unfold Region.place Region.allocate
  refine Hands.after ((callAddress_silent _ _).bind fun _ => keeps_pure _) fun view => ?_
  refine Hands.bind ?_ fun _ => keeps_pure _
  unfold Region.writeView
  refine Hands.after (keeps_lift _) fun _ => Hands.after (keeps_lift _) fun address => ?_
  exact write_hands terms address raw

theorem writeEncoded_hands (terms : Region.Terms) (raw : Bytes) :
    Hands raw (Exchange.writeEncoded (σ := σ) terms raw) := by
  refine (place_hands terms raw).bind fun text => ?_
  refine (callWord_silent _ _).bind fun document => ?_
  refine (free_silent terms text).bind fun _ => ?_
  dsimp only
  split
  · exact keeps_throw _
  · exact keeps_pure _

end Instance

namespace Discipline

theorem bindContext_hands (terms : Region.Terms) (data : Address) {input : Value} {raw : Bytes}
    (encoded : Payload.encode input = .ok raw) :
    Hands raw (bindContext (σ := σ) terms data input) := by
  unfold bindContext Exchange.writeValue
  rw [encoded]
  refine Hands.bind (writeEncoded_hands terms raw) fun address => ?_
  refine (callAddress_silent _ _).bind fun context => ?_
  refine (callVoid_silent _ _).bind fun _ => ?_
  exact (callVoid_silent _ _).bind fun _ => keeps_pure _

theorem evaluationText_hands (discipline : Discipline) (terms : Region.Terms)
    (checkpoints : Checkpoints) (entrypoint : Int) (data : Address) {input : Value} {raw : Bytes}
    (encoded : Payload.encode input = .ok raw) :
    Hands raw (evaluationText (σ := σ) discipline terms checkpoints entrypoint data input) := by
  cases discipline with
  | explicitFree =>
    refine Hands.bind (bindContext_hands terms data encoded) fun handle => ?_
    have reads := contextText_silent (σ := σ) .explicitFree terms handle entrypoint
    refine (reads.onFault (closeQuietly_silent _ _ _ _)).bind fun text => ?_
    exact (closeContext_silent _ _ _ handle).bind fun _ => keeps_pure _
  | heapRewind =>
    simp only [evaluationText, encoded, liftReport_ok_bind]
    refine Hands.after (keeps_lift _) fun heap => ?_
    refine Hands.bind (Hands.ensuring ?_ (rewind_silent _)) fun ran => ?_
    · refine Hands.bind (write_hands terms checkpoints.data raw) fun _ => ?_
      refine (callAddress_silent _ _).bind fun result => ?_
      exact (readUntilZero_silent result).bind fun text => keeps_pure _
    · obtain ⟨result, text⟩ := ran
      cases text with
      | some text => exact keeps_pure _
      | none => exact keeps_throw _

end Discipline

/-! ## Both sides -/

namespace Binding

/-- An input that reaches neither a guest nor a server. -/
def Withholds (binding : Binding) (input : Value) (r : Report) : Prop :=
  binding.prepareInput input = .error r ∨
    ∃ value, binding.prepareInput input = .ok value ∧ Payload.encode value = .error r

theorem sent_or_withheld (binding : Binding) (input : Value) :
    (∃ value raw, binding.prepareInput input = .ok value ∧ Payload.encode value = .ok raw) ∨
      ∃ r, binding.Withholds input r := by
  cases prepared : binding.prepareInput input with
  | error r => exact .inr ⟨r, .inl prepared⟩
  | ok value =>
    cases encoded : Payload.encode value with
    | error r => exact .inr ⟨r, .inr ⟨value, prepared, encoded⟩⟩
    | ok raw => exact .inl ⟨value, raw, rfl, encoded⟩

theorem Withholds.kind {binding : Binding} {input : Value} {r : Report}
    (withholds : binding.Withholds input r) : r.kind = .marshaling := by
  obtain refused | ⟨value, _, encoded⟩ := withholds
  · unfold prepareInput at refused
    split at refused
    · cases refused
    · split at refused
      · cases refused
      · cases refused
        rfl
  · exact Payload.encode_error_kind value r encoded

end Binding

namespace Remote.Script

variable {binding : Binding} {input : Value}

/-- An input that is withheld makes no request. -/
theorem call_withheld {r : Report} (withholds : binding.Withholds input r) (client : Client)
    (script : Script) :
    (call client script (.decide binding input)).1 = ⟨.error (.report r), none⟩ := by
  obtain refused | ⟨value, prepared, encoded⟩ := withholds
  · simp [call, Client.exchange, refused]
  · simp [call, Client.exchange, Client.asking, prepared, encoded]

/-- Any other asks the server about its text. -/
theorem call_sent {value : Value} {raw : Bytes} (prepared : binding.prepareInput input = .ok value)
    (encoded : Payload.encode value = .ok raw) {response : Response}
    (success : response.isSuccess = true) (client : Client) (script : Script) :
    let outcome := (call client (.ok response :: script) (.decide binding input)).1
    outcome.result = (readDecision binding.output response).mapError .report ∧
      outcome.request = some ⟨.post, client.dataUrl binding.path, some (Client.question raw)⟩ := by
  simp [call, Client.exchange, Client.asking, prepared, encoded, answer, Exchange.conclude,
    received, success]

end Remote.Script

namespace Host

variable {host : Host σ} {binding : Binding} {input : Value}

/-- The host is ready to decide about an input, and its guest comes to this text
of a result set. -/
structure Answers (host : Host σ) (binding : Binding) (input : Value) (text : Bytes) : Prop where
  usable : host.unusable = none
  free : host.occupied = none
  finds : ∃ id data, host.published binding.path = some id ∧ host.dataset = some data ∧
    ∀ value raw, binding.prepareInput input = .ok value → Payload.encode value = .ok raw →
      Ends (host.discipline.evaluationText host.terms host.checkpoints id data value) host.guest
        (fun found _ => found = text) (fun _ _ => False)

/-- For a binding that takes any input, there is one evaluation to look at. -/
theorem answers_of_any {name path : String} {output : Schema} {text : Bytes} {id : Int}
    (usable : host.unusable = none) (free : host.occupied = none)
    (published : host.published path = some id)
    (finds : host.dataset.any fun data =>
      Ends (host.discipline.evaluationText host.terms host.checkpoints id data input) host.guest
        (fun found _ => found = text) fun _ _ => False) :
    host.Answers ⟨name, path, .any, output⟩ input text := by
  obtain ⟨data, installed, found⟩ := (Option.any_eq_true _ _).mp finds
  refine ⟨usable, free, id, data, published, installed, ?_⟩
  intro value raw prepared _
  have same : input = value := Except.ok.inj prepared
  rw [← same]
  exact of_decide_eq_true found

/-- An input that is withheld leaves the guest as it is. -/
theorem decide_withheld (exclusive : host.Exclusive) {text : Bytes}
    (answers : host.Answers binding input text) {r : Report}
    (withholds : binding.Withholds input r) :
    (outcome (perform (.decide binding input)) host).1 = .error (.report r) ∧
      (outcome (perform (.decide binding input)) host).2.guest = host.guest := by
  obtain refused | ⟨value, prepared, encoded⟩ := withholds
  · have failed : (decide binding input : Operation (Host σ) Value) host =
        .error (.report r) host := by
      unfold decide
      rw [refused]
      rfl
    have whole : perform (.decide binding input) host = .error (.report r) host :=
      bind_of_error failed
    unfold outcome
    rw [whole]
    exact ⟨rfl, rfl⟩
  · obtain ⟨id, data, published, installed, _⟩ := answers.finds
    have failed := Discipline.evaluate_unserializable host.discipline host.terms host.checkpoints
      (normalizePath binding.path) id data value binding.output host.guest r encoded
      (fun _ _ => False) (fun fault after => fault = .report r ∧ after = host.guest) ⟨rfl, rfl⟩
    obtain ⟨fault, after, evaluated, rfl, rfl⟩ := failed.fails
    have whole := eval_outcome exclusive binding.path id value binding.output data answers.usable
      answers.free published installed
    rw [outcome_of_error evaluated] at whole
    rw [perform_decide prepared]
    exact whole

/-- Any other comes to what the text of the result set comes to. -/
theorem decide_sent (exclusive : host.Exclusive) {text : Bytes}
    (answers : host.Answers binding input text) {value : Value} {raw : Bytes}
    (prepared : binding.prepareInput input = .ok value) (encoded : Payload.encode value = .ok raw) :
    (outcome (perform (.decide binding input)) host).1 =
        ((Payload.lastResult text binding.output (normalizePath binding.path)).mapError
          Fault.report).map .value ∧
      (outcome (perform (.decide binding input)) host).2.guest.texts =
        raw :: host.guest.texts := by
  obtain ⟨id, data, published, installed, finds⟩ := answers.finds
  obtain ⟨found, after, returned, same⟩ := (finds value raw prepared encoded).returns
  rw [same] at returned
  have texts := (Discipline.evaluationText_hands host.discipline host.terms host.checkpoints id data
    encoded host.guest).of_ok returned
  have evaluated := Discipline.evaluate_of_text (normalizePath binding.path) binding.output returned
  have whole := eval_outcome exclusive binding.path id value binding.output data answers.usable
    answers.free published installed
  rw [perform_decide prepared, ← texts]
  unfold Discipline.readAt at evaluated
  cases result : Payload.lastResult text binding.output (normalizePath binding.path) with
  | ok v =>
    rw [result] at evaluated
    rw [outcome_of_ok evaluated] at whole
    exact ⟨whole.1, congrArg Instance.texts whole.2⟩
  | error r =>
    rw [result] at evaluated
    rw [outcome_of_error evaluated] at whole
    exact ⟨whole.1, congrArg Instance.texts whole.2⟩

/-- What a host and a client come to is the same value, or a complaint on either
side. -/
inductive SameDecision : Except Fault Answer → Except Fault Remote.Reply → Prop
  | decided (v : Value) (id : Option String) :
    SameDecision (.ok (.value v)) (.ok (.decision ⟨v, id⟩))
  | refused (r r' : Report) (kind : r.kind = .marshaling) (kind' : r'.kind = .marshaling) :
    SameDecision (.error (.report r)) (.error (.report r'))

/-- What a host and a client make of an input. -/
structure Agrees (host : Host σ) (client : Remote.Client) (script : Remote.Script)
    (binding : Binding) (input : Value) : Prop where
  decides : SameDecision (outcome (perform (.decide binding input)) host).1
    (Remote.Script.call client script (.decide binding input)).1.result
  /-- A server is asked about the text that the guest is handed, and only then. -/
  sends : match (Remote.Script.call client script (.decide binding input)).1.request with
    | some request => ∃ text,
        (outcome (perform (.decide binding input)) host).2.guest.texts =
            text :: host.guest.texts ∧
          request.body = some (Remote.Client.question text)
    | none => (outcome (perform (.decide binding input)) host).2.guest = host.guest

/-- A text that a host and a client make the same of: that of a document other than
null that does not fill the stack of a client's reader, or one with a word in it that
neither reader takes, such as a number that is too long. -/
def Common (text : Bytes) : Prop :=
  (∃ d, Json.read text = some d ∧ d ≠ .null ∧ d.depth ≠ 199) ∨
    ∃ chars, Utf8.decode text = some chars ∧ Json.HoldsUnread chars

/-- A result that both find is decided alike, however it is declared. -/
theorem sameDecision {text : Bytes} {schema : Schema} (tidy : schema.Tidy) (name : String)
    (common : Common text) (response : Remote.Response) (body : response.body = resultBody text) :
    SameDecision (((Payload.lastResult (resultSet text) schema name).mapError Fault.report).map
      .value) ((Remote.readDecision schema response).mapError .report) := by
  have refused : (∃ r, Payload.lastResult (resultSet text) schema name = .error r ∧
        r.kind = .marshaling) →
      (∃ r, Remote.readDecision schema response = .error r ∧ r.kind = .marshaling) →
      SameDecision (((Payload.lastResult (resultSet text) schema name).mapError Fault.report).map
        .value) ((Remote.readDecision schema response).mapError .report) := by
    intro here there
    obtain ⟨r, here, kind⟩ := here
    obtain ⟨r', there, kind'⟩ := there
    rw [here, there]
    exact .refused r r' kind kind'
  obtain ⟨d, read, present, room⟩ | ⟨chars, decoded, holds⟩ := common
  · by_cases deep : 198 < d.depth
    · exact refused (Payload.lastResult_deep schema name read deep)
        (Remote.readDecision_deep schema read (by omega) response body)
    · have here := Payload.lastResult_resultSet schema name read (by omega)
      have there := Remote.readDecision_resultBody tidy read present (by omega) response body
      unfold Delivers at here
      cases checked : Strict.check schema d with
      | ok fit =>
        rw [checked] at here there
        rw [here, there]
        exact .decided fit.value none
      | error issues =>
        rw [checked] at here there
        exact refused here there
  · obtain ⟨_, inBody, inSet⟩ := Json.unread_of_holds decoded holds
    rw [← body] at inBody
    exact refused (Payload.lastResult_unread schema name inSet)
      (Remote.readDecision_unread schema response inBody)

/-- A binding is decided alike by a host and by a client, if they find the same
result. -/
theorem decisions_agree {module : Module σ} {builder : Builder} {journal journal' : Journal}
    {host : Host σ} (built : builder.instantiate module journal = .ok host journal')
    (uses : List Use) (expressible : binding.output.Expressible) {text : Bytes}
    (common : Common text) (answers : (run uses host).2.Answers binding input (resultSet text))
    {response : Remote.Response} (success : response.isSuccess = true)
    (body : response.body = resultBody text) (client : Remote.Client) (script : Remote.Script) :
    (run uses host).2.Agrees client (.ok response :: script) binding input := by
  have exclusive : (run uses host).2.Exclusive :=
    (Builder.instantiate_equips built).1.exclusive.run uses
  obtain ⟨value, raw, prepared, encoded⟩ | ⟨r, withholds⟩ := binding.sent_or_withheld input
  · have here := decide_sent exclusive answers prepared encoded
    have there := Remote.Script.call_sent prepared encoded success client script
    have same := sameDecision expressible.tidy (normalizePath binding.path) common response body
    constructor
    · rw [here.1, there.1]
      exact same
    · rw [there.2]
      exact ⟨raw, here.2, rfl⟩
  · have here := decide_withheld exclusive answers withholds
    have there := Remote.Script.call_withheld withholds client (.ok response :: script)
    constructor
    · rw [here.1, there]
      exact .refused r r withholds.kind withholds.kind
    · rw [there]
      exact here.2

/-- The echo of an input is a decision that both make, under the name of a binding
that has a choice of results. -/
theorem decisions_agree_echo :
    Builder.Builds {} Policy.standard.toModule fun host =>
      let binding : Binding := ⟨"Echo", "echo.input", .any, .optional (.list .bool)⟩
      let input : Value := .list [.bool true]
      let text := Utf8.encode "[true]"
      let response : Remote.Response := ⟨200, resultBody text⟩
      binding.output.Expressible ∧
        Common text ∧
        (run [.setData .null] host).2.Answers binding input (resultSet text) ∧
        response.isSuccess = true ∧
        (run [.setData .null] host).2.Agrees (.make "http://localhost:8181" true)
          [.ok response] binding input := by
  have begun : Builder.Builds {} Policy.standard.toModule fun host =>
      let later := (run [.setData .null] host).2
      later.unusable = none ∧ later.occupied = none ∧ later.published "echo.input" = some 0 ∧
        later.dataset.any fun data =>
          Ends (later.discipline.evaluationText later.terms later.checkpoints 0 data
            (.list [.bool true])) later.guest
            (fun found _ => found = resultSet (Utf8.encode "[true]")) fun _ _ => False := by
    decide +kernel
  obtain ⟨host, journal, built, usable, free, published, finds⟩ := begun
  have expressible : (Schema.optional (.list .bool)).Expressible :=
    .optional _ (.list _ .bool)
  have read : Json.read (Utf8.encode "[true]") = some (.array [.bool true]) := rfl
  have answers : (run [.setData .null] host).2.Answers
      ⟨"Echo", "echo.input", .any, .optional (.list .bool)⟩ (.list [.bool true])
      (resultSet (Utf8.encode "[true]")) :=
    answers_of_any usable free published finds
  have present : Document.array [.bool true] ≠ .null := nofun
  have room : (Document.array [.bool true]).depth ≠ 199 := by decide
  have common : Common (Utf8.encode "[true]") := .inl ⟨_, read, present, room⟩
  refine ⟨host, journal, built, expressible, common, answers, rfl, ?_⟩
  exact decisions_agree built [.setData .null] expressible common answers rfl rfl _ _

/-- A result that fills the stack of a client's reader is found by a client alone. -/
theorem parted {text : Bytes} {d : Document} {schema : Schema} (tidy : schema.Tidy)
    (name : String) (read : Json.read text = some d) (full : d.depth = 199) {fit : Fit Value}
    (fits : Strict.check schema d = .ok fit) (response : Remote.Response)
    (body : response.body = resultBody text) :
    (∃ r, Payload.lastResult (resultSet text) schema name = .error r ∧ r.kind = .marshaling) ∧
      Remote.readDecision schema response = .ok (.decision ⟨fit.value, none⟩) := by
  have present : d ≠ .null := by
    intro same
    simp [same, Document.depth] at full
  have there := Remote.readDecision_resultBody tidy read present (by omega) response body
  rw [fits] at there
  exact ⟨Payload.lastResult_deep schema name read (by omega), there⟩

end Host

def listedText (n : Nat) : Bytes :=
  List.replicate n 0x5b ++ [0x31] ++ List.replicate n 0x5d

/-- The standard policy, which answers with a number in 199 lists. -/
def Policy.listed : Policy :=
  { standard with rules := [⟨0, [], answering (.text (listedText 199))⟩] }

namespace Host

/-- There, a client makes a decision and a host does not. -/
theorem decisions_part :
    Builder.Builds {} Policy.listed.toModule fun host =>
      let binding : Binding := ⟨"Listed", "echo/input", .any, .any⟩
      let response : Remote.Response := ⟨200, resultBody (listedText 199)⟩
      let client := Remote.Client.make "http://localhost:8181" true
      (∃ d, Json.read (listedText 199) = some d ∧ d ≠ .null) ∧
        (run [.setData .null] host).2.Answers binding .null (resultSet (listedText 199)) ∧
        response.isSuccess = true ∧
        (∃ r, (outcome (perform (.decide binding .null)) (run [.setData .null] host).2).1 =
          .error (.report r) ∧ r.kind = .marshaling) ∧
        ∃ v, (Remote.Script.call client [.ok response] (.decide binding .null)).1.result =
          .ok (.decision ⟨v, none⟩) := by
  have begun : Builder.Builds {} Policy.listed.toModule fun host =>
      let later := (run [.setData .null] host).2
      later.unusable = none ∧ later.occupied = none ∧ later.published "echo/input" = some 0 ∧
        later.dataset.any fun data =>
          Ends (later.discipline.evaluationText later.terms later.checkpoints 0 data .null)
            later.guest (fun found _ => found = resultSet (listedText 199)) fun _ _ => False := by
    decide +kernel
  obtain ⟨host, journal, built, usable, free, published, finds⟩ := begun
  have depth : (Json.read (listedText 199)).any fun d => d.depth = 199 := by
    decide +kernel
  obtain ⟨d, read, full⟩ := Option.any_eq_true _ _ |>.mp depth
  have full : d.depth = 199 := of_decide_eq_true full
  have answers : (run [.setData .null] host).2.Answers ⟨"Listed", "echo/input", .any, .any⟩ .null
      (resultSet (listedText 199)) :=
    answers_of_any usable free published finds
  have present : d ≠ .null := by
    intro same
    simp [same, Document.depth] at full
  have exclusive := (Builder.instantiate_equips built).1.exclusive.run [.setData .null]
  have prepared : Binding.prepareInput ⟨"Listed", "echo/input", .any, .any⟩ .null = .ok .null := rfl
  have encoded : Payload.encode .null = .ok (Utf8.encode "null") := rfl
  have success : ∀ bytes, Remote.Response.isSuccess ⟨200, bytes⟩ = true := fun _ => rfl
  have fits : Strict.check .any d = .ok ⟨d.value, .close, none⟩ := by
    simp [Strict.check, Checked.fits]
  obtain ⟨⟨r, refused, kind⟩, decided⟩ := parted (Schema.Expressible.any.tidy)
    (normalizePath "echo/input") read full fits ⟨200, resultBody (listedText 199)⟩ rfl
  refine ⟨host, journal, built, ⟨d, read, present⟩, answers, success _, ⟨r, ?_, kind⟩, d.value, ?_⟩
  · rw [(decide_sent exclusive answers prepared encoded).1, refused]
    rfl
  · have sent := Remote.Script.call_sent prepared encoded (success (resultBody (listedText 199)))
      (.make "http://localhost:8181" true) []
    exact sent.1.trans (congrArg (Except.mapError Fault.report) decided)

end Host
end PolicyHost
