import PolicyHost.Proofs.Conduct
import PolicyHost.Proofs.Encoding

namespace PolicyHost

/-!
# Cleaning up, and what can go wrong

An evaluation cleans up after itself, and that may fail as well.  Which failure
came first can only be said of an evaluation that stops there, so the cleaning
is made a parameter of the evaluation here.

What an operation on a guest can fail with is followed along its text once,
with any cleaning, and for any kind of fault that covers what guest calls, the
memory bound and documents can bring about.
-/

variable {σ α β : Type}

/-- What is done to clean up after a part of an operation: however the part
ends, or only if it fails. -/
structure Cleaning (S : Type) where
  ensuring : {α : Type} → Operation S α → Operation S Unit → Operation S α
  onFault : {α : Type} → Operation S α → Operation S Unit → Operation S α

namespace Cleaning

/-- The host cleans up after failures too. -/
def always {S : Type} : Cleaning S := ⟨Operation.ensuring, Operation.onFault⟩

/-- Nothing is done any more once something failed. -/
def onSuccess {S : Type} : Cleaning S where
  ensuring operation cleanup := do
    let a ← operation
    cleanup
    return a
  onFault operation _ := operation

end Cleaning

namespace Discipline

/-- Evaluate an entrypoint in an open context, cleaning up like this. -/
def contextEvalWith (cleaning : Cleaning (Instance σ)) (discipline : Discipline)
    (terms : Region.Terms) (handle : Handle) (name : String) (entrypoint : Int) (schema : Schema) :
    Operation (Instance σ) Value :=
  match discipline with
  | explicitFree => do
    let result ← runContext handle entrypoint
    let raw ← cleaning.ensuring (Exchange.readRaw terms result) (Region.free terms result)
    Operation.liftReport (Payload.lastResult raw schema name)
  | heapRewind => do
    let saved ← Region.heapPointer
    let raw ← cleaning.ensuring
      (do Exchange.readRaw terms (← runContext handle entrypoint)) (Region.rewind saved)
    Operation.liftReport (Payload.lastResult raw schema name)

/-- Evaluate one entrypoint on its own, cleaning up like this. -/
def evaluateWith (cleaning : Cleaning (Instance σ)) (discipline : Discipline)
    (terms : Region.Terms) (checkpoints : Checkpoints) (name : String) (entrypoint : Int)
    (data : Address) (input : Value) (schema : Schema) : Operation (Instance σ) Value :=
  match discipline with
  | explicitFree => do
    let handle ← openContext discipline terms checkpoints data input
    let result ← cleaning.onFault
      (contextEvalWith cleaning discipline terms handle name entrypoint schema)
      (closeQuietly discipline terms checkpoints handle)
    closeContext discipline terms checkpoints handle
    return result
  | heapRewind => do
    let raw ← Operation.liftReport (Payload.encode input)
    let heap ← Operation.lift (checkpoints.data.advance raw.length)
    let (result, text) ← cleaning.ensuring
      (do
        Region.write terms checkpoints.data raw
        let result ← Instance.callAddress "opa_eval"
          (evalArguments entrypoint data checkpoints.data raw.length heap)
        return (result, ← Region.readUntilZero result))
      (Region.rewind checkpoints.data)
    match text with
    | some text => Operation.liftReport (Payload.lastResult text schema name)
    | none => Operation.report (Exchange.unterminated "result set" "result" result)

theorem contextEvalWith_always (discipline : Discipline) (terms : Region.Terms) (handle : Handle)
    (name : String) (entrypoint : Int) (schema : Schema) :
    discipline.contextEvalWith (σ := σ) .always terms handle name entrypoint schema =
      discipline.contextEval terms handle name entrypoint schema := by
  cases discipline <;> rfl

theorem evaluateWith_always (discipline : Discipline) (terms : Region.Terms)
    (checkpoints : Checkpoints) (name : String) (entrypoint : Int) (data : Address) (input : Value)
    (schema : Schema) :
    discipline.evaluateWith (σ := σ) .always terms checkpoints name entrypoint data input schema =
      discipline.evaluate terms checkpoints name entrypoint data input schema := by
  cases discipline <;> rfl

end Discipline

namespace Payload

/-- A value that cannot be encoded is reported as such. -/
theorem encode_error_kind (value : Value) (r : Report) (failed : encode value = .error r) :
    r.kind = .marshaling := by
  unfold encode at failed
  cases written : Json.write value with
  | none =>
    rw [written] at failed
    cases failed
    rfl
  | some bytes =>
    rw [written] at failed
    cases failed

/-- A document that cannot be read is reported as such. -/
theorem decode_error_kind (raw : Bytes) (schema : Schema) (r : Report)
    (failed : decode raw schema = .error r) : r.kind = .marshaling := by
  unfold decode at failed
  split at failed <;> cases failed
  rfl

/-- A result set that cannot be read is reported as such. -/
theorem lastResult_error_kind (raw : Bytes) (schema : Schema) (name : String) (r : Report)
    (failed : lastResult raw schema name = .error r) : r.kind.isA .marshaling = true := by
  unfold lastResult at failed
  split at failed
  · rename_i decoded
    cases failed
    rw [decode_error_kind _ _ _ decoded]
    rfl
  · split at failed <;> cases failed
    rfl
  · cases failed
    rfl

end Payload

namespace Instance

theorem Later.equips {discipline : Discipline} {start guest : Instance σ}
    (later : Later start guest) (equipped : discipline.Equips start.module) :
    discipline.Equips guest.module := by
  rwa [later.module_eq]

/-- A call that did not come back, and what its caller is told.  The export takes
another number of arguments, or the code that was entered says why. -/
inductive Breaks (name : String) (arguments : List Int) (fault : Fault)
    (guest after : Instance σ) : Prop
  | miscounted (count : guest.module.find? name ≠ some (.function arguments.length))
    (told : fault = .report (Report.trapped name engineText))
  | fatal (entered : Entered name (arguments.map UInt32.ofInt) guest after)
    (told : (guest.callEnding name (arguments.map UInt32.ofInt)).Fatal name fault)

/-- A call that fails was made in vain because the guest was closed before, or it
breaks. -/
theorem call_told (guest : Instance σ) (name : String) (arguments : List Int)
    (exported : guest.module.hasFunction name = true) :
    Operation.Ends (call name arguments) guest (fun _ _ => True)
      (fun fault after =>
        (guest.trapped = true ∧ fault = .report (closedReport name)) ∨
          Breaks name arguments fault guest after) := by
  refine (call_cases guest name arguments).mono (fun _ _ _ => trivial) ?_
  rintro fault after (⟨_, reason⟩ | ⟨_, ⟨arity, found, count⟩, _, _, told⟩ | ⟨entered, _, ended⟩)
  · exact Or.inl (reason exported)
  · refine Or.inr (.miscounted (fun same => count ?_) told)
    cases found.symm.trans same
    rfl
  · refine Or.inr (.fatal entered ?_)
    rcases ended with ⟨ended, rfl⟩ | ended
    · rw [ended]
      rfl
    · rw [ended]
      rfl

end Instance

namespace Operation

open Instance

/-- From every guest like this, the operation returns and leaves such a guest, or
it fails with a fault of this kind.  Time goes on meanwhile. -/
def OnlyFails (like : Instance σ → Prop) (kind : Fault → Instance σ → Prop)
    (operation : Operation (Instance σ) α) : Prop :=
  ∀ guest, like guest →
    Ends operation guest (fun _ after => like after ∧ Later guest after)
      (fun fault after => kind fault after ∧ Later guest after)

variable {like : Instance σ → Prop} {kind : Fault → Instance σ → Prop}
variable {operation : Operation (Instance σ) α} {next : α → Operation (Instance σ) β}

theorem onlyFails_pure (a : α) : OnlyFails like kind (pure a : Operation (Instance σ) α) :=
  fun guest held => ⟨held, refl guest⟩

theorem onlyFails_throw (fault : Fault) (known : ∀ guest, like guest → kind fault guest) :
    OnlyFails like kind (throw fault : Operation (Instance σ) α) :=
  fun guest held => ⟨known guest held, refl guest⟩

theorem onlyFails_liftReport (result : Except Report α)
    (known : ∀ r guest, result = .error r → like guest → kind (.report r) guest) :
    OnlyFails like kind (liftReport result : Operation (Instance σ) α) := by
  intro guest held
  rw [ends_liftReport]
  cases result with
  | ok a => exact ⟨held, refl guest⟩
  | error r => exact ⟨known r guest rfl held, refl guest⟩

/-- What was done meanwhile counts as done since an earlier guest. -/
theorem OnlyFails.since (fails : OnlyFails like kind operation) {start middle : Instance σ}
    (held : like middle) (before : Later start middle) :
    Ends operation middle (fun _ after => like after ∧ Later start after)
      (fun fault after => kind fault after ∧ Later start after) :=
  (fails middle held).mono (fun _ _ done => ⟨done.1, IsTrans.trans _ _ _ before done.2⟩)
    (fun _ _ failed => ⟨failed.1, IsTrans.trans _ _ _ before failed.2⟩)

theorem OnlyFails.bind (first : OnlyFails like kind operation)
    (second : ∀ a, OnlyFails like kind (next a)) : OnlyFails like kind (operation >>= next) := by
  intro guest held
  rw [ends_bind]
  apply (first guest held).mono _ fun _ _ failed => failed
  intro a middle done
  exact (second a).since done.1 done.2

end Operation

open Instance Operation

/-- The exports that answer with a word. -/
def Instance.replying : List String :=
  ["opa_malloc", "opa_json_parse", "opa_json_dump", "opa_heap_ptr_get", "opa_eval_ctx_new",
    "opa_eval_ctx_get_result", "opa_eval"]

/-- A kind of fault that covers whatever goes wrong when a host uses a guest like
this under a discipline, cleaning up like that. -/
structure Covers (cleaning : Cleaning (Instance σ)) (discipline : Discipline)
    (like : Instance σ → Prop) (kind : Fault → Instance σ → Prop) : Prop where
  call : ∀ name arguments, (name, arguments.length) ∈ abi → name ∈ discipline.requiredExports →
    OnlyFails like kind (call name arguments)
  callWord : ∀ name arguments, (name, arguments.length) ∈ abi →
    name ∈ discipline.requiredExports → name ∈ replying →
    OnlyFails like kind (callWord name arguments)
  written : ∀ guest memory address bytes, guest.memory.Leads memory → like guest →
    like { guest with memory, history := .write address bytes :: guest.history }
  logged : ∀ guest journal, like guest → like { guest with journal }
  /-- Documents that cannot be converted and memory that cannot be had. -/
  own : ∀ fault guest, fault.isA .marshaling = true ∨ fault.isA .guestMemory = true →
    like guest → kind fault guest
  ensuring : ∀ {α : Type} (operation : Operation (Instance σ) α)
    (cleanup : Operation (Instance σ) Unit), OnlyFails like kind operation →
    OnlyFails like kind cleanup → OnlyFails like kind (cleaning.ensuring operation cleanup)
  onFault : ∀ {α : Type} (operation : Operation (Instance σ) α) (terms : Region.Terms)
    (checkpoints : Checkpoints) (handle : Handle), OnlyFails like kind operation →
    OnlyFails like kind
      (cleaning.onFault operation (discipline.closeQuietly terms checkpoints handle))

namespace Covers

variable {cleaning : Cleaning (Instance σ)} {discipline : Discipline}
variable {like : Instance σ → Prop} {kind : Fault → Instance σ → Prop}
variable (covers : Covers cleaning discipline like kind) (maxPages : Option Nat)
include covers

/-- A payload that does not pass the boundary. -/
theorem marshaling (r : Report) (guest : Instance σ) (known : r.kind.isA .marshaling = true)
    (held : like guest) : kind (.report r) guest :=
  covers.own (.report r) guest (Or.inl known) held

theorem callVoid (name : String) (arguments : List Int) (listed : (name, arguments.length) ∈ abi)
    (required : name ∈ discipline.requiredExports) :
    OnlyFails like kind (Instance.callVoid name arguments) :=
  (covers.call name arguments listed required).bind fun _ => onlyFails_pure _

theorem callAddress (name : String) (arguments : List Int)
    (listed : (name, arguments.length) ∈ abi) (required : name ∈ discipline.requiredExports)
    (replies : name ∈ replying) : OnlyFails like kind (Instance.callAddress name arguments) :=
  (covers.callWord name arguments listed required replies).bind fun _ => onlyFails_pure _

theorem log (logger : String) (level : Logging.Level) (text : String) :
    OnlyFails like kind (Instance.log logger level text) :=
  fun guest held => ⟨covers.logged guest _ held, tracks_later.logged guest _⟩

theorem write (terms : Region.Terms) (address : Address) (bytes : Bytes) (nonempty : bytes ≠ []) :
    OnlyFails like kind (Region.write terms address bytes) := by
  intro guest held
  refine ((tracks_later.write terms address bytes guest).and
    ((Region.write_ends terms address bytes guest nonempty).and
      (Region.write_leads terms address bytes guest))).mono ?_ ?_
  · rintro _ after ⟨later, _, memory, leads, rfl⟩
    exact ⟨covers.written guest memory address bytes leads held, later⟩
  · rintro fault after ⟨later, ⟨refused, rfl⟩, _⟩
    exact ⟨covers.own fault after (Or.inr refused) held, later⟩

theorem free (address : Address) :
    OnlyFails like kind (Region.free (discipline.terms maxPages) address) := by
  cases discipline with
  | explicitFree =>
    rw [Region.free_eq _ _ rfl]
    exact covers.callVoid "opa_free" _ (by simp [abi]) (by decide)
  | heapRewind =>
    rw [Region.free_eq_pure _ _ rfl]
    exact onlyFails_pure _

theorem place (bytes : Bytes) (nonempty : bytes ≠ []) :
    OnlyFails like kind (Region.place (discipline.terms maxPages) bytes) := by
  have required : "opa_malloc" ∈ discipline.requiredExports := by cases discipline <;> decide
  have allocates := covers.callAddress "opa_malloc" [bytes.length] (by simp [abi]) required
    (by decide)
  intro guest held
  unfold Region.place Region.allocate
  rw [ends_bind, ends_bind]
  apply (allocates guest held).mono _ fun _ _ failed => failed
  intro address allocated done
  rw [ends_pure, ends_bind, Region.writeView_eq]
  exact (covers.write _ address bytes nonempty).since done.1 done.2

theorem writeEncoded (raw : Bytes) (nonempty : raw ≠ []) :
    OnlyFails like kind (Exchange.writeEncoded (discipline.terms maxPages) raw) := by
  have required : "opa_json_parse" ∈ discipline.requiredExports := by cases discipline <;> decide
  refine (covers.place maxPages raw nonempty).bind fun text => ?_
  refine (covers.callWord _ _ (by simp [abi]) required (by decide)).bind fun document => ?_
  refine (covers.free maxPages text).bind fun _ => ?_
  dsimp only
  split
  · exact onlyFails_throw _ fun guest held => covers.marshaling _ guest rfl held
  · exact onlyFails_pure _

theorem readRaw (document : Address) :
    OnlyFails like kind (Exchange.readRaw (discipline.terms maxPages) document) := by
  have required : "opa_json_dump" ∈ discipline.requiredExports := by cases discipline <;> decide
  refine (covers.callAddress _ _ (by simp [abi]) required (by decide)).bind fun text => ?_
  refine OnlyFails.bind ?_ fun raw => ?_
  · -- The text is only looked for, so that the release is all that can fail.
    intro guest held
    rw [ends_ensuring]
    exact (covers.free maxPages text guest held).mono (fun _ _ done => done)
      (fun _ _ failed => failed)
  · cases raw with
    | some raw => exact onlyFails_pure raw
    | none => exact onlyFails_throw _ fun guest held => covers.marshaling _ guest rfl held

theorem setHeapPointer (address : Address) (rewinding : discipline = .heapRewind) :
    OnlyFails like kind (Region.setHeapPointer address) := by
  subst rewinding
  exact covers.callVoid _ _ (by simp [abi]) (by decide)

theorem heapPointer (rewinding : discipline = .heapRewind) :
    OnlyFails like kind (Region.heapPointer (σ := σ)) := by
  subst rewinding
  exact covers.callAddress _ _ (by simp [abi]) (by decide) (by decide)

theorem takeCheckpoints : OnlyFails like kind (discipline.takeCheckpoints (σ := σ)) := by
  cases discipline with
  | explicitFree => exact onlyFails_pure _
  | heapRewind =>
    exact (covers.heapPointer rfl).bind fun _ => (covers.log _ _ _).bind fun _ => onlyFails_pure _

theorem rewind (address : Address) (rewinding : discipline = .heapRewind) :
    OnlyFails like kind (Region.rewind address) := by
  intro guest held
  unfold Ends Region.rewind
  cases guest.trapped with
  | true => exact ⟨held, refl guest⟩
  | false => exact covers.setHeapPointer address rewinding guest held

theorem installData (checkpoints : Checkpoints) (previous : Option Address) (raw : Bytes)
    (nonempty : raw ≠ []) :
    OnlyFails like kind
      (discipline.installData (discipline.terms maxPages) checkpoints previous raw) := by
  have writes := covers.writeEncoded maxPages raw nonempty
  cases discipline with
  | explicitFree =>
    have written : OnlyFails like kind (do
        return (← Exchange.writeEncoded (Discipline.explicitFree.terms maxPages) raw,
          checkpoints)) := writes.bind fun _ => onlyFails_pure _
    cases previous with
    | none => exact written
    | some address => exact (covers.free maxPages address).bind fun _ => written
  | heapRewind =>
    refine (covers.setHeapPointer _ rfl).bind fun _ => writes.bind fun document => ?_
    exact (covers.heapPointer rfl).bind fun _ => onlyFails_pure _

theorem encode (value : Value) : OnlyFails like kind
    (liftReport (Payload.encode value) : Operation (Instance σ) Bytes) := by
  refine onlyFails_liftReport _ fun r guest failed held => covers.marshaling r guest ?_ held
  rw [Payload.encode_error_kind value r failed]
  decide

theorem lastResult (raw : Bytes) (schema : Schema) (name : String) : OnlyFails like kind
    (liftReport (Payload.lastResult raw schema name) : Operation (Instance σ) Value) :=
  onlyFails_liftReport _ fun r guest failed held =>
    covers.marshaling r guest (Payload.lastResult_error_kind raw schema name r failed) held

theorem encoded {next : Bytes → Operation (Instance σ) α} (value : Value)
    (then_ : ∀ raw, Payload.encode value = .ok raw → OnlyFails like kind (next raw)) :
    OnlyFails like kind (liftReport (Payload.encode value) >>= next) := by
  cases encoded : Payload.encode value with
  | ok raw => exact then_ raw encoded
  | error r =>
    have fails := covers.encode value
    rw [encoded] at fails
    exact fails

theorem bindContext (data : Address) (input : Value) :
    OnlyFails like kind
      (Discipline.bindContext (discipline.terms maxPages) data input) := by
  have required : ["opa_eval_ctx_new", "opa_eval_ctx_set_input", "opa_eval_ctx_set_data"] ⊆
      discipline.requiredExports := by cases discipline <;> decide
  refine OnlyFails.bind ?_ fun input => ?_
  · exact covers.encoded input fun raw same =>
      covers.writeEncoded maxPages raw (Payload.encode_ne_nil input raw same)
  refine (covers.callAddress _ _ (by simp [abi]) (required (by decide)) (by decide)).bind
    fun context => ?_
  refine (covers.callVoid _ _ (by simp [abi]) (required (by decide))).bind fun _ => ?_
  exact (covers.callVoid _ _ (by simp [abi]) (required (by decide))).bind fun _ =>
    onlyFails_pure _

theorem openContext (checkpoints : Checkpoints) (data : Address) (input : Value) :
    OnlyFails like kind
      (discipline.openContext (discipline.terms maxPages) checkpoints data input) := by
  have binds := covers.bindContext maxPages data input
  cases discipline with
  | explicitFree => exact binds
  | heapRewind => exact (covers.setHeapPointer _ rfl).bind fun _ => binds

theorem runContext (handle : Handle) (entrypoint : Int) :
    OnlyFails like kind (Discipline.runContext handle entrypoint) := by
  have required : ["opa_eval_ctx_set_entrypoint", "eval", "opa_eval_ctx_get_result"] ⊆
      discipline.requiredExports := by cases discipline <;> decide
  refine (covers.callVoid _ _ (by simp [abi]) (required (by decide))).bind fun _ => ?_
  refine (covers.callVoid _ _ (by simp [abi]) (required (by decide))).bind fun _ => ?_
  exact covers.callAddress _ _ (by simp [abi]) (required (by decide)) (by decide)

theorem contextEvalWith (handle : Handle) (name : String) (entrypoint : Int) (schema : Schema) :
    OnlyFails like kind (discipline.contextEvalWith cleaning (discipline.terms maxPages) handle
      name entrypoint schema) := by
  have runs := covers.runContext handle entrypoint
  have reads := covers.readRaw maxPages
  have frees := covers.free maxPages
  cases discipline with
  | explicitFree =>
    refine runs.bind fun result => ?_
    exact (covers.ensuring _ _ (reads result) (frees result)).bind fun raw =>
      covers.lastResult raw schema name
  | heapRewind =>
    refine (covers.heapPointer rfl).bind fun saved => ?_
    exact (covers.ensuring _ _ (runs.bind reads) (covers.rewind saved rfl)).bind fun raw =>
      covers.lastResult raw schema name

theorem closeContext (checkpoints : Checkpoints) (handle : Handle) :
    OnlyFails like kind
      (discipline.closeContext (discipline.terms maxPages) checkpoints handle) := by
  have frees := covers.free maxPages
  cases discipline with
  | explicitFree => exact (frees _).bind fun _ => frees _
  | heapRewind => exact covers.setHeapPointer _ rfl

/-- A single evaluation.  Under the rewinding discipline its input may end past
the last address. -/
theorem evaluateWith (checkpoints : Checkpoints) (name : String) (entrypoint : Int)
    (data : Address) (input : Value) (schema : Schema)
    (far : ∀ raw fault guest, discipline = .heapRewind → Payload.encode input = .ok raw →
      checkpoints.data.advance raw.length = .error fault → like guest → kind fault guest) :
    OnlyFails like kind (discipline.evaluateWith cleaning (discipline.terms maxPages) checkpoints
      name entrypoint data input schema) := by
  have opens := covers.openContext maxPages checkpoints data input
  have evaluates := covers.contextEvalWith maxPages
  have closes := covers.closeContext maxPages checkpoints
  have cleans := fun handle => covers.onFault _ (discipline.terms maxPages) checkpoints handle
    (evaluates handle name entrypoint schema)
  cases discipline with
  | explicitFree =>
    refine opens.bind fun handle => (cleans handle).bind fun result => ?_
    exact (closes handle).bind fun _ => onlyFails_pure _
  | heapRewind =>
    refine covers.encoded input fun raw same => OnlyFails.bind ?_ fun heap => ?_
    · intro guest held
      rw [ends_lift]
      cases advanced : checkpoints.data.advance raw.length with
      | ok heap => exact ⟨held, refl guest⟩
      | error fault => exact ⟨far raw fault guest rfl same advanced held, refl guest⟩
    refine OnlyFails.bind ?_ fun found => ?_
    · refine covers.ensuring _ _ ?_ (covers.rewind _ rfl)
      refine (covers.write _ _ raw (Payload.encode_ne_nil input raw same)).bind fun _ => ?_
      refine (covers.callAddress _ _ (by simp [abi, Discipline.evalArguments]) (by decide)
        (by decide)).bind fun result => ?_
      exact OnlyFails.bind (fun guest held => ⟨held, refl guest⟩) fun _ => onlyFails_pure _
    · rcases found with ⟨result, text⟩
      cases text with
      | some text => exact covers.lastResult text schema name
      | none => exact onlyFails_throw _ fun guest held => covers.marshaling _ guest rfl held

end Covers

namespace Operation

variable {like : Instance σ → Prop} {kind : Fault → Instance σ → Prop}

/-- A function that answers with nothing is called for a word in vain. -/
theorem OnlyFails.word {name : String} {arguments : List Int}
    (fails : OnlyFails like kind (call name arguments))
    (speechless : ∀ guest, like guest → kind .badType guest) :
    OnlyFails like kind (callWord name arguments) := by
  refine fails.bind fun result => ?_
  cases result with
  | some word => exact onlyFails_pure word
  | none => exact onlyFails_throw _ speechless

end Operation

/-- Cleaning up after failures goes on with the guest that the failure left, so
that both what guests are like and what a fault is known by have to last. -/
theorem Covers.always {discipline : Discipline} {like : Instance σ → Prop}
    {kind : Fault → Instance σ → Prop}
    (call : ∀ name arguments, (name, arguments.length) ∈ abi →
      name ∈ discipline.requiredExports → OnlyFails like kind (Instance.call name arguments))
    (callWord : ∀ name arguments, (name, arguments.length) ∈ abi →
      name ∈ discipline.requiredExports → name ∈ replying →
      OnlyFails like kind (Instance.callWord name arguments))
    (own : ∀ fault guest, fault.isA .marshaling = true ∨ fault.isA .guestMemory = true →
      like guest → kind fault guest)
    (stays : ∀ before after, like before → Later before after → like after)
    (lasts : ∀ fault before after, kind fault before → Later before after → kind fault after) :
    Covers .always discipline like kind where
  call := call
  callWord := callWord
  written guest memory address bytes leads held :=
    stays _ _ held (tracks_later.written guest memory address bytes leads)
  logged guest journal held := stays _ _ held (tracks_later.logged guest journal)
  own := own
  ensuring operation cleanup fails cleans := by
    intro guest held
    change Ends (Operation.ensuring operation cleanup) guest _ _
    rw [ends_ensuring]
    apply (fails guest held).mono
    · intro a middle done
      exact cleans.since done.1 done.2
    · intro fault middle failed
      obtain ⟨known, before⟩ := failed
      exact (cleans middle (stays _ _ held before)).mono
        (fun _ _ done => ⟨lasts _ _ _ known done.2, IsTrans.trans _ _ _ before done.2⟩)
        (fun _ _ failed => ⟨failed.1, IsTrans.trans _ _ _ before failed.2⟩)
  onFault operation terms checkpoints handle fails := by
    intro guest held
    change Ends (Operation.onFault operation _) guest _ _
    rw [ends_onFault]
    refine (fails guest held).mono (fun _ _ done => done) ?_
    rintro fault middle ⟨known, before⟩
    refine (tracks_later.closeQuietly_returns discipline terms checkpoints handle middle).mono
      (fun _ _ later => ⟨lasts _ _ _ known later, IsTrans.trans _ _ _ before later⟩)
      (fun _ _ => False.elim)

theorem Instance.call_onlyFails {start : Instance σ} {kind : Fault → Instance σ → Prop}
    (name : String) (arguments : List Int) (listed : (name, arguments.length) ∈ abi)
    (exported : start.module.hasFunction name = true)
    (closed : ∀ guest, Later start guest → kind (.report (closedReport name)) guest)
    (breaks : ∀ fault guest after, Later start guest → Later guest after →
      Breaks name arguments fault guest after → kind fault after) :
    OnlyFails (Later start) kind (Instance.call name arguments) := by
  intro guest since
  have exported' : guest.module.hasFunction name = true := by rwa [since.module_eq]
  apply ((tracks_later.call name arguments listed (fun _ => trivial) guest).and
    (call_told guest name arguments exported')).mono
  · intro answer after done
    exact ⟨IsTrans.trans _ _ _ since done.1, done.1⟩
  · intro fault after failed
    obtain ⟨later, ⟨_, rfl⟩ | broke⟩ := failed
    · exact ⟨closed after (IsTrans.trans _ _ _ since later), later⟩
    · exact ⟨breaks fault guest after since later broke, later⟩

/-- A kind of fault that lasts covers everything if it covers the calls that break
and the calls of a guest that is closed. -/
theorem Covers.told {discipline : Discipline} {start : Instance σ}
    {kind : Fault → Instance σ → Prop} (equipped : discipline.Equips start.module)
    (closed : ∀ name guest, Later start guest → kind (.report (closedReport name)) guest)
    (breaks : ∀ name arguments fault guest after, Later start guest → Later guest after →
      Breaks name arguments fault guest after → kind fault after)
    (speechless : ∀ guest, Later start guest → kind .badType guest)
    (own : ∀ fault guest, fault.isA .marshaling = true ∨ fault.isA .guestMemory = true →
      Later start guest → kind fault guest)
    (lasts : ∀ fault before after, kind fault before → Later before after → kind fault after) :
    Covers .always discipline (Later start) kind := by
  have calls : ∀ (name : String) (arguments : List Int), (name, arguments.length) ∈ abi →
      name ∈ discipline.requiredExports →
      OnlyFails (Later start) kind (Instance.call name arguments) :=
    fun name arguments listed required =>
      call_onlyFails name arguments listed (equipped name required) (closed name)
        (breaks name arguments)
  apply Covers.always calls
  · exact fun name arguments listed required _ => (calls name arguments listed required).word
      speechless
  · exact own
  · exact fun before after since later => IsTrans.trans _ _ _ since later
  · exact lasts

/-- A guest at a later time that was not lost meanwhile. -/
def Instance.Going (start guest : Instance σ) : Prop := Later start guest ∧ guest.trapped = false

theorem Instance.Going.later {start guest after : Instance σ} (going : Going start guest)
    (later : Later guest after) (usable : after.trapped = false) : Going start after :=
  ⟨IsTrans.trans _ _ _ going.1 later, usable⟩

/-- If nothing is done after a failure, the guest goes on until then, and a call
that fails is the last. -/
theorem Covers.going {discipline : Discipline} {start : Instance σ}
    {kind : Fault → Instance σ → Prop} (equipped : discipline.Equips start.module)
    (breaks : ∀ name arguments fault guest after, Going start guest → Later guest after →
      (name, arguments.length) ∈ abi → Breaks name arguments fault guest after → kind fault after)
    (others : ∀ fault guest, fault = .badType ∨ fault.isA .marshaling = true ∨
      fault.isA .guestMemory = true → Going start guest → kind fault guest) :
    Covers .onSuccess discipline (Going start) kind := by
  have calls : ∀ (name : String) (arguments : List Int), (name, arguments.length) ∈ abi →
      name ∈ discipline.requiredExports →
      OnlyFails (Going start) kind (Instance.call name arguments) := by
    intro name arguments listed required guest going
    have exported := going.1.equips equipped name required
    apply ((tracks_later.call name arguments listed (fun _ => trivial) guest).and
      ((call_open guest name arguments exported going.2).and
        (call_told guest name arguments exported))).mono
    · intro answer after done
      obtain ⟨later, ⟨_, stayed, _⟩, _⟩ := done
      exact ⟨going.later later stayed, later⟩
    · intro fault after failed
      obtain ⟨later, _, ⟨closed, _⟩ | broke⟩ := failed
      · exact nomatch closed.symm.trans going.2
      · exact ⟨breaks name arguments fault guest after going later listed broke, later⟩
  constructor
  case call => exact calls
  case callWord =>
    exact fun name arguments listed required _ => (calls name arguments listed required).word
      fun guest going => others _ guest (Or.inl rfl) going
  case written =>
    exact fun guest memory address bytes leads going =>
      going.later (tracks_later.written guest memory address bytes leads) going.2
  case logged =>
    exact fun guest journal going => going.later (tracks_later.logged guest journal) going.2
  case own => exact fun fault guest known => others fault guest (Or.inr known)
  case ensuring =>
    exact fun _ _ fails cleans => fails.bind fun _ => cleans.bind fun _ => onlyFails_pure _
  case onFault => exact fun _ _ _ _ fails => fails

end PolicyHost
