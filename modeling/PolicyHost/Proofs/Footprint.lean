import PolicyHost.Proofs.Lockstep
import PolicyHost.Proofs.Pages

namespace PolicyHost

/-!
# What the host does to a guest

Whatever a guest does, the host only enters its exports, writes into its
memory, and writes records.  A relation between the guest before and after that
these three respect is respected by every operation.  Only the exports that are
given a dataset or run the policy are told apart, so that it can be said which
operations use them, and how.
-/

variable {σ α : Type}

namespace Instance

/-- The exports that the host enters, with the number of arguments it passes. -/
def abi : List (String × Nat) :=
  [("entrypoints", 0), ("opa_malloc", 1), ("opa_free", 1), ("opa_json_parse", 2),
    ("opa_json_dump", 1), ("opa_heap_ptr_get", 0), ("opa_heap_ptr_set", 1),
    ("opa_eval_ctx_new", 0), ("opa_eval_ctx_set_input", 2), ("opa_eval_ctx_set_data", 2),
    ("opa_eval_ctx_set_entrypoint", 2), ("opa_eval_ctx_get_result", 1), ("eval", 1),
    ("opa_eval", 7)]

/-- The exports that are given a dataset, or run the policy. -/
def policyExports : List String := ["opa_eval_ctx_set_data", "eval", "opa_eval"]

/-- A relation between the guest before and after that the host respects with
all it does to a guest, as long as it enters the policy's exports only as
allowed. -/
structure Tracks (allowed : String → List UInt32 → Prop)
    (relation : Instance σ → Instance σ → Prop) : Prop where
  call : ∀ name arguments, (name, arguments.length) ∈ abi →
    (name ∈ policyExports → allowed name (arguments.map UInt32.ofInt)) →
      Operation.Keeps relation (call name arguments)
  grown : ∀ guest memory, guest.memory.Leads memory → relation guest { guest with memory }
  written : ∀ guest memory address bytes, guest.memory.Leads memory →
    relation guest { guest with memory, history := .write address bytes :: guest.history }
  logged : ∀ guest journal, relation guest { guest with journal }

variable {relation : Instance σ → Instance σ → Prop} {name : String} {arguments : List Int}

section Calls

variable [IsPreorder (Instance σ) relation]

theorem callWord_keeps (keeps : Operation.Keeps relation (call name arguments)) :
    Operation.Keeps relation (callWord name arguments) := by
  refine keeps.bind fun result => ?_
  cases result with
  | some word => exact Operation.keeps_pure _
  | none => exact Operation.keeps_throw _

theorem callAddress_keeps (keeps : Operation.Keeps relation (call name arguments)) :
    Operation.Keeps relation (callAddress name arguments) :=
  (callWord_keeps keeps).bind fun _ => Operation.keeps_pure _

theorem callVoid_keeps (keeps : Operation.Keeps relation (call name arguments)) :
    Operation.Keeps relation (callVoid name arguments) :=
  keeps.bind fun _ => Operation.keeps_pure _

end Calls

namespace Tracks

variable {allowed : String → List UInt32 → Prop} (tracks : Tracks allowed relation)
include tracks

/-- Any other export may be entered at any time. -/
theorem plain (name : String) (arguments : List Int)
    (listed : (name, arguments.length) ∈ abi := by simp [abi])
    (other : name ∉ policyExports := by decide) :
    Operation.Keeps relation (Instance.call name arguments) :=
  tracks.call name arguments listed fun member => absurd member other

theorem log (logger : String) (level : Logging.Level) (text : String) :
    Operation.Keeps relation (Instance.log logger level text) :=
  fun guest => tracks.logged guest _

/-- Making room, if it does anything, changes the memory. -/
theorem write (terms : Region.Terms) (address : Address) (bytes : Bytes) :
    Operation.Keeps relation (Region.write terms address bytes) := by
  intro guest
  refine (Region.write_leads terms address bytes guest).mono ?_ ?_
  · rintro _ after ⟨memory, leads, rfl⟩
    exact tracks.written guest memory address bytes leads
  · rintro fault after ⟨memory, leads, rfl⟩
    exact tracks.grown guest memory leads

variable [IsPreorder (Instance σ) relation]

theorem free (terms : Region.Terms) (address : Address) :
    Operation.Keeps relation (Region.free terms address) := by
  unfold Region.free
  split
  · exact Operation.keeps_pure _
  · exact callVoid_keeps (tracks.plain "opa_free" _)

theorem place (terms : Region.Terms) (bytes : Bytes) :
    Operation.Keeps relation (Region.place terms bytes) := by
  refine Operation.Keeps.bind ?_ fun view => ?_
  · exact (callAddress_keeps (tracks.plain "opa_malloc" _)).bind fun _ =>
      Operation.keeps_pure _
  · refine Operation.Keeps.bind ?_ fun _ => Operation.keeps_pure _
    refine (Operation.keeps_lift _).bind fun _ => ?_
    exact (Operation.keeps_lift _).bind fun _ => tracks.write terms _ bytes

theorem heapPointer : Operation.Keeps relation (Region.heapPointer (σ := σ)) :=
  callAddress_keeps (tracks.plain "opa_heap_ptr_get" _)

theorem setHeapPointer (address : Address) :
    Operation.Keeps relation (Region.setHeapPointer address) :=
  callVoid_keeps (tracks.plain "opa_heap_ptr_set" _)

theorem rewind (address : Address) : Operation.Keeps relation (Region.rewind address) := by
  intro guest
  unfold Operation.Ends Region.rewind
  cases guest.trapped with
  | true => exact refl guest
  | false => exact tracks.setHeapPointer address guest

theorem writeEncoded (terms : Region.Terms) (raw : Bytes) :
    Operation.Keeps relation (Exchange.writeEncoded terms raw) := by
  refine (tracks.place terms raw).bind fun text => ?_
  refine (callWord_keeps (tracks.plain "opa_json_parse" _)).bind fun document => ?_
  refine (tracks.free terms text).bind fun _ => ?_
  dsimp only
  split
  · exact Operation.keeps_throw _
  · exact Operation.keeps_pure _

theorem readRaw (terms : Region.Terms) (document : Address) :
    Operation.Keeps relation (Exchange.readRaw terms document) := by
  refine (callAddress_keeps (tracks.plain "opa_json_dump" _)).bind fun text => ?_
  refine Operation.Keeps.bind ?_ fun raw => ?_
  · have reads : Operation.Keeps relation (Region.readUntilZero text) := fun guest => refl guest
    exact reads.ensuring (tracks.free terms text)
  · cases raw with
    | some raw => exact Operation.keeps_pure raw
    | none => exact Operation.keeps_throw _

/-!
### The operations of a discipline
-/

variable (discipline : Discipline) (terms : Region.Terms) (checkpoints : Checkpoints)

theorem takeCheckpoints : Operation.Keeps relation (discipline.takeCheckpoints (σ := σ)) := by
  cases discipline with
  | explicitFree => exact Operation.keeps_pure _
  | heapRewind =>
    refine tracks.heapPointer.bind fun base => ?_
    exact (tracks.log _ _ _).bind fun _ => Operation.keeps_pure _

theorem installData (previous : Option Address) (raw : Bytes) :
    Operation.Keeps relation (discipline.installData terms checkpoints previous raw) := by
  cases discipline with
  | explicitFree =>
    have written : Operation.Keeps relation (do
        return (← Exchange.writeEncoded terms raw, checkpoints)) :=
      (tracks.writeEncoded terms raw).bind fun _ => Operation.keeps_pure _
    cases previous with
    | none => exact written
    | some address => exact (tracks.free terms address).bind fun _ => written
  | heapRewind =>
    refine (tracks.setHeapPointer _).bind fun _ => ?_
    refine (tracks.writeEncoded terms raw).bind fun document => ?_
    exact tracks.heapPointer.bind fun _ => Operation.keeps_pure _

theorem bindContext (data : Address) (input : Value)
    (given : ∀ context, allowed "opa_eval_ctx_set_data" [context, data.toWord]) :
    Operation.Keeps relation (Discipline.bindContext terms data input) := by
  refine Operation.Keeps.bind ?_ fun input => ?_
  · exact (Operation.keeps_liftReport _).bind fun raw => tracks.writeEncoded terms raw
  refine (callAddress_keeps (tracks.plain "opa_eval_ctx_new" _)).bind fun context => ?_
  refine (callVoid_keeps (tracks.plain "opa_eval_ctx_set_input" _)).bind fun _ => ?_
  refine (callVoid_keeps (tracks.call _ _ (by simp [abi]) fun _ => ?_)).bind fun _ =>
    Operation.keeps_pure _
  simpa using given context.toWord

theorem openContext (data : Address) (input : Value)
    (given : ∀ context, allowed "opa_eval_ctx_set_data" [context, data.toWord]) :
    Operation.Keeps relation (discipline.openContext terms checkpoints data input) := by
  cases discipline with
  | explicitFree => exact tracks.bindContext terms data input given
  | heapRewind =>
    exact (tracks.setHeapPointer _).bind fun _ => tracks.bindContext terms data input given

theorem runContext (handle : Handle) (entrypoint : Int)
    (runs : allowed "eval" [handle.context.toWord]) :
    Operation.Keeps relation (Discipline.runContext handle entrypoint) := by
  refine (callVoid_keeps (tracks.plain "opa_eval_ctx_set_entrypoint" _)).bind
    fun _ => ?_
  refine (callVoid_keeps (tracks.call _ _ (by simp [abi]) fun _ => ?_)).bind fun _ => ?_
  · simpa using runs
  · exact callAddress_keeps (tracks.plain "opa_eval_ctx_get_result" _)

theorem contextEval (handle : Handle) (name : String) (entrypoint : Int) (schema : Schema)
    (runs : allowed "eval" [handle.context.toWord]) :
    Operation.Keeps relation
      (discipline.contextEval terms handle name entrypoint schema) := by
  cases discipline with
  | explicitFree =>
    refine (tracks.runContext handle entrypoint runs).bind fun result => ?_
    exact ((tracks.readRaw terms result).ensuring (tracks.free terms result)).bind fun raw =>
      Operation.keeps_liftReport _
  | heapRewind =>
    refine tracks.heapPointer.bind fun saved => ?_
    refine Operation.Keeps.bind ?_ fun raw => Operation.keeps_liftReport _
    refine Operation.Keeps.ensuring ?_ (tracks.rewind saved)
    exact (tracks.runContext handle entrypoint runs).bind fun result => tracks.readRaw terms result

theorem closeContext (handle : Handle) :
    Operation.Keeps relation (discipline.closeContext terms checkpoints handle) := by
  cases discipline with
  | explicitFree => exact (tracks.free terms _).bind fun _ => tracks.free terms _
  | heapRewind => exact tracks.setHeapPointer _

/-- Closing quietly does not fail: what goes wrong is only written down. -/
theorem closeQuietly_returns (handle : Handle) (guest : Instance σ) :
    Operation.Ends (discipline.closeQuietly terms checkpoints handle) guest
      (fun _ after => relation guest after) (fun _ _ => False) := by
  unfold Discipline.closeQuietly
  rw [Operation.ends_bind, Operation.ends_attempt]
  refine (tracks.closeContext discipline terms checkpoints handle guest).mono
    (fun _ _ related => related) ?_
  exact fun _ closed related => IsTrans.trans _ _ _ related (tracks.logged closed _)

theorem closeQuietly (handle : Handle) :
    Operation.Keeps relation (discipline.closeQuietly terms checkpoints handle) :=
  fun guest => (tracks.closeQuietly_returns discipline terms checkpoints handle guest).mono
    (fun _ _ related => related) fun _ _ => False.elim

theorem evaluate (name : String) (entrypoint : Int) (data : Address) (input : Value)
    (schema : Schema) (given : ∀ context, allowed "opa_eval_ctx_set_data" [context, data.toWord])
    (runs : ∀ context, allowed "eval" [context])
    (once : ∀ reserved entrypoint text length heap format,
      allowed "opa_eval" [reserved, entrypoint, data.toWord, text, length, heap, format]) :
    Operation.Keeps relation
      (discipline.evaluate terms checkpoints name entrypoint data input schema) := by
  cases discipline with
  | explicitFree =>
    refine (tracks.openContext .explicitFree terms checkpoints data input given).bind
      fun handle => ?_
    refine Operation.Keeps.bind ?_ fun result => ?_
    · exact (tracks.contextEval .explicitFree terms handle name entrypoint schema (runs _)).onFault
        (tracks.closeQuietly .explicitFree terms checkpoints handle)
    · exact (tracks.closeContext .explicitFree terms checkpoints handle).bind fun _ =>
        Operation.keeps_pure _
  | heapRewind =>
    refine (Operation.keeps_liftReport _).bind fun raw => ?_
    refine (Operation.keeps_lift _).bind fun heap => ?_
    refine Operation.Keeps.bind ?_ fun found => ?_
    · refine Operation.Keeps.ensuring ?_ (tracks.rewind _)
      refine (tracks.write terms _ raw).bind fun _ => ?_
      refine (callAddress_keeps (tracks.call _ _ (by simp [abi, Discipline.evalArguments])
        fun _ => ?_)).bind fun result => ?_
      · simpa [Discipline.evalArguments] using once (UInt32.ofInt 0) _ _ _ _ (UInt32.ofInt 0)
      · exact Operation.Keeps.bind (fun guest => refl guest) fun _ => Operation.keeps_pure _
    · rcases found with ⟨result, text⟩
      cases text with
      | some text => exact Operation.keeps_liftReport _
      | none => exact Operation.keeps_throw _

end Tracks

/-!
### What is added to the history
-/

/-- What the host did to the guest in between is all of one kind. -/
def Adds (kind : Access σ → Prop) (before after : Instance σ) : Prop :=
  ∃ recent, after.history = recent ++ before.history ∧ ∀ access ∈ recent, kind access

instance (kind : Access σ → Prop) : IsPreorder (Instance σ) (Adds kind) where
  refl _ := ⟨[], rfl, fun _ impossible => nomatch impossible⟩
  trans := by
    rintro first second third ⟨earlier, history, all⟩ ⟨later, history', all'⟩
    refine ⟨later ++ earlier, by rw [history', history, List.append_assoc], ?_⟩
    intro access member
    rcases List.mem_append.mp member with member | member
    · exact all' access member
    · exact all access member

theorem call_adds {kind : Access σ → Prop} {name : String} {arguments : List Int}
    (held : ∀ found, kind (.call name (arguments.map UInt32.ofInt) found)) :
    Operation.Keeps (Adds kind) (call name arguments) := by
  intro guest
  have added : ∀ after, Entered name (arguments.map UInt32.ofInt) guest after →
      Adds kind guest after := fun after entered =>
    ⟨[_], entered.history_eq, List.forall_mem_singleton.mpr (held _)⟩
  refine (call_cases guest name arguments).mono ?_ ?_
  · rintro answer after ⟨entered, _⟩
    exact added after entered
  · rintro fault after (⟨rfl, _⟩ | ⟨_, _, journal, rfl, _⟩ | ⟨entered, _⟩)
    · exact refl after
    · exact ⟨[], rfl, fun _ impossible => nomatch impossible⟩
    · exact added after entered

/-- If every write and every other call is of a kind, so is all that is done
with the calls that are allowed. -/
theorem tracks_adds (kind : Access σ → Prop) (writes : ∀ address bytes, kind (.write address bytes))
    (others : ∀ name arguments found, name ∉ policyExports →
      kind (.call name arguments found)) :
    Tracks (fun name arguments => ∀ found, kind (.call name arguments found)) (Adds kind) where
  call name arguments _ allowed := by
    refine call_adds fun found => ?_
    by_cases policy : name ∈ policyExports
    · exact allowed policy found
    · exact others name _ found policy
  grown guest memory _ := ⟨[], rfl, fun _ impossible => nomatch impossible⟩
  written guest memory address bytes _ :=
    ⟨[.write address bytes], rfl, fun access member => by
      rw [List.mem_singleton.mp member]
      exact writes address bytes⟩
  logged guest journal := ⟨[], rfl, fun _ impossible => nomatch impossible⟩

end Instance

namespace Host

open Instance

/-- The host is the same, and the guests are related. -/
structure Lives (relation : Instance σ → Instance σ → Prop) (before after : Host σ) : Prop where
  discipline_eq : after.discipline = before.discipline
  maxPages_eq : after.maxPages = before.maxPages
  entrypoints_eq : after.entrypoints = before.entrypoints
  guest : relation before.guest after.guest

/-- The dataset stays where it is too, and the guests may be related in a way
that depends on it. -/
structure Kept (relation : Option Address → Instance σ → Instance σ → Prop)
    (before after : Host σ) : Prop extends Lives (relation before.dataset) before after where
  dataset_eq : after.dataset = before.dataset

variable {relation : Option Address → Instance σ → Instance σ → Prop}

theorem onGuest_kept {operation : Host σ → Operation (Instance σ) α} (host : Host σ)
    (keeps : Operation.Keeps (relation host.dataset) (operation host)) :
    Operation.Ends (onGuest operation) host (fun _ after => Kept relation host after)
      (fun _ after => Kept relation host after) := by
  rw [onGuest_ends]
  exact (keeps host.guest).mono (fun _ _ kept => ⟨⟨rfl, rfl, rfl, kept⟩, rfl⟩)
    (fun _ _ kept => ⟨⟨rfl, rfl, rfl, kept⟩, rfl⟩)

theorem log_kept {allowed : Option Address → String → List UInt32 → Prop}
    (tracks : ∀ data, Tracks (allowed data) (relation data)) (logger : String)
    (level : Logging.Level) (text : String) :
    Operation.Keeps (Kept relation) (log (σ := σ) logger level text) :=
  fun host => onGuest_kept host ((tracks host.dataset).log logger level text)

variable [∀ data, IsPreorder (Instance σ) (relation data)]

instance : IsPreorder (Host σ) (Kept relation) where
  refl host := ⟨⟨rfl, rfl, rfl, refl host.guest⟩, rfl⟩
  trans first second third before after := by
    have later := after.guest
    rw [before.dataset_eq] at later
    exact ⟨⟨after.discipline_eq.trans before.discipline_eq,
      after.maxPages_eq.trans before.maxPages_eq, after.entrypoints_eq.trans before.entrypoints_eq,
      IsTrans.trans _ _ _ before.guest later⟩, after.dataset_eq.trans before.dataset_eq⟩

theorem acquire_kept : Operation.Keeps (Kept relation) (acquire (σ := σ)) := by
  intro host
  unfold Operation.Ends acquire
  cases host.busy <;> exact ⟨⟨rfl, rfl, rfl, refl host.guest⟩, rfl⟩

theorem release_kept (holder : Option ContextId) :
    Operation.Keeps (Kept relation) (release (σ := σ) holder) := by
  intro host
  unfold Operation.Ends release
  cases host.busy <;> exact ⟨⟨rfl, rfl, rfl, refl host.guest⟩, rfl⟩

theorem exclusively_kept {operation : Operation (Host σ) α}
    (keeps : Operation.Keeps (Kept relation) operation) :
    Operation.Keeps (Kept relation) (exclusively operation) :=
  acquire_kept.bind fun _ => keeps.ensuring (release_kept none)

theorem context_reads (id : ContextId) : Operation.Reads (context (σ := σ) id) := by
  intro host
  rw [context_ends]
  cases host.contexts[id]? <;> rfl

theorem setPhase_kept (id : ContextId) (phase : Phase) :
    Operation.Keeps (Kept relation) (setPhase (σ := σ) id phase) :=
  fun host => ⟨⟨rfl, rfl, rfl, refl host.guest⟩, rfl⟩

/-- What is done with the dataset is done with the one that is installed. -/
theorem withData_kept (operation : Address → Host σ → Operation (Instance σ) α)
    (keeps : ∀ data host, Operation.Keeps (relation (some data)) (operation data host)) :
    Operation.Keeps (Kept relation) (do onGuest (operation (← requireData))) := by
  intro host
  rw [Operation.ends_bind]
  cases dataset : host.dataset with
  | none =>
    rw [requireData_none host dataset]
    exact refl host
  | some data =>
    rw [requireData_some host dataset]
    refine onGuest_kept host ?_
    rw [dataset]
    exact keeps data host

/-- What a guest may be asked for with a dataset in place. -/
structure Grants (allowed : Option Address → String → List UInt32 → Prop) : Prop where
  given : ∀ data context, allowed (some data) "opa_eval_ctx_set_data" [context, data.toWord]
  runs : ∀ data context, allowed data "eval" [context]
  once : ∀ data reserved entrypoint text length heap format, allowed (some data) "opa_eval"
    [reserved, entrypoint, data.toWord, text, length, heap, format]

variable {allowed : Option Address → String → List UInt32 → Prop}
variable (tracks : ∀ data, Tracks (allowed data) (relation data))

section Uses

include tracks

theorem releaseContext_kept (id : ContextId) (handle : Handle) :
    Operation.Keeps (Kept relation) (releaseContext (σ := σ) id handle) := by
  refine Operation.Keeps.ensuring ?_ (release_kept (some id))
  exact fun host => onGuest_kept host
    ((tracks host.dataset).closeContext host.discipline host.terms host.checkpoints handle)

theorem teardown_kept (id : ContextId) (unwinding : Bool) :
    Operation.Keeps (Kept relation) (teardown (σ := σ) id unwinding) := by
  refine (context_reads id).keeps.bind fun context => ?_
  split
  · exact Operation.keeps_pure _
  refine (setPhase_kept id .destroyed).bind fun _ => ?_
  refine (releaseContext_kept tracks id context.handle).attempt.bind fun outcome => ?_
  cases outcome with
  | ok _ => exact Operation.keeps_pure _
  | error fault =>
    cases unwinding with
    | true => exact log_kept tracks _ _ _
    | false =>
      refine Operation.Keeps.bind (fun host => ?_) fun _ => Operation.keeps_throw _
      exact ⟨⟨rfl, rfl, rfl, refl host.guest⟩, rfl⟩

theorem destroy_kept (id : ContextId) : Operation.Keeps (Kept relation) (destroy (σ := σ) id) := by
  refine (context_reads id).keeps.bind fun context => ?_
  split
  · exact Operation.keeps_throw _
  · exact teardown_kept tracks id false

theorem drop_kept (id : ContextId) : Operation.Keeps (Kept relation) (drop (σ := σ) id) := by
  refine (context_reads id).keeps.bind fun context => ?_
  split
  · exact Operation.keeps_pure _
  refine (teardown_kept tracks id false).attempt.bind fun outcome => ?_
  cases outcome with
  | ok _ => exact Operation.keeps_pure _
  | error fault =>
    dsimp only
    split
    · exact log_kept tracks _ _ _
    · exact Operation.keeps_throw _

variable (grants : Grants allowed)
include grants

theorem eval_kept (entrypoint : String) (input : Value) (schema : Schema) :
    Operation.Keeps (Kept relation) (eval (σ := σ) entrypoint input schema) := by
  refine checkUsable_reads.keeps.bind fun _ => exclusively_kept ?_
  refine (resolve_reads entrypoint).keeps.bind fun found => ?_
  refine withData_kept (fun data host => host.discipline.evaluate host.terms host.checkpoints
    found.1 found.2 data input schema) fun data host => ?_
  exact (tracks (some data)).evaluate host.discipline host.terms host.checkpoints found.1 found.2
    data input schema (grants.given data) (grants.runs (some data)) (grants.once data)

theorem openContext_kept (input : Value) :
    Operation.Keeps (Kept relation) (openContext (σ := σ) input) := by
  refine checkUsable_reads.keeps.bind fun _ => acquire_kept.bind fun _ => ?_
  have opens : Operation.Keeps (Kept relation) (do
      let data ← requireData
      onGuest fun host : Host σ =>
        host.discipline.openContext host.terms host.checkpoints data input) :=
    withData_kept (fun data host => host.discipline.openContext host.terms host.checkpoints data
      input) fun data host => (tracks (some data)).openContext host.discipline host.terms
        host.checkpoints data input (grants.given data)
  exact (opens.onFault (release_kept none)).bind fun handle host =>
    ⟨⟨rfl, rfl, rfl, refl host.guest⟩, rfl⟩

theorem contextEval_kept (id : ContextId) (entrypoint : String) (schema : Schema) :
    Operation.Keeps (Kept relation) (contextEval (σ := σ) id entrypoint schema) := by
  refine (context_reads id).keeps.bind fun context => ?_
  have works : Operation.Keeps (Kept relation) (do
      setPhase id .evaluating
      checkUsable
      let found ← resolve entrypoint
      onGuest fun host : Host σ =>
        host.discipline.contextEval host.terms context.handle found.1 found.2 schema) := by
    refine (setPhase_kept id .evaluating).bind fun _ => checkUsable_reads.keeps.bind fun _ => ?_
    refine (resolve_reads entrypoint).keeps.bind fun found host => ?_
    exact onGuest_kept host ((tracks host.dataset).contextEval host.discipline host.terms
      context.handle found.1 found.2 schema (grants.runs _ _))
  split
  · exact Operation.keeps_throw _
  · exact works

/-- Every use but one leaves the dataset where it is, and is done with that
dataset. -/
theorem perform_kept (use : Use) (other : ∀ value, use ≠ .setData value) :
    Operation.Keeps (Kept relation) (perform (σ := σ) use) := by
  cases use with
  | setData value => exact absurd rfl (other value)
  | eval entrypoint input schema =>
    exact (eval_kept tracks grants entrypoint input schema).bind fun _ => Operation.keeps_pure _
  | decide binding input =>
    refine Operation.Keeps.bind ?_ fun _ => Operation.keeps_pure _
    exact (Operation.keeps_liftReport _).bind fun input =>
      eval_kept tracks grants binding.path input binding.output
  | openContext input =>
    exact (openContext_kept tracks grants input).bind fun _ => Operation.keeps_pure _
  | contextEval id entrypoint schema =>
    exact (contextEval_kept tracks grants id entrypoint schema).bind fun _ =>
      Operation.keeps_pure _
  | destroy id => exact (destroy_kept tracks id).bind fun _ => Operation.keeps_pure _
  | leave id unwinding => exact (teardown_kept tracks id unwinding).bind fun _ =>
      Operation.keeps_pure _
  | drop id => exact (drop_kept tracks id).bind fun _ => Operation.keeps_pure _
  | entrypointId entrypoint =>
    exact (resolve_reads entrypoint).keeps.bind fun _ => Operation.keeps_pure _

end Uses

/-!
### Whatever the use
-/

section Guest

variable {kept : Instance σ → Instance σ → Prop}

theorem onGuest_lives {operation : Host σ → Operation (Instance σ) α}
    (keeps : ∀ host, Operation.Keeps kept (operation host)) :
    Operation.Keeps (Lives kept) (onGuest operation) := by
  intro host
  rw [onGuest_ends]
  exact (keeps host host.guest).mono (fun _ _ kept => ⟨rfl, rfl, rfl, kept⟩)
    (fun _ _ kept => ⟨rfl, rfl, rfl, kept⟩)

variable [IsPreorder (Instance σ) kept]

instance : IsPreorder (Host σ) (Lives kept) where
  refl host := ⟨rfl, rfl, rfl, refl host.guest⟩
  trans _ _ _ before after := ⟨after.discipline_eq.trans before.discipline_eq,
    after.maxPages_eq.trans before.maxPages_eq, after.entrypoints_eq.trans before.entrypoints_eq,
    IsTrans.trans _ _ _ before.guest after.guest⟩

theorem setData_lives {allowed : String → List UInt32 → Prop} (tracks : Tracks allowed kept)
    (value : Value) : Operation.Keeps (Lives kept) (setData (σ := σ) value) := by
  refine checkUsable_reads.keeps.bind fun _ => ?_
  refine Operation.Keeps.bind ?_ fun _ => Operation.Keeps.ensuring ?_ ?_
  · intro host
    unfold Operation.Ends acquire
    cases host.busy <;> exact ⟨rfl, rfl, rfl, refl host.guest⟩
  · refine (Operation.keeps_liftReport _).bind fun raw => ?_
    refine Operation.keeps_get.bind fun found => ?_
    refine Operation.Keeps.bind (fun host => ⟨rfl, rfl, rfl, refl host.guest⟩) fun _ => ?_
    refine Operation.Keeps.bind ?_ fun installed => ?_
    · exact onGuest_lives fun host =>
        tracks.installData host.discipline host.terms host.checkpoints found.dataset raw
    refine Operation.Keeps.bind (fun host => ⟨rfl, rfl, rfl, refl host.guest⟩) fun _ => ?_
    exact onGuest_lives fun _ => tracks.log _ _ _
  · intro host
    unfold Operation.Ends release
    cases host.busy <;> exact ⟨rfl, rfl, rfl, refl host.guest⟩

/-- What the host respects with all it does to a guest, every use respects. -/
theorem perform_lives (tracks : Tracks (fun _ _ => True) kept) (use : Use) :
    Operation.Keeps (Lives kept) (perform (σ := σ) use) := by
  have others : (∀ value, use ≠ .setData value) →
      Operation.Keeps (Lives kept) (perform (σ := σ) use) := by
    intro other host
    exact (perform_kept (fun _ => tracks) ⟨fun _ _ => trivial, fun _ _ => trivial,
      fun _ _ _ _ _ _ _ => trivial⟩ use other host).mono (fun _ _ kept => kept.toLives)
        (fun _ _ kept => kept.toLives)
  cases use with
  | setData value => exact (setData_lives tracks value).bind fun _ => Operation.keeps_pure _
  | _ => exact others fun _ impossible => nomatch impossible

theorem run_lives (tracks : Tracks (fun _ _ => True) kept) (uses : List Use) (host : Host σ) :
    Lives kept host (run uses host).2 := by
  induction uses generalizing host with
  | nil => exact refl host
  | cons use rest inductionHypothesis =>
    exact IsTrans.trans _ _ _ ((perform_lives tracks use).outcome host) (inductionHypothesis _)

end Guest

end Host
end PolicyHost
