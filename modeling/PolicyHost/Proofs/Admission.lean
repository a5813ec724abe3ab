import PolicyHost.Proofs.Cleanup

namespace PolicyHost

/-!
# What speaks against a use

Before a host does anything to its guest, it looks whether something speaks
against the use.  It looks in a fixed order, and the first that is found is
what the caller is told; nothing was done then.  If nothing is found, the use
comes down to one task for the guest, and the task alone decides how it ends.
-/

variable {σ : Type}

namespace Host

/-- Why a host may not be used at all: a context leaked, or the guest was lost. -/
def unusable (host : Host σ) : Option Report :=
  match host.leak with
  | some leak => some (leakReport leak)
  | none => if host.guest.trapped then some trapReport else none

/-- A context is open. -/
def occupied (host : Host σ) : Option Report :=
  if host.openContexts.isEmpty then none else some Report.runtimeBusy

/-- The identifier that an entrypoint has in the table, under its normalized
name. -/
def published (host : Host σ) (entrypoint : String) : Option Int :=
  (host.entrypoints.find? fun e => e.1 == normalizePath entrypoint).map (·.2)

@[simp] theorem unusable_contexts (host : Host σ) (contexts : List Context) :
    unusable { host with contexts } = host.unusable := rfl

@[simp] theorem published_contexts (host : Host σ) (contexts : List Context) (entrypoint : String) :
    published { host with contexts } entrypoint = host.published entrypoint := rfl

@[simp] theorem published_locked (host : Host σ) (busy : Bool) (lockings : List Locking)
    (entrypoint : String) :
    published { host with busy, lockings } entrypoint = host.published entrypoint := rfl

def unknown (host : Host σ) (entrypoint : String) : Option Report :=
  match host.published entrypoint with
  | some _ => none
  | none => some (Report.unknownEntrypoint (normalizePath entrypoint) (host.entrypoints.map (·.1)))

/-- No dataset is installed. -/
def dataless (host : Host σ) : Option Report :=
  match host.dataset with
  | some _ => none
  | none => some Report.noData

/-- What speaks against evaluating an entrypoint on its own. -/
def evalObjection (host : Host σ) (entrypoint : String) : Option Report :=
  host.unusable.or (host.occupied.or ((host.unknown entrypoint).or host.dataless))

/-- What speaks against evaluating an entrypoint in a context that is open. -/
def contextObjection (host : Host σ) (entrypoint : String) : Option Report :=
  host.unusable.or (host.unknown entrypoint)

/-- What speaks against a use, the first that is found. -/
def objection (host : Host σ) : Use → Option Fault
  | .setData _ => (host.unusable.or host.occupied).map .report
  | .eval entrypoint _ _ => (host.evalObjection entrypoint).map .report
  | .decide binding input =>
    match binding.prepareInput input with
    | .error r => some (.report r)
    | .ok _ => (host.evalObjection binding.path).map .report
  | .openContext _ => (host.unusable.or (host.occupied.or host.dataless)).map .report
  | .contextEval id entrypoint _ =>
    match host.contexts[id]? with
    | none => some .noSlot
    | some context =>
      if context.phase = .destroyed then some (.report Report.contextDestroyed)
      else (host.contextObjection entrypoint).map .report
  | .destroy id =>
    match host.contexts[id]? with
    | none => some .noSlot
    | some context =>
      if context.phase = .destroyed then some (.report Report.contextDestroyed) else none
  | .leave id _ | .drop id => if (host.contexts[id]?).isSome then none else some .noSlot
  | .entrypointId entrypoint => (host.unknown entrypoint).map .report

/-- Nothing happened to a host, except that its lock may have been taken and
given back, and that a context may count as used. -/
structure Untouched (before after : Host σ) : Prop where
  guest_eq : after.guest = before.guest
  dataset_eq : after.dataset = before.dataset
  checkpoints_eq : after.checkpoints = before.checkpoints
  busy_eq : after.busy = before.busy
  leak_eq : after.leak = before.leak
  entrypoints_eq : after.entrypoints = before.entrypoints
  handles_eq : after.contexts.map (·.handle) = before.contexts.map (·.handle)
  ended_iff : ∀ id, after.Ended id ↔ before.Ended id

instance : IsPreorder (Host σ) Untouched where
  refl _ := ⟨rfl, rfl, rfl, rfl, rfl, rfl, rfl, fun _ => Iff.rfl⟩
  trans _ _ _ first second :=
    ⟨second.guest_eq.trans first.guest_eq, second.dataset_eq.trans first.dataset_eq,
      second.checkpoints_eq.trans first.checkpoints_eq, second.busy_eq.trans first.busy_eq,
      second.leak_eq.trans first.leak_eq, second.entrypoints_eq.trans first.entrypoints_eq,
      second.handles_eq.trans first.handles_eq,
      fun id => (second.ended_iff id).trans (first.ended_iff id)⟩

theorem Untouched.relocked {host : Host σ} (free : host.busy = false) (lockings : List Locking) :
    Untouched host { host with busy := false, lockings } :=
  ⟨rfl, rfl, rfl, free.symm, rfl, rfl, rfl, fun _ => Iff.rfl⟩

theorem Untouched.used {host : Host σ} {id : ContextId} {context : Context}
    (found : host.contexts[id]? = some context) (going : context.phase ≠ .destroyed) :
    Untouched host { host with
      contexts := host.contexts.modify id fun c => { c with phase := .evaluating } } := by
  refine ⟨rfl, rfl, rfl, rfl, rfl, rfl, ?_, fun other => ?_⟩
  · refine List.ext_getElem? fun other => ?_
    simp only [List.getElem?_map, List.getElem?_modify]
    cases host.contexts[other]? with
    | none => rfl
    | some context => split <;> rfl
  · unfold Ended
    rw [ended_modify _ _ _ context _ found]
    by_cases same : other = id
    · rw [if_pos same, same, found]
      simpa using going
    · rw [if_neg same]

/-!
### What is left to do
-/

/-- Evaluate an entrypoint on its own, if it is known and there is a dataset. -/
def evalTask (cleaning : Cleaning (Instance σ)) (host : Host σ) (entrypoint : String)
    (input : Value) (schema : Schema) : Operation (Instance σ) Unit :=
  match host.published entrypoint, host.dataset with
  | some id, some data => do
    let _ ← host.discipline.evaluateWith cleaning host.terms host.checkpoints
      (normalizePath entrypoint) id data input schema
  | _, _ => return ()

/-- What a use comes down to for the guest, if nothing speaks against it. -/
def task (cleaning : Cleaning (Instance σ)) (host : Host σ) : Use → Operation (Instance σ) Unit
  | .setData value => do
    let raw ← Operation.liftReport (Payload.encode value)
    let _ ← host.discipline.installData host.terms host.checkpoints host.dataset raw
    Instance.log "wasm.runtime" .debug ("installed " ++ toString raw.length ++ " byte dataset")
  | .eval entrypoint input schema => host.evalTask cleaning entrypoint input schema
  | .decide binding input =>
    match binding.prepareInput input with
    | .ok input => host.evalTask cleaning binding.path input binding.output
    | .error _ => return ()
  | .openContext input =>
    match host.dataset with
    | some data => do
      let _ ← host.discipline.openContext host.terms host.checkpoints data input
    | none => return ()
  | .contextEval id entrypoint schema =>
    match host.contexts[id]?, host.published entrypoint with
    | some context, some entrypointId => do
      let _ ← host.discipline.contextEvalWith cleaning host.terms context.handle
        (normalizePath entrypoint) entrypointId schema
    | _, _ => return ()
  | .destroy _ | .leave _ _ | .drop _ | .entrypointId _ => return ()

/-- A use that gives the guest something to do, other than ending a context. -/
inductive Use.Works : Use → Prop
  | setData (value : Value) : Works (.setData value)
  | eval (entrypoint : String) (input : Value) (schema : Schema) :
    Works (.eval entrypoint input schema)
  | decide (binding : Binding) (input : Value) : Works (.decide binding input)
  | openContext (input : Value) : Works (.openContext input)
  | contextEval (id : ContextId) (entrypoint : String) (schema : Schema) :
    Works (.contextEval id entrypoint schema)

/-!
### The checks, one by one
-/

section Checks

variable {host : Host σ} {bad : Fault → Host σ → Prop}

theorem checkUsable_unusable {good : Unit → Host σ → Prop} :
    Operation.Ends checkUsable host good bad ↔
      match host.unusable with
      | some r => bad (.report r) host
      | none => good () host := by
  unfold Operation.Ends checkUsable unusable
  cases host.leak with
  | some leak => rfl
  | none => cases lost : host.guest.trapped <;> simp

/-- The lock is held exactly while a context is open. -/
theorem Exclusive.occupied_eq (exclusive : host.Exclusive) :
    host.occupied = if host.busy then some Report.runtimeBusy else none := by
  unfold occupied
  have count := exclusive.open_count
  cases busy : host.busy with
  | true =>
    rw [busy] at count
    have nonempty : host.openContexts ≠ [] := List.length_pos_iff.mp (by rw [count]; decide)
    simp [nonempty]
  | false =>
    rw [busy] at count
    have empty : host.openContexts = [] := List.length_eq_zero_iff.mp count
    simp [empty]

theorem resolve_eq (host : Host σ) (entrypoint : String) :
    resolve entrypoint host =
      match host.published entrypoint with
      | some id => .ok (normalizePath entrypoint, id) host
      | none => .error (.report (Report.unknownEntrypoint (normalizePath entrypoint)
          (host.entrypoints.map (·.1)))) host := by
  unfold resolve published
  dsimp only
  cases host.entrypoints.find? fun e => e.1 == normalizePath entrypoint <;> rfl

theorem resolve_unknown (entrypoint : String) {good : String × Int → Host σ → Prop} :
    Operation.Ends (resolve entrypoint) host good bad ↔
      match host.published entrypoint with
      | some id => good (normalizePath entrypoint, id) host
      | none => bad (.report (Report.unknownEntrypoint (normalizePath entrypoint)
          (host.entrypoints.map (·.1)))) host := by
  unfold Operation.Ends
  rw [resolve_eq]
  cases host.published entrypoint <;> rfl

end Checks

/-!
### Uses that work
-/

section Works

variable {host : Host σ} (exclusive : host.Exclusive)
variable {good : Instance σ → Prop} {bad : Fault → Host σ → Prop}

/-- How an operation ends that either reports what speaks against it and leaves
the host alone, or ends as its task does. -/
structure Settles (host : Host σ) (objection : Option Fault) (task : Operation (Instance σ) Unit)
    (good : Instance σ → Prop) (bad : Fault → Host σ → Prop) : Prop where
  refuses : ∀ fault after, objection = some fault → Untouched host after → bad fault after
  does : objection = none → Operation.Ends task host.guest (fun _ guest => good guest)
    (fun fault guest => ∀ after : Host σ, after.guest = guest → bad fault after)

include exclusive

theorem setData_settles (value : Value)
    (settles : Settles host (host.objection (.setData value)) (host.task .always (.setData value))
      good bad) :
    Operation.Ends (setData value) host (fun _ after => good after.guest) bad := by
  have occupied := exclusive.occupied_eq
  unfold setData
  rw [Operation.ends_bind, checkUsable_unusable]
  cases usable : host.unusable with
  | some r => exact settles.refuses _ host (by simp [objection, usable]) (refl host)
  | none =>
    dsimp only
    cases busy : host.busy with
    | true =>
      rw [exclusively_busy busy]
      exact settles.refuses _ host (by simp [objection, usable, occupied, busy]) (refl host)
    | false =>
      have task := settles.does (by simp [objection, usable, occupied, busy])
      unfold Host.task at task
      refine exclusively_free busy ?_
      rw [Operation.ends_bind, Operation.ends_liftReport] at task ⊢
      cases encoded : Payload.encode value with
      | error r =>
        rw [encoded] at task
        exact ⟨rfl, task _ rfl⟩
      | ok raw =>
        rw [encoded] at task
        dsimp only at task ⊢
        rw [Operation.ends_bind] at task
        rw [Operation.ends_bind, Operation.ends_get, Operation.ends_bind, Operation.ends_modify,
          Operation.ends_bind, onGuest_ends]
        refine Operation.Ends.mono task ?_ fun fault guest failed => ⟨rfl, failed _ rfl⟩
        rintro installed guest done
        rw [Operation.ends_bind, Operation.ends_modify, log, onGuest_ends]
        exact Operation.Ends.mono done (fun _ _ held => ⟨rfl, held⟩)
          fun fault guest failed => ⟨rfl, failed _ rfl⟩

theorem eval_settles (entrypoint : String) (input : Value) (schema : Schema)
    (settles : Settles host ((host.evalObjection entrypoint).map .report)
      (host.evalTask .always entrypoint input schema) good bad) :
    Operation.Ends (eval entrypoint input schema) host (fun _ after => good after.guest) bad := by
  have occupied := exclusive.occupied_eq
  unfold eval
  rw [Operation.ends_bind, checkUsable_unusable]
  cases usable : host.unusable with
  | some r => exact settles.refuses _ host (by simp [evalObjection, usable]) (refl host)
  | none =>
    dsimp only
    cases busy : host.busy with
    | true =>
      rw [exclusively_busy busy]
      exact settles.refuses _ host (by simp [evalObjection, usable, occupied, busy]) (refl host)
    | false =>
      refine exclusively_free busy ?_
      rw [Operation.ends_bind, resolve_unknown, published_locked]
      cases found : host.published entrypoint with
      | none =>
        refine ⟨rfl, settles.refuses _ _ ?_ (.relocked busy _)⟩
        simp [evalObjection, usable, occupied, busy, unknown, found]
      | some id =>
        dsimp only
        rw [Operation.ends_bind]
        rcases Option.eq_none_or_eq_some host.dataset with dataset | ⟨data, dataset⟩
        · rw [requireData_none _ (by exact dataset)]
          refine ⟨rfl, settles.refuses _ _ ?_ (.relocked busy _)⟩
          simp [evalObjection, usable, occupied, busy, unknown, found, dataless, dataset]
        · rw [requireData_some _ (by exact dataset), onGuest_ends]
          have task := settles.does
            (by simp [evalObjection, usable, occupied, busy, unknown, found, dataless, dataset])
          unfold evalTask at task
          rw [found, dataset] at task
          dsimp only at task
          rw [Operation.ends_bind, Discipline.evaluateWith_always] at task
          exact Operation.Ends.mono task (fun _ _ held => ⟨rfl, held⟩)
            fun fault guest failed => ⟨rfl, failed _ rfl⟩

theorem openContext_settles (input : Value)
    (settles : Settles host (host.objection (.openContext input))
      (host.task .always (.openContext input)) good bad) :
    Operation.Ends (openContext input) host (fun _ after => good after.guest) bad := by
  have occupied := exclusive.occupied_eq
  unfold openContext
  rw [Operation.ends_bind, checkUsable_unusable]
  cases usable : host.unusable with
  | some r => exact settles.refuses _ host (by simp [objection, usable]) (refl host)
  | none =>
    dsimp only
    rw [Operation.ends_bind]
    cases busy : host.busy with
    | true =>
      rw [acquire_busy busy]
      exact settles.refuses _ host (by simp [objection, usable, occupied, busy]) (refl host)
    | false =>
      rw [acquire_free busy, Operation.ends_bind, Operation.ends_onFault, Operation.ends_bind]
      rcases Option.eq_none_or_eq_some host.dataset with dataset | ⟨data, dataset⟩
      · rw [requireData_none _ (by exact dataset), release_ends _ _ rfl]
        refine settles.refuses _ _ ?_ (.relocked busy _)
        simp [objection, usable, occupied, busy, dataless, dataset]
      · have task := settles.does
          (by simp [objection, usable, occupied, busy, dataless, dataset])
        unfold Host.task at task
        rw [dataset] at task
        dsimp only at task
        rw [Operation.ends_bind] at task
        rw [requireData_some _ (by exact dataset), onGuest_ends]
        refine Operation.Ends.mono task (fun _ _ held => held) fun fault guest failed => ?_
        rw [release_ends _ _ rfl]
        exact failed _ rfl

omit exclusive in
theorem contextEval_settles (id : ContextId) (entrypoint : String) (schema : Schema)
    (settles : Settles host (host.objection (.contextEval id entrypoint schema))
      (host.task .always (.contextEval id entrypoint schema)) good bad) :
    Operation.Ends (contextEval id entrypoint schema) host (fun _ after => good after.guest)
      bad := by
  unfold contextEval
  rw [Operation.ends_bind, context_ends]
  cases found : host.contexts[id]? with
  | none => exact settles.refuses _ host (by simp [objection, found]) (refl host)
  | some context =>
    dsimp only
    by_cases destroyed : context.phase = .destroyed
    · rw [if_pos destroyed]
      exact settles.refuses _ host (by simp [objection, found, destroyed]) (refl host)
    rw [if_neg destroyed, Operation.ends_bind, setPhase, Operation.ends_modify]
    rw [Operation.ends_bind, checkUsable_unusable, unusable_contexts]
    have used := Untouched.used found destroyed
    cases usable : host.unusable with
    | some r =>
      exact settles.refuses _ _ (by simp [objection, found, destroyed, contextObjection, usable])
        used
    | none =>
      dsimp only
      rw [Operation.ends_bind, resolve_unknown, published_contexts]
      cases known : host.published entrypoint with
      | none =>
        refine settles.refuses _ _ ?_ used
        simp [objection, found, destroyed, contextObjection, usable, unknown, known]
      | some entrypointId =>
        dsimp only
        rw [onGuest_ends]
        have task := settles.does
          (by simp [objection, found, destroyed, contextObjection, usable, unknown, known])
        unfold Host.task at task
        dsimp only at task
        rw [found, known] at task
        dsimp only at task
        rw [Operation.ends_bind, Discipline.contextEvalWith_always] at task
        exact Operation.Ends.mono task (fun _ _ held => held) fun fault guest failed => failed _ rfl

/-- A use that works is refused for what speaks against it, and nothing was done;
or it ends as its task does. -/
theorem perform_settles (use : Use) (works : use.Works)
    (settles : Settles host (host.objection use) (host.task .always use) good bad) :
    Operation.Ends (perform use) host (fun _ after => good after.guest) bad := by
  unfold perform
  cases works with
  | setData value =>
    rw [Operation.ends_bind]
    exact setData_settles exclusive value settles
  | eval entrypoint input schema =>
    rw [Operation.ends_bind]
    exact eval_settles exclusive entrypoint input schema settles
  | decide binding input =>
    unfold decide
    rw [Operation.ends_bind, Operation.ends_bind, Operation.ends_liftReport]
    cases prepared : binding.prepareInput input with
    | error r => exact settles.refuses _ host (by simp [objection, prepared]) (refl host)
    | ok input' =>
      have objects : host.objection (.decide binding input) =
          (host.evalObjection binding.path).map .report := by simp [objection, prepared]
      have asks : host.task .always (.decide binding input) =
          host.evalTask .always binding.path input' binding.output := by simp [task, prepared]
      rw [objects, asks] at settles
      exact eval_settles exclusive binding.path input' binding.output settles
  | openContext input =>
    rw [Operation.ends_bind]
    exact openContext_settles exclusive input settles
  | contextEval id entrypoint schema =>
    rw [Operation.ends_bind]
    exact contextEval_settles id entrypoint schema settles

/-- Whatever speaks against a use is what its caller is told, and nothing was
done. -/
theorem perform_refused (use : Use) (fault : Fault) (objects : host.objection use = some fault) :
    Operation.Ends (perform use) host (fun _ _ => False)
      (fun told after => told = fault ∧ Untouched host after) := by
  have settles : ∀ task : Operation (Instance σ) Unit, Settles host (host.objection use) task
      (fun _ => False) (fun told after => told = fault ∧ Untouched host after) := by
    intro task
    refine ⟨fun other after same untouched => ⟨?_, untouched⟩, fun none => ?_⟩
    · exact Option.some.inj (same.symm.trans objects)
    · exact nomatch none.symm.trans objects
  cases use with
  | setData | eval | decide | openContext | contextEval =>
    exact perform_settles exclusive _ (by constructor) (settles _)
  | destroy id =>
    unfold perform destroy
    rw [Operation.ends_bind, Operation.ends_bind, context_ends]
    cases found : host.contexts[id]? with
    | none =>
      simp only [objection, found, Option.some.injEq] at objects
      exact ⟨objects, refl host⟩
    | some context =>
      simp only [objection, found, Option.ite_none_right_eq_some, Option.some.injEq] at objects
      dsimp only
      rw [if_pos objects.1]
      exact ⟨objects.2, refl host⟩
  | leave id unwinding =>
    unfold perform teardown
    rw [Operation.ends_bind, Operation.ends_bind, context_ends]
    cases found : host.contexts[id]? with
    | none =>
      simp only [objection, found, Option.isSome_none, Bool.false_eq_true, if_false,
        Option.some.injEq] at objects
      exact ⟨objects, refl host⟩
    | some context => simp [objection, found] at objects
  | drop id =>
    unfold perform drop
    rw [Operation.ends_bind, Operation.ends_bind, context_ends]
    cases found : host.contexts[id]? with
    | none =>
      simp only [objection, found, Option.isSome_none, Bool.false_eq_true, if_false,
        Option.some.injEq] at objects
      exact ⟨objects, refl host⟩
    | some context => simp [objection, found] at objects
  | entrypointId entrypoint =>
    unfold perform
    rw [Operation.ends_bind, resolve_unknown]
    cases known : host.published entrypoint with
    | none =>
      simp only [objection, unknown, known, Option.map_some, Option.some.injEq] at objects
      exact ⟨objects, refl host⟩
    | some id => simp [objection, unknown, known] at objects

end Works

/-!
### What a task can fail with
-/

/-- The input of a single evaluation. -/
def Use.evaluated : Use → Option Value
  | .eval _ input _ => some input
  | .decide binding input => (binding.prepareInput input).toOption
  | _ => none

section Tasks

variable {cleaning : Cleaning (Instance σ)} {host : Host σ}
variable {like : Instance σ → Prop} {kind : Fault → Instance σ → Prop}

theorem evalTask_onlyFails (covers : Covers cleaning host.discipline like kind)
    (entrypoint : String) (input : Value) (schema : Schema)
    (far : ∀ raw fault guest, host.discipline = .heapRewind → Payload.encode input = .ok raw →
      host.checkpoints.data.advance raw.length = .error fault → like guest → kind fault guest) :
    Operation.OnlyFails like kind (host.evalTask cleaning entrypoint input schema) := by
  unfold evalTask
  split
  · exact (covers.evaluateWith host.maxPages host.checkpoints _ _ _ input schema far).bind
      fun _ => Operation.onlyFails_pure _
  · exact Operation.onlyFails_pure _

/-- What covers all that can go wrong with the guest covers all that can go wrong
with a task, except that an input may end past the last address. -/
theorem task_onlyFails (covers : Covers cleaning host.discipline like kind) (use : Use)
    (far : ∀ input raw fault guest, use.evaluated = some input →
      host.discipline = .heapRewind → Payload.encode input = .ok raw →
      host.checkpoints.data.advance raw.length = .error fault → like guest → kind fault guest) :
    Operation.OnlyFails like kind (host.task cleaning use) := by
  unfold task
  cases use with
  | setData value =>
    refine covers.encoded value fun raw same => ?_
    refine Operation.OnlyFails.bind ?_ fun _ => covers.log _ _ _
    exact covers.installData host.maxPages host.checkpoints host.dataset raw
      (Payload.encode_ne_nil value raw same)
  | eval entrypoint input schema =>
    exact evalTask_onlyFails covers entrypoint input schema fun raw fault guest =>
      far input raw fault guest rfl
  | decide binding value =>
    dsimp only
    cases prepared : binding.prepareInput value with
    | error r => exact Operation.onlyFails_pure _
    | ok input =>
      exact evalTask_onlyFails covers binding.path input binding.output fun raw fault guest =>
        far input raw fault guest (by rw [Use.evaluated, prepared]; rfl)
  | openContext input =>
    dsimp only
    split
    · exact (covers.openContext host.maxPages host.checkpoints _ input).bind
        fun _ => Operation.onlyFails_pure _
    · exact Operation.onlyFails_pure _
  | contextEval id entrypoint schema =>
    dsimp only
    split
    · exact (covers.contextEvalWith host.maxPages _ _ _ schema).bind
        fun _ => Operation.onlyFails_pure _
    · exact Operation.onlyFails_pure _
  | destroy | leave | drop | entrypointId => exact Operation.onlyFails_pure _

end Tasks

end Host
end PolicyHost
