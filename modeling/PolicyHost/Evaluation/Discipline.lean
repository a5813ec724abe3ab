import PolicyHost.Evaluation.Exchange

namespace PolicyHost

/-!
# Memory disciplines

How evaluation scratch memory is reclaimed depends on the module's minor
version.  Under the explicit discipline the host releases every allocation it
caused, and evaluates through a context record in guest memory.  Under the
rewinding one it remembers where the heap pointer was and moves it back, and
a single evaluation is one call that is given the input as text.

Both are told by the same five operations, so that nothing else in the host
depends on the version.
-/

inductive Discipline where
  | explicitFree
  | heapRewind
deriving DecidableEq, Repr, Inhabited

/-- Guest addresses that an evaluation context owns. -/
structure Handle where
  input : Address
  context : Address
deriving DecidableEq, Repr

/-- Heap pointers to move back to: where the dataset begins and where it
ends.  Only the rewinding discipline uses them. -/
structure Checkpoints where
  base : Address
  data : Address
deriving DecidableEq, Repr

instance : Inhabited Checkpoints := ⟨⟨default, default⟩⟩

namespace Discipline

def ofMinor (minor : Int) : Discipline :=
  if 2 ≤ minor then heapRewind else explicitFree

def name : Discipline → String
  | explicitFree => "explicit-free"
  | heapRewind => "heap-rewind"

/-- Whether a discipline moves the heap pointer back. -/
def rewinds : Discipline → Bool
  | explicitFree => false
  | heapRewind => true

/-- The exports that both disciplines call. -/
def contextExports : List String :=
  ["opa_malloc", "opa_json_parse", "opa_json_dump", "opa_eval_ctx_new", "opa_eval_ctx_set_input",
    "opa_eval_ctx_set_data", "opa_eval_ctx_set_entrypoint", "opa_eval_ctx_get_result", "eval"]

def requiredExports : Discipline → List String
  | explicitFree => contextExports ++ ["opa_free"]
  | heapRewind => contextExports ++ ["opa_eval", "opa_heap_ptr_get", "opa_heap_ptr_set"]

def terms (discipline : Discipline) (maxPages : Option Nat) : Region.Terms :=
  ⟨discipline.rewinds, maxPages⟩

variable {σ : Type}

/-- Take the checkpoints after the entrypoint table was read. -/
def takeCheckpoints : Discipline → Operation (Instance σ) Checkpoints
  | explicitFree => return default
  | heapRewind => do
    let base ← Region.heapPointer
    Instance.log "wasm.abi" .debug ("heap checkpoints at " ++ toString base.offset)
    return ⟨base, base⟩

/-- Write the input and make a context record for it and the dataset. -/
def bindContext (terms : Region.Terms) (data : Address) (input : Value) :
    Operation (Instance σ) Handle := do
  let input ← Exchange.writeValue terms input
  let context ← Instance.callAddress "opa_eval_ctx_new" []
  Instance.callVoid "opa_eval_ctx_set_input" [context.offset, input.offset]
  Instance.callVoid "opa_eval_ctx_set_data" [context.offset, data.offset]
  return ⟨input, context⟩

/-- Evaluate in a context record. -/
def runContext (handle : Handle) (entrypoint : Int) : Operation (Instance σ) Address := do
  Instance.callVoid "opa_eval_ctx_set_entrypoint" [handle.context.offset, entrypoint]
  Instance.callVoid "eval" [handle.context.offset]
  Instance.callAddress "opa_eval_ctx_get_result" [handle.context.offset]

/-- Replace the dataset.  The result is its document and, under the rewinding
discipline, where it ends. -/
def installData (discipline : Discipline) (terms : Region.Terms) (checkpoints : Checkpoints)
    (previous : Option Address) (raw : Bytes) : Operation (Instance σ) (Address × Checkpoints) :=
  match discipline with
  | explicitFree => do
    match previous with
    | some address => Region.free terms address
    | none => pure ()
    return (← Exchange.writeEncoded terms raw, checkpoints)
  | heapRewind => do
    Region.setHeapPointer checkpoints.base
    let document ← Exchange.writeEncoded terms raw
    let data ← Region.heapPointer
    return (document, { checkpoints with data })

def openContext (discipline : Discipline) (terms : Region.Terms) (checkpoints : Checkpoints)
    (data : Address) (input : Value) : Operation (Instance σ) Handle :=
  match discipline with
  | explicitFree => bindContext terms data input
  | heapRewind => do
    Region.setHeapPointer checkpoints.data
    bindContext terms data input

def contextEval (discipline : Discipline) (terms : Region.Terms) (handle : Handle)
    (name : String) (entrypoint : Int) (schema : Schema) : Operation (Instance σ) Value :=
  match discipline with
  | explicitFree => do
    let result ← runContext handle entrypoint
    let raw ← Operation.ensuring (Exchange.readRaw terms result) (Region.free terms result)
    Operation.liftReport (Payload.lastResult raw schema name)
  | heapRewind => do
    let saved ← Region.heapPointer
    let raw ← Operation.ensuring
      (do Exchange.readRaw terms (← runContext handle entrypoint)) (Region.rewind saved)
    Operation.liftReport (Payload.lastResult raw schema name)

/-- Release what an open context owns. -/
def closeContext (discipline : Discipline) (terms : Region.Terms) (checkpoints : Checkpoints)
    (handle : Handle) : Operation (Instance σ) Unit :=
  match discipline with
  | explicitFree => do
    Region.free terms handle.input
    Region.free terms handle.context
  | heapRewind => Region.setHeapPointer checkpoints.data

/-- Release what an open context owns after an error, and only log it if that
fails too. -/
def closeQuietly (discipline : Discipline) (terms : Region.Terms) (checkpoints : Checkpoints)
    (handle : Handle) : Operation (Instance σ) Unit := do
  match ← Operation.attempt (closeContext discipline terms checkpoints handle) with
  | .ok () => return ()
  | .error fault =>
    Instance.log "wasm.abi" .warning
      ("failed to release eval context after an error: " ++ fault.text)

/-- The arguments of a single evaluation: a reserved one, the entrypoint, the
dataset, the input text and its length, where the heap begins, and the
format. -/
def evalArguments (entrypoint : Int) (data input : Address) (length : Nat) (heap : Address) :
    List Int :=
  [0, entrypoint, data.offset, input.offset, length, heap.offset, 0]

def evaluate (discipline : Discipline) (terms : Region.Terms) (checkpoints : Checkpoints)
    (name : String) (entrypoint : Int) (data : Address) (input : Value) (schema : Schema) :
    Operation (Instance σ) Value :=
  match discipline with
  | explicitFree => do
    let handle ← openContext discipline terms checkpoints data input
    let result ← Operation.onFault
      (contextEval discipline terms handle name entrypoint schema)
      (closeQuietly discipline terms checkpoints handle)
    closeContext discipline terms checkpoints handle
    return result
  | heapRewind => do
    let raw ← Operation.liftReport (Payload.encode input)
    -- The text lies where the heap would begin, and the guest allocates behind it.
    let heap ← Operation.lift (checkpoints.data.advance raw.length)
    let (result, text) ← Operation.ensuring
      (do
        Region.write terms checkpoints.data raw
        let result ← Instance.callAddress "opa_eval"
          (evalArguments entrypoint data checkpoints.data raw.length heap)
        return (result, ← Region.readUntilZero result))
      (Region.rewind checkpoints.data)
    match text with
    | some text => Operation.liftReport (Payload.lastResult text schema name)
    | none => Operation.report (Exchange.unterminated "result set" "result" result)

end Discipline
end PolicyHost
