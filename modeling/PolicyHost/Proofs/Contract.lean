import PolicyHost.Proofs.Service

namespace PolicyHost

/-!
# From a discipline to a host

A host uses guest memory through the five operations of its discipline and in
no other way.  An `Agreement` has a condition on the guest while no context is
open and one while a context is open.  A `Contract` promises for each operation
that it leads from the right condition to the right one and ends as the
semantics allows.  What is promised holds unless the
guest is lost or the fault is one that the contract excuses.  Of a lost guest
a contract may know how it was lost.

From a contract everything about the host follows at once.  As long as the
guest is not lost, the host does what its service does, in lockstep.
-/

variable {σ δ : Type}

/-- What happened to the guest during a use. -/
inductive Move where
  | installed
  /-- The old dataset was given up, and no new one is there. -/
  | discarded
  | evaluated
  | opened
  | unopened
  | contextEvaluated (handle : Handle)
  | released

/-- What a discipline works with, and the conditions on the guest that it works
between. -/
structure Agreement (σ δ : Type) where
  discipline : Discipline
  terms : Region.Terms
  /-- Faults after which nothing is promised. -/
  excuses : Fault → Prop
  /-- No context is open.  The dataset, if there is one, is a document. -/
  idle : Checkpoints → Option (Address × δ) → Instance σ → Prop
  /-- A context is open, with a dataset and an input. -/
  held : Checkpoints → Address × δ → Handle × δ → Instance σ → Prop
  moved : Move → Checkpoints → Instance σ → Instance σ → Prop
  /-- The guest was lost during a piece of work, with a fault. -/
  fell : Work δ → Fault → Instance σ → Instance σ → Prop

namespace Agreement

variable (agreement : Agreement σ δ) (semantics : Semantics δ)

def Installs : Prop :=
  ∀ checkpoints data guest raw, agreement.idle checkpoints data guest → raw ≠ [] →
    Operation.Ends
      (agreement.discipline.installData agreement.terms checkpoints (data.map (·.1)) raw) guest
      (fun installed after => ∃ d, semantics.parses raw (some d) ∧
        installed.2.base = checkpoints.base ∧
        agreement.idle installed.2 (some (installed.1, d)) after ∧
        agreement.moved .installed installed.2 guest after)
      (fun fault after =>
        (after.trapped = true ∧ agreement.fell (.install raw) fault guest after) ∨
        agreement.excuses fault ∨
        semantics.Refuses (.ok raw) fault ∧ agreement.idle checkpoints none after ∧
          agreement.moved .discarded checkpoints guest after)

def Evaluates : Prop :=
  ∀ checkpoints data y guest path entrypoint input raw schema,
    agreement.idle checkpoints (some (data, y)) guest → Payload.encode input = .ok raw →
    Operation.Ends
      (agreement.discipline.evaluate agreement.terms checkpoints path entrypoint data input schema)
      guest
      (fun value after => agreement.idle checkpoints (some (data, y)) after ∧
        semantics.JudgesText path (UInt32.ofInt entrypoint) schema raw y agreement.discipline
          (.ok value) ∧
        agreement.moved .evaluated checkpoints guest after)
      (fun fault after =>
        (after.trapped = true ∧
          agreement.fell (.evaluate path entrypoint schema raw y) fault guest after) ∨
        agreement.excuses fault ∨
        agreement.idle checkpoints (some (data, y)) after ∧
          (fault.isShortage ∨
            semantics.JudgesText path (UInt32.ofInt entrypoint) schema raw y agreement.discipline
              (.error fault)) ∧
          agreement.moved .evaluated checkpoints guest after)

def Opens : Prop :=
  ∀ checkpoints data y guest input, agreement.idle checkpoints (some (data, y)) guest →
    Operation.Ends
      (agreement.discipline.openContext agreement.terms checkpoints data input) guest
      (fun handle after => ∃ raw x, Payload.encode input = .ok raw ∧
        semantics.parses raw (some x) ∧
        agreement.held checkpoints (data, y) (handle, x) after ∧
        agreement.moved .opened checkpoints guest after)
      (fun fault after =>
        (after.trapped = true ∧
          agreement.fell (.openContext (Payload.encode input) y) fault guest after) ∨
        agreement.excuses fault ∨
        semantics.Refuses (Payload.encode input) fault ∧
          agreement.idle checkpoints (some (data, y)) after ∧
          agreement.moved .unopened checkpoints guest after)

def EvaluatesWithin : Prop :=
  ∀ checkpoints data y handle x guest path entrypoint schema,
    agreement.held checkpoints (data, y) (handle, x) guest →
    Operation.Ends
      (agreement.discipline.contextEval agreement.terms handle path entrypoint schema) guest
      (fun value after => agreement.held checkpoints (data, y) (handle, x) after ∧
        semantics.Judges Exchange.unread path (UInt32.ofInt entrypoint) schema x y (.ok value) ∧
        agreement.moved (.contextEvaluated handle) checkpoints guest after)
      (fun fault after =>
        (after.trapped = true ∧
          agreement.fell (.contextEval path entrypoint schema x y) fault guest after) ∨
        agreement.held checkpoints (data, y) (handle, x) after ∧
          semantics.Judges Exchange.unread path (UInt32.ofInt entrypoint) schema x y
            (.error fault) ∧
          agreement.moved (.contextEvaluated handle) checkpoints guest after)

def Closes : Prop :=
  ∀ checkpoints data context guest, agreement.held checkpoints data context guest →
    Operation.Ends
      (agreement.discipline.closeContext agreement.terms checkpoints context.1) guest
      (fun _ after => agreement.idle checkpoints (some data) after ∧
        agreement.moved .released checkpoints guest after)
      (fun fault after => after.trapped = true ∧ agreement.fell .close fault guest after)

end Agreement

/-- What a discipline promises for a guest. -/
structure Contract (σ : Type) {δ : Type} (semantics : Semantics δ) extends Agreement σ δ where
  idle_open : ∀ checkpoints data guest, idle checkpoints data guest → guest.trapped = false
  held_open : ∀ checkpoints data context guest, held checkpoints data context guest →
    guest.trapped = false
  idle_journal : ∀ checkpoints data guest journal, idle checkpoints data guest →
    idle checkpoints data { guest with journal }
  installed_journal : ∀ checkpoints guest after journal,
    moved .installed checkpoints guest after →
      moved .installed checkpoints guest { after with journal }
  fell_journal : ∀ work fault guest after journal, fell work fault guest after →
    fell work fault guest { after with journal }
  install : toAgreement.Installs semantics
  evaluate : toAgreement.Evaluates semantics
  openContext : toAgreement.Opens semantics
  contextEval : toAgreement.EvaluatesWithin semantics
  closeContext : toAgreement.Closes

/-- A value without a document form reaches no guest. -/
theorem Discipline.bindContext_unserializable (terms : Region.Terms) (data : Address)
    (input : Value) (guest : Instance σ) (r : Report) (encoded : Payload.encode input = .error r)
    (good : Handle → Instance σ → Prop) (bad : Fault → Instance σ → Prop) :
    Operation.Ends (Discipline.bindContext terms data input) guest good bad ↔
      bad (.report r) guest := by
  unfold Discipline.bindContext Exchange.writeValue
  rw [Operation.ends_bind, Operation.ends_bind, Operation.ends_liftReport, encoded]

/-- A single evaluation of a value without a document form does not reach it
either, under either discipline. -/
theorem Discipline.evaluate_unserializable (discipline : Discipline) (terms : Region.Terms)
    (checkpoints : Checkpoints) (path : String) (entrypoint : Int) (data : Address) (input : Value)
    (schema : Schema) (guest : Instance σ) (r : Report) (encoded : Payload.encode input = .error r)
    (good : Value → Instance σ → Prop) (bad : Fault → Instance σ → Prop)
    (failed : bad (.report r) guest) :
    Operation.Ends
      (discipline.evaluate terms checkpoints path entrypoint data input schema) guest good bad := by
  cases discipline with
  | explicitFree =>
    unfold Discipline.evaluate Discipline.openContext
    rw [Operation.ends_bind, Discipline.bindContext_unserializable terms data input guest r encoded]
    exact failed
  | heapRewind =>
    unfold Discipline.evaluate
    rw [Operation.ends_bind, Operation.ends_liftReport, encoded]
    exact failed

namespace Work

/-- What a piece of work does to the guest when it ends like this. -/
inductive Makes : Work δ → Except Fault Host.Answer → Move → Prop
  | installed (raw : Bytes) (answer : Host.Answer) : Makes (.install raw) (.ok answer) .installed
  | discarded (raw : Bytes) (fault : Fault) : Makes (.install raw) (.error fault) .discarded
  | evaluated (path : String) (entrypoint : Int) (schema : Schema) (raw : Bytes) (data : δ)
      (outcome : Except Fault Host.Answer) :
    Makes (.evaluate path entrypoint schema raw data) outcome .evaluated
  | opened (payload : Except Report Bytes) (data : δ) (answer : Host.Answer) :
    Makes (.openContext payload data) (.ok answer) .opened
  | unopened (payload : Except Report Bytes) (data : δ) (fault : Fault) :
    Makes (.openContext payload data) (.error fault) .unopened
  | contextEvaluated (path : String) (entrypoint : Int) (schema : Schema) (input data : δ)
      (handle : Handle) (outcome : Except Fault Host.Answer) :
    Makes (.contextEval path entrypoint schema input data) outcome (.contextEvaluated handle)
  | released (answer : Host.Answer) : Makes .close (.ok answer) .released

end Work

namespace Contract

variable {semantics : Semantics δ}

/-- What the host holds in its guest agrees with the service. -/
def Holds (contract : Contract σ semantics) (service : Service δ) (host : Host σ) : Prop :=
  match service.current with
  | none =>
    host.busy = false ∧ host.contexts.map (·.phase) = List.replicate service.ended .destroyed ∧
      ∃ data : Option (Address × δ), host.dataset = data.map (·.1) ∧ service.data = data.map (·.2) ∧
        contract.idle host.checkpoints data host.guest
  | some opening =>
    host.busy = true ∧ ∃ old handle address,
      host.contexts = old ++ [⟨handle, opening.phase⟩] ∧
      old.map (·.phase) = List.replicate service.ended .destroyed ∧
      host.dataset = some address ∧ service.data = some opening.data ∧
      contract.held host.checkpoints (address, opening.data) (handle, opening.input) host.guest

/-- A host that has not leaked and stands where its service stands. -/
structure Matches (contract : Contract σ semantics) (service : Service δ) (host : Host σ) :
    Prop where
  discipline_eq : host.discipline = contract.discipline
  terms_eq : host.terms = contract.terms
  entrypoints_eq : host.entrypoints = service.entrypoints
  leak_eq : host.leak = none
  holds : contract.Holds service host

/-- What a piece of work, or none, did to guest and checkpoints. -/
def Worked (contract : Contract σ semantics) (host after : Host σ)
    (outcome : Except Fault Host.Answer) : Demand δ → Prop
  | .answer _ => after.guest = host.guest ∧ after.checkpoints = host.checkpoints
  | .work work =>
    ∃ move, work.Makes outcome move ∧
      contract.moved move after.checkpoints host.guest after.guest ∧
      after.checkpoints.base = host.checkpoints.base ∧
      (move ≠ .installed → after.checkpoints = host.checkpoints) ∧
      ∀ handle, move = .contextEvaluated handle →
        ∃ context ∈ host.contexts, context.handle = handle ∧ context.phase ≠ .destroyed

/-- What a use did to the host.  Contexts keep their handles, and the dataset
stays where it is until the next one is installed. -/
structure Moved (contract : Contract σ semantics) (host after : Host σ)
    (outcome : Except Fault Host.Answer) (demand : Demand δ) : Prop where
  handles : host.contexts.map (·.handle) <+: after.contexts.map (·.handle)
  dataset_eq : (∀ raw, demand ≠ .work (.install raw)) → after.dataset = host.dataset
  worked : contract.Worked host after outcome demand

theorem Moved.cases {contract : Contract σ semantics} {host after : Host σ} {service : Service δ}
    {use : Host.Use} {outcome : Except Fault Host.Answer}
    (moved : contract.Moved host after outcome (service.demand use)) :
    (∃ given, service.demand use = .answer given ∧ after.guest = host.guest ∧
        after.checkpoints = host.checkpoints) ∨
      ∃ work move, service.demand use = .work work ∧ service.Asks use work ∧
        work.Makes outcome move ∧
        contract.moved move after.checkpoints host.guest after.guest ∧
        after.checkpoints.base = host.checkpoints.base ∧
        (move ≠ .installed → after.checkpoints = host.checkpoints) ∧
        ∀ handle, move = .contextEvaluated handle →
          ∃ context ∈ host.contexts, context.handle = handle ∧ context.phase ≠ .destroyed := by
  have worked := moved.worked
  cases demanded : service.demand use with
  | answer given =>
    rw [demanded] at worked
    exact Or.inl ⟨given, rfl, worked⟩
  | work work =>
    rw [demanded] at worked
    rcases worked with ⟨move, makes, moved⟩
    exact Or.inr ⟨work, move, rfl, service.demand_asks use work demanded, makes, moved⟩

theorem Moved.handle_eq {contract : Contract σ semantics} {host after : Host σ}
    {outcome : Except Fault Host.Answer} {demand : Demand δ}
    (moved : contract.Moved host after outcome demand) (id : ContextId) (earlier later : Context)
    (before : host.contexts[id]? = some earlier) (now : after.contexts[id]? = some later) :
    later.handle = earlier.handle := by
  rcases moved.handles with ⟨added, handles⟩
  have inside : id < (host.contexts.map (·.handle)).length := by
    rw [List.length_map]
    exact (List.getElem?_eq_some_iff.mp before).1
  have same : (after.contexts.map (·.handle))[id]? = (host.contexts.map (·.handle))[id]? := by
    rw [← handles, List.getElem?_append_left inside]
  rw [List.getElem?_map, List.getElem?_map, before, now] at same
  exact Option.some.inj same

/-- What the host knows of its contexts is what the service knows. -/
structure Books (service : Service δ) (host : Host σ) : Prop where
  entrypoints_eq : host.entrypoints = service.entrypoints
  leak_eq : host.leak = none
  busy_eq : host.busy = service.current.isSome
  phases_eq : host.contexts.map (·.phase) = service.phases

/-- The guest was lost during the work that a use asks for.  Unless a context
was being ended, the host knows of its contexts what it would know otherwise. -/
structure Falls (contract : Contract σ semantics) (service : Service δ) (use : Host.Use)
    (host : Host σ) (outcome : Except Fault Host.Answer) (after : Host σ) : Prop where
  lost : after.guest.trapped = true
  known : ∃ work fault, service.demand use = .work work ∧
    contract.fell work fault host.guest after.guest ∧
    (work = .close ∨ outcome = .error fault ∧ Books (service.noticed use) after)

/-- What a use comes to: the guest is lost, or the fault is excused, or the
host did what its service does. -/
def Carries (contract : Contract σ semantics) (service : Service δ) (use : Host.Use)
    (host : Host σ) (outcome : Except Fault Host.Answer) (after : Host σ) : Prop :=
  contract.Falls service use host outcome after ∨
    (∃ fault, outcome = .error fault ∧ contract.excuses fault) ∨
    (contract.Moved host after outcome (service.demand use) ∧
      ∃ service', service.Step contract.discipline semantics use outcome service' ∧
        contract.Matches service' after)

end Contract
end PolicyHost
