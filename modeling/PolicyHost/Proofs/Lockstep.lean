import PolicyHost.Proofs.Contract

namespace PolicyHost

/-!
# Hosts in lockstep with their services

Each use of a host is followed along its text once, for whatever discipline
keeps a contract.  The host's own bookkeeping (the lock, the phases of
contexts, the address of the dataset) is compared with the service's here and
nowhere else.
-/

variable {σ δ : Type}

namespace Host

variable {α : Type} {host : Host σ} {good : α → Host σ → Prop} {bad : Fault → Host σ → Prop}

theorem checkUsable_ends (host : Host σ) {good : Unit → Host σ → Prop} (leak_eq : host.leak = none)
    (open_eq : host.guest.trapped = false) :
    Operation.Ends checkUsable host good bad ↔ good () host := by
  unfold Operation.Ends checkUsable
  rw [leak_eq]
  dsimp only
  rw [if_neg (by rw [open_eq]; exact Bool.false_ne_true)]

theorem checkUsable_reads : Operation.Reads (checkUsable (σ := σ)) := by
  intro host
  unfold Operation.Ends checkUsable
  cases host.leak with
  | some leak => rfl
  | none => cases host.guest.trapped <;> rfl

theorem resolve_reads (entrypoint : String) :
    Operation.Reads (resolve (σ := σ) entrypoint) := by
  intro host
  unfold Operation.Ends resolve
  dsimp only
  cases host.entrypoints.find? _ <;> rfl

theorem requireData_reads : Operation.Reads (requireData (σ := σ)) := by
  intro host
  unfold Operation.Ends requireData
  cases host.dataset <;> rfl

/-- The lock is not to be had twice. -/
theorem acquire_busy {good : Unit → Host σ → Prop} (busy : host.busy = true) :
    Operation.Ends acquire host good bad ↔ bad (.report Report.runtimeBusy) host := by
  unfold Operation.Ends acquire
  rw [if_pos busy]

theorem acquire_free {good : Unit → Host σ → Prop} (free : host.busy = false) :
    Operation.Ends acquire host good bad ↔
      good () { host with busy := true, lockings := .taken :: host.lockings } := by
  unfold Operation.Ends acquire
  rw [if_neg (by rw [free]; exact Bool.false_ne_true)]

theorem release_ends (host : Host σ) (holder : Option ContextId) {good : Unit → Host σ → Prop}
    (busy : host.busy = true) :
    Operation.Ends (release holder) host good bad ↔
      good () { host with busy := false, lockings := .released holder :: host.lockings } := by
  unfold Operation.Ends release
  dsimp only
  rw [if_pos busy]

/-- Nothing is done under a lock that is held. -/
theorem exclusively_busy {operation : Operation (Host σ) α} (busy : host.busy = true) :
    Operation.Ends (exclusively operation) host good bad ↔
      bad (.report Report.runtimeBusy) host := by
  rw [exclusively, Operation.ends_bind, acquire_busy busy]

/-- What is done under the lock, with the lock given back. -/
theorem exclusively_free {operation : Operation (Host σ) α} (free : host.busy = false)
    (ends : Operation.Ends operation
      { host with busy := true, lockings := .taken :: host.lockings }
      (fun a after => after.busy = true ∧
        good a { after with busy := false, lockings := .released none :: after.lockings })
      (fun fault after => after.busy = true ∧
        bad fault { after with busy := false, lockings := .released none :: after.lockings })) :
    Operation.Ends (exclusively operation) host good bad := by
  rw [exclusively, Operation.ends_bind, acquire_free free, Operation.ends_ensuring]
  refine ends.mono ?_ ?_
  · rintro a after ⟨busy, held⟩
    rw [release_ends _ _ busy]
    exact held
  · rintro fault after ⟨busy, held⟩
    rw [release_ends _ _ busy]
    exact held

theorem onGuest_ends (operation : Host σ → Operation (Instance σ) α) (host : Host σ)
    (good : α → Host σ → Prop) (bad : Fault → Host σ → Prop) :
    Operation.Ends (onGuest operation) host good bad ↔
      Operation.Ends (operation host) host.guest (fun a guest => good a { host with guest })
        (fun fault guest => bad fault { host with guest }) := by
  unfold Operation.Ends onGuest
  cases operation host host.guest <;> rfl

/-- Writing a record changes the journal alone. -/
theorem log_ends (logger : String) (level : Logging.Level) (text : String) (host : Host σ)
    (good : Unit → Host σ → Prop) (bad : Fault → Host σ → Prop)
    (written : ∀ journal, good () { host with guest := { host.guest with journal } }) :
    Operation.Ends (log logger level text) host good bad := by
  rw [log, onGuest_ends]
  exact written _

/-- An entrypoint is looked up in the table. -/
theorem resolve_ends (host : Host σ) (service : Service δ) (entrypoint : String)
    (entrypoints_eq : host.entrypoints = service.entrypoints)
    (good : String × Int → Host σ → Prop) :
    Operation.Ends (resolve entrypoint) host good bad ↔
      match service.resolve entrypoint with
      | .ok found => good found host
      | .error fault => bad fault host := by
  unfold Operation.Ends resolve Service.resolve
  rw [entrypoints_eq]
  dsimp only
  cases service.entrypoints.find? fun e => e.1 == normalizePath entrypoint <;> rfl

theorem requireData_some (host : Host σ) {good : Address → Host σ → Prop} {data : Address}
    (dataset : host.dataset = some data) :
    Operation.Ends requireData host good bad ↔ good data host := by
  unfold Operation.Ends requireData
  rw [dataset]

theorem requireData_none (host : Host σ) {good : Address → Host σ → Prop}
    (dataset : host.dataset = none) :
    Operation.Ends requireData host good bad ↔ bad (.report Report.noData) host := by
  unfold Operation.Ends requireData
  rw [dataset]

theorem context_ends (id : ContextId) (good : Context → Host σ → Prop) :
    Operation.Ends (context id) host good bad ↔
      match host.contexts[id]? with
      | some context => good context host
      | none => bad .noSlot host := by
  unfold Operation.Ends context
  cases host.contexts[id]? <;> rfl

def marked (host : Host σ) (id : ContextId) : Host σ :=
  { host with contexts := host.contexts.modify id fun c => { c with phase := .destroyed } }

/-- What ends the life of an open context: it is marked, and then released.  If
that fails, either a record says so, or the host has leaked. -/
theorem teardown_ends (id : ContextId) (unwinding : Bool) (context : Context)
    (found : host.contexts[id]? = some context) (going : context.phase ≠ .destroyed)
    {good : Unit → Host σ → Prop} :
    Operation.Ends (teardown id unwinding) host good bad ↔
      Operation.Ends (releaseContext id context.handle) (host.marked id) good
        (fun fault after =>
          if unwinding then
            Operation.Ends (log "wasm.context" .warning
              ("suppressed context release failure while unwinding: " ++ fault.text)) after good bad
          else
            bad (.report (.leaked fault.text))
              { after with leak := some (.leaked fault.text) }) := by
  unfold teardown
  rw [Operation.ends_bind, context_ends, found]
  dsimp only
  rw [if_neg going, Operation.ends_bind, setPhase, Operation.ends_modify, Operation.ends_bind,
    Operation.ends_attempt]
  cases unwinding <;> rfl

end Host

namespace Contract

variable {semantics : Semantics δ} {contract : Contract σ semantics} {service : Service δ}
variable {host : Host σ}

namespace Matches

/-- A host without an open context holds its dataset and nothing else. -/
theorem idle (same : contract.Matches service host) (current : service.current = none) :
    host.busy = false ∧ host.contexts.map (·.phase) = List.replicate service.ended .destroyed ∧
      ∃ data : Option (Address × δ), host.dataset = data.map (·.1) ∧ service.data = data.map (·.2) ∧
        contract.idle host.checkpoints data host.guest := by
  have holds := same.holds
  unfold Holds at holds
  rwa [current] at holds

/-- The lock is held by the open context. -/
theorem busy (same : contract.Matches service host) {opening : Opening δ}
    (current : service.current = some opening) : host.busy = true := by
  have holds := same.holds
  unfold Holds at holds
  rw [current] at holds
  exact holds.1

theorem last_context (same : contract.Matches service host) (opening : Opening δ)
    (current : service.current = some opening) :
    ∃ old handle address, old.length = service.ended ∧
      host.contexts = old ++ [⟨handle, opening.phase⟩] ∧
      host.contexts[service.ended]? = some ⟨handle, opening.phase⟩ ∧
      old.map (·.phase) = List.replicate service.ended .destroyed ∧
      host.dataset = some address ∧ service.data = some opening.data ∧
      contract.held host.checkpoints (address, opening.data) (handle, opening.input)
        host.guest := by
  have holds := same.holds
  unfold Holds at holds
  rw [current] at holds
  rcases holds with ⟨_, old, handle, address, contexts, ended, dataset, document, held⟩
  have count : old.length = service.ended := by
    rw [← List.length_map (f := (·.phase)), ended, List.length_replicate]
  refine ⟨old, handle, address, count, contexts, ?_, ended, dataset, document, held⟩
  rw [contexts, ← count, List.getElem?_concat_length]

theorem open_eq (same : contract.Matches service host) : host.guest.trapped = false := by
  cases current : service.current with
  | none =>
    rcases same.idle current with ⟨_, _, data, _, _, idle⟩
    exact contract.idle_open _ _ _ idle
  | some opening =>
    rcases same.last_context opening current with ⟨_, _, _, _, _, _, _, _, _, held⟩
    exact contract.held_open _ _ _ _ held

theorem phases_eq (same : contract.Matches service host) :
    host.contexts.map (·.phase) = service.phases := by
  unfold Service.phases
  cases current : service.current with
  | none =>
    rw [(same.idle current).2.1]
    exact (List.append_nil _).symm
  | some opening =>
    rcases same.last_context opening current with ⟨old, handle, _, _, contexts, _, ended, _⟩
    rw [contexts, List.map_append, ended]
    rfl

theorem hasData_eq (same : contract.Matches service host) :
    host.hasData = service.data.isSome := by
  unfold Host.hasData
  cases current : service.current with
  | none =>
    rcases same.idle current with ⟨_, _, data, dataset, document, _⟩
    rw [dataset, document]
    cases data <;> rfl
  | some opening =>
    rcases same.last_context opening current with ⟨_, _, _, _, _, _, _, dataset, document, _⟩
    rw [dataset, document]
    rfl

/-- A host all of whose contexts were ended has no open one. -/
theorem closed (same : contract.Matches service host) (ended : host.openContexts = []) :
    service.current = none := by
  cases current : service.current with
  | none => rfl
  | some opening =>
    rcases same.last_context opening current with ⟨old, handle, _, _, contexts, _⟩
    unfold Host.openContexts at ended
    rw [List.filter_eq_nil_iff] at ended
    have phase := ended ⟨handle, opening.phase⟩ (by rw [contexts]; simp)
    exact absurd (decide_eq_true opening.phase_ne_destroyed) phase

/-- Only the last context of a host can be open. -/
theorem handle_of_open (same : contract.Matches service host) (handle : Handle) (phase : Phase)
    (last : host.contexts[service.ended]? = some ⟨handle, phase⟩) (context : Context)
    (member : context ∈ host.contexts) (going : context.phase ≠ .destroyed) :
    context.handle = handle := by
  cases current : service.current with
  | none =>
    have phases := same.phases_eq
    unfold Service.phases at phases
    rw [current] at phases
    have phase : context.phase ∈ List.replicate service.ended Phase.destroyed := by
      rw [← List.append_nil (List.replicate _ _)]
      exact phases ▸ List.mem_map_of_mem member
    exact absurd (List.eq_of_mem_replicate phase) going
  | some opening =>
    rcases same.last_context opening current with ⟨old, other, _, _, contexts, found, ended, _⟩
    rw [found] at last
    cases last
    rw [contexts] at member
    rcases List.mem_append.mp member with earlier | earlier
    · have phase : context.phase ∈ List.replicate service.ended Phase.destroyed := by
        rw [← ended]
        exact List.mem_map_of_mem earlier
      exact absurd (List.eq_of_mem_replicate phase) going
    · rw [List.mem_singleton.mp earlier]

theorem context_cases (same : contract.Matches service host) (id : ContextId) :
    (service.context id = .error .noSlot ∧ host.contexts[id]? = none ∧
        (id = service.ended → service.current = none)) ∨
      (service.context id = .ok none ∧ id ≠ service.ended ∧
        ∃ context, host.contexts[id]? = some context ∧ context.phase = .destroyed) ∨
      ∃ opening, service.context id = .ok (some opening) ∧ id = service.ended ∧
        service.current = some opening := by
  have phases := same.phases_eq
  unfold Service.phases at phases
  have found : (host.contexts[id]?).map (·.phase) =
      (List.replicate service.ended Phase.destroyed ++
        (service.current.map (·.phase)).toList)[id]? := by
    rw [← phases, List.getElem?_map]
  unfold Service.context
  rcases Nat.lt_trichotomy id service.ended with below | rfl | above
  · refine Or.inr (Or.inl ⟨if_pos below, Nat.ne_of_lt below, ?_⟩)
    rw [List.getElem?_append_left (by rwa [List.length_replicate]),
      List.getElem?_replicate_of_lt below] at found
    rcases Option.map_eq_some_iff.mp found with ⟨context, here, phase⟩
    exact ⟨context, here, phase⟩
  · rw [if_neg (Nat.lt_irrefl _), if_pos rfl]
    cases current : service.current with
    | none =>
      rw [current, List.getElem?_append_right (Nat.le_of_eq List.length_replicate)] at found
      exact Or.inl ⟨rfl, Option.map_eq_none_iff.mp found, fun _ => rfl⟩
    | some opening => exact Or.inr (Or.inr ⟨opening, rfl, rfl, rfl⟩)
  · rw [if_neg (Nat.lt_asymm above), if_neg (Nat.ne_of_gt above)]
    have few : (service.current.map (·.phase)).toList.length ≤ 1 := by
      cases service.current <;> simp
    have outside : (List.replicate service.ended Phase.destroyed ++
        (service.current.map (·.phase)).toList).length ≤ id := by
      rw [List.length_append, List.length_replicate]
      omega
    rw [List.getElem?_eq_none outside, Option.map_eq_none_iff] at found
    exact Or.inl ⟨rfl, found, fun equal => absurd equal (Nat.ne_of_gt above)⟩

end Matches

theorem Matches.restored (same : contract.Matches service host) (closed : service.current = none)
    (guest : Instance σ) (dataset : Option Address) (lockings : List Locking) :
    Books service { host with guest, dataset, busy := false, lockings } :=
  ⟨same.entrypoints_eq, same.leak_eq, by rw [closed]; rfl, same.phases_eq⟩

/-- Where a host stands that has given the lock back, with what it holds then. -/
theorem Matches.settled (same : contract.Matches service host) (closed : service.current = none)
    {checkpoints : Checkpoints} {guest : Instance σ} {dataset : Option Address}
    {document : Option δ} (data : Option (Address × δ)) (placed : dataset = data.map (·.1))
    (known : document = data.map (·.2)) (idle : contract.idle checkpoints data guest)
    (lockings : List Locking) :
    contract.Matches { service with data := document }
      { host with guest, checkpoints, dataset, busy := false, lockings } := by
  refine ⟨same.discipline_eq, same.terms_eq, same.entrypoints_eq, same.leak_eq, ?_⟩
  unfold Holds
  dsimp only
  rw [closed]
  exact ⟨rfl, (same.idle closed).2.1, data, placed, known, idle⟩

/-- The guest was lost during a piece of work that ends no context. -/
theorem Carries.fell {use : Host.Use} {work : Work δ} {fault : Fault} {after : Host σ}
    (demanded : service.demand use = .work work) (lost : after.guest.trapped = true)
    (known : contract.fell work fault host.guest after.guest)
    (books : Books (service.noticed use) after) :
    contract.Carries service use host (.error fault) after :=
  Or.inl ⟨lost, work, fault, demanded, known, Or.inr ⟨rfl, books⟩⟩

/-- The guest was lost while a context was being ended, whatever was made of
that. -/
theorem Carries.fell_closing {use : Host.Use} {fault : Fault} {after : Host σ}
    (demanded : service.demand use = .work .close) (lost : after.guest.trapped = true)
    (known : contract.fell .close fault host.guest after.guest)
    (outcome : Except Fault Host.Answer) : contract.Carries service use host outcome after :=
  Or.inl ⟨lost, .close, fault, demanded, known, Or.inl rfl⟩

/-- A use that is answered at once leaves host and guest as they are. -/
theorem Carries.answered {use : Host.Use} {outcome : Except Fault Host.Answer}
    (same : contract.Matches service host) (demanded : service.demand use = .answer outcome)
    (unnoticed : service.noticed use = service) :
    contract.Carries service use host outcome host := by
  refine Or.inr (Or.inr ⟨⟨List.prefix_refl _, fun _ => rfl, ?_⟩, service, ?_, same⟩)
  · rw [demanded]
    exact ⟨rfl, rfl⟩
  · unfold Service.Step
    rw [demanded]
    exact ⟨rfl, unnoticed.symm⟩

/-- A use that is answered while the lock is held for it gives the lock back. -/
theorem Carries.answered_locked {use : Host.Use} {outcome : Except Fault Host.Answer}
    (same : contract.Matches service host) (free : host.busy = false)
    (demanded : service.demand use = .answer outcome) (unnoticed : service.noticed use = service)
    (lockings : List Locking) :
    contract.Carries service use host outcome { host with busy := false, lockings } := by
  have standing : contract.Matches service { host with busy := false, lockings } := by
    refine ⟨same.discipline_eq, same.terms_eq, same.entrypoints_eq, same.leak_eq, ?_⟩
    have holds := same.holds
    unfold Holds at holds ⊢
    rw [free] at holds
    exact holds
  refine Or.inr (Or.inr ⟨⟨List.prefix_refl _, fun _ => rfl, ?_⟩, service, ?_, standing⟩)
  · rw [demanded]
    exact ⟨rfl, rfl⟩
  · unfold Service.Step
    rw [demanded]
    exact ⟨rfl, unnoticed.symm⟩

theorem Carries.worked {use : Host.Use} {work : Work δ} {outcome : Except Fault Host.Answer}
    {after : Host σ} {service' : Service δ} (demanded : service.demand use = .work work)
    (handles : host.contexts.map (·.handle) <+: after.contexts.map (·.handle))
    (dataset : (∀ raw, work ≠ .install raw) → after.dataset = host.dataset)
    (worked : contract.Worked host after outcome (.work work))
    (does : Service.Does contract.discipline semantics (service.noticed use) work outcome service')
    (matched : contract.Matches service' after) :
    contract.Carries service use host outcome after := by
  refine Or.inr (Or.inr ⟨⟨handles, fun other => dataset ?_, ?_⟩, service',
    .of_work demanded does, matched⟩)
  · rintro raw rfl
    exact other raw demanded
  · rw [demanded]
    exact worked

/-- Every way a use can end is carried by the service. -/
def Performs (contract : Contract σ semantics) (service : Service δ) (use : Host.Use)
    (host : Host σ) : Prop :=
  Operation.Ends (Host.perform use) host
    (fun answer after => contract.Carries service use host (.ok answer) after)
    (fun fault after => contract.Carries service use host (.error fault) after)

/-- Replacing the dataset. -/
theorem performs_setData (same : contract.Matches service host) (value : Value) :
    contract.Performs service (.setData value) host := by
  unfold Performs Host.perform Host.setData
  rw [Operation.ends_bind, Operation.ends_bind,
    Host.checkUsable_ends host same.leak_eq same.open_eq]
  cases current : service.current with
  | some opening =>
    rw [Host.exclusively_busy (same.busy current)]
    exact Carries.answered same (by simp [Service.demand, current]) rfl
  | none =>
    rcases same.idle current with ⟨free, ended, data, dataset, document, idle⟩
    refine Host.exclusively_free free ?_
    rw [Operation.ends_bind, Operation.ends_liftReport]
    cases encoded : Payload.encode value with
    | error r =>
      exact ⟨rfl, Carries.answered_locked same free
        (by simp [Service.demand, current, encoded]) rfl _⟩
    | ok raw =>
      have demanded : service.demand (.setData value) = .work (.install raw) := by
        simp [Service.demand, current, encoded]
      have installs := contract.install _ _ _ raw idle (Payload.encode_ne_nil value raw encoded)
      rw [← same.discipline_eq, ← same.terms_eq, ← dataset] at installs
      dsimp only
      rw [Operation.ends_bind, Operation.ends_get, Operation.ends_bind, Operation.ends_modify,
        Operation.ends_bind, Host.onGuest_ends]
      refine installs.mono ?_ ?_
      · rintro ⟨address, checkpoints⟩ after ⟨d, accepted, base, installed, moved⟩
        rw [Operation.ends_bind, Operation.ends_modify]
        refine Host.log_ends _ _ _ _ _ _ ?_
        intro journal
        refine ⟨rfl, Carries.worked demanded (List.prefix_refl _)
          (fun other => absurd rfl (other raw)) ⟨.installed, .installed raw _,
            contract.installed_journal _ _ _ journal moved, base, fun other => absurd rfl other,
            fun _ impossible => nomatch impossible⟩ (.installed raw d accepted) ?_⟩
        exact same.settled current (some (address, d)) rfl rfl
          (contract.idle_journal _ _ _ journal installed) _
      · rintro fault after (⟨lost, known⟩ | excused | ⟨refused, discarded, moved⟩)
        · exact ⟨rfl, Carries.fell demanded lost known (same.restored current ..)⟩
        · exact ⟨rfl, Or.inr (Or.inl ⟨fault, rfl, excused⟩)⟩
        · refine ⟨rfl, Carries.worked demanded (List.prefix_refl _)
            (fun other => absurd rfl (other raw)) ⟨.discarded, .discarded raw fault, moved, rfl,
              fun _ => rfl, fun _ impossible => nomatch impossible⟩
            (.discarded raw fault refused) ?_⟩
          exact same.settled current none rfl rfl discarded _

/-- A single evaluation that comes to the guest. -/
theorem evaluate_carries (same : contract.Matches service host) (current : service.current = none)
    {use : Host.Use} {path : String} {entrypoint : Int} {input : Value} {raw : Bytes}
    {schema : Schema} {address : Address} {y : δ} (encoded : Payload.encode input = .ok raw)
    (demanded : service.demand use = .work (.evaluate path entrypoint schema raw y))
    (unnoticed : service.noticed use = service) (dataset : host.dataset = some address)
    (document : service.data = some y)
    (idle : contract.idle host.checkpoints (some (address, y)) host.guest)
    (lockings : List Locking) :
    Operation.Ends (host.discipline.evaluate host.terms host.checkpoints path entrypoint address
        input schema) host.guest
      (fun value after => contract.Carries service use host (.ok (.value value))
        { host with guest := after, busy := false, lockings })
      (fun fault after => contract.Carries service use host (.error fault)
        { host with guest := after, busy := false, lockings }) := by
  have noted : ∀ (outcome : Except Fault Value) (after : Instance σ),
      contract.idle host.checkpoints (some (address, y)) after →
      ((∃ fault, outcome = .error fault ∧ fault.isShortage) ∨
        semantics.JudgesText path (UInt32.ofInt entrypoint) schema raw y host.discipline outcome) →
      contract.moved .evaluated host.checkpoints host.guest after →
      contract.Carries service use host (outcome.map .value)
        { host with guest := after, busy := false, lockings } := by
    intro outcome after idle judged moved
    rw [same.discipline_eq] at judged
    refine Carries.worked demanded (List.prefix_refl _) (fun _ => rfl)
      ⟨.evaluated, .evaluated .., moved, rfl, fun _ => rfl, fun _ impossible => nomatch impossible⟩
      (.evaluated _ _ _ _ _ outcome judged) ?_
    rw [unnoticed]
    exact same.settled current (some (address, y)) dataset document idle _
  have evaluates := contract.evaluate _ address y _ path entrypoint input raw schema idle encoded
  rw [← same.discipline_eq, ← same.terms_eq] at evaluates
  refine evaluates.mono ?_ ?_
  · rintro value after ⟨idle, judged, moved⟩
    exact noted (.ok value) after idle (Or.inr judged) moved
  · rintro fault after (⟨lost, known⟩ | excused | ⟨idle, judged, moved⟩)
    · refine Carries.fell demanded lost known ?_
      rw [unnoticed]
      exact same.restored current ..
    · exact Or.inr (Or.inl ⟨fault, rfl, excused⟩)
    · refine noted (.error fault) after idle ?_ moved
      exact judged.imp_left fun short => ⟨fault, rfl, short⟩

/-- A single evaluation, by itself or for a binding. -/
theorem eval_carries (same : contract.Matches service host) (use : Host.Use) (entrypoint : String)
    (input : Value) (schema : Schema)
    (asks : service.demand use = service.demandEval entrypoint input schema)
    (unnoticed : service.noticed use = service) :
    Operation.Ends (Host.eval entrypoint input schema) host
      (fun value after => contract.Carries service use host (.ok (.value value)) after)
      (fun fault after => contract.Carries service use host (.error fault) after) := by
  unfold Host.eval
  rw [Operation.ends_bind, Host.checkUsable_ends host same.leak_eq same.open_eq]
  unfold Service.demandEval at asks
  cases current : service.current with
  | some opening =>
    rw [current] at asks
    rw [Host.exclusively_busy (same.busy current)]
    exact Carries.answered same asks unnoticed
  | none =>
    rw [current] at asks
    rcases same.idle current with ⟨free, ended, data, dataset, document, idle⟩
    have restored : ∀ fault, service.demand use = .answer (.error fault) →
        contract.Carries service use host (.error fault) { host with
          busy := false
          lockings := .released none :: .taken :: host.lockings } :=
      fun fault demanded => Carries.answered_locked same free demanded unnoticed _
    refine Host.exclusively_free free ?_
    rw [Operation.ends_bind,
      Host.resolve_ends { host with busy := true, lockings := .taken :: host.lockings } service
        entrypoint same.entrypoints_eq]
    cases resolved : service.resolve entrypoint with
    | error fault =>
      rw [resolved] at asks
      exact ⟨rfl, restored fault asks⟩
    | ok found =>
      rw [resolved] at asks
      dsimp only
      rw [Operation.ends_bind]
      cases data with
      | none =>
        rw [document] at asks
        rw [Host.requireData_none
          { host with busy := true, lockings := .taken :: host.lockings } dataset]
        exact ⟨rfl, restored _ asks⟩
      | some pair =>
        rcases pair with ⟨address, y⟩
        rw [document] at asks
        rw [Host.requireData_some
          { host with busy := true, lockings := .taken :: host.lockings } dataset,
          Host.onGuest_ends]
        cases encoded : Payload.encode input with
        | error r =>
          rw [encoded] at asks
          exact Discipline.evaluate_unserializable _ _ _ _ _ _ _ _ _ r encoded _ _
            ⟨rfl, restored _ asks⟩
        | ok raw =>
          rw [encoded] at asks
          have carries := evaluate_carries same current encoded asks unnoticed dataset document idle
            (.released none :: .taken :: host.lockings)
          exact carries.mono (fun _ _ carried => ⟨rfl, carried⟩) fun _ _ carried => ⟨rfl, carried⟩

theorem performs_eval (same : contract.Matches service host) (entrypoint : String) (input : Value)
    (schema : Schema) : contract.Performs service (.eval entrypoint input schema) host := by
  unfold Performs Host.perform
  rw [Operation.ends_bind]
  exact eval_carries same (.eval entrypoint input schema) entrypoint input schema rfl rfl

theorem performs_decide (same : contract.Matches service host) (binding : Binding)
    (input : Value) : contract.Performs service (.decide binding input) host := by
  unfold Performs Host.perform Host.decide
  rw [Operation.ends_bind, Operation.ends_bind, Operation.ends_liftReport]
  cases prepared : binding.prepareInput input with
  | error r =>
    exact Carries.answered same (by simp [Service.demand, prepared]) rfl
  | ok input' =>
    exact eval_carries same (.decide binding input) binding.path input' binding.output
      (by simp [Service.demand, prepared]) rfl

/-- Opening a context keeps the lock, unless it comes to nothing. -/
theorem performs_openContext (same : contract.Matches service host) (input : Value) :
    contract.Performs service (.openContext input) host := by
  unfold Performs Host.perform Host.openContext
  rw [Operation.ends_bind, Operation.ends_bind,
    Host.checkUsable_ends host same.leak_eq same.open_eq, Operation.ends_bind]
  cases current : service.current with
  | some opening =>
    rw [Host.acquire_busy (same.busy current)]
    exact Carries.answered same (by simp [Service.demand, current]) rfl
  | none =>
    rcases same.idle current with ⟨free, ended, data, dataset, document, idle⟩
    rw [Host.acquire_free free, Operation.ends_bind, Operation.ends_onFault, Operation.ends_bind]
    cases data with
    | none =>
      rw [Host.requireData_none
        { host with busy := true, lockings := .taken :: host.lockings } dataset,
        Host.release_ends _ none rfl]
      exact Carries.answered_locked same free (by simp [Service.demand, current, document]) rfl _
    | some pair =>
      rcases pair with ⟨address, y⟩
      have demanded : service.demand (.openContext input) =
          .work (.openContext (Payload.encode input) y) := by
        simp [Service.demand, current, document]
      have opens := contract.openContext _ address y _ input idle
      rw [← same.discipline_eq, ← same.terms_eq] at opens
      rw [Host.requireData_some
        { host with busy := true, lockings := .taken :: host.lockings } dataset,
        Host.onGuest_ends]
      refine opens.mono ?_ ?_
      · rintro handle after ⟨raw, x, encoded, accepted, held, moved⟩
        rw [encoded] at demanded
        have count : host.contexts.length = service.ended := by
          rw [← List.length_map (f := (·.phase)), ended, List.length_replicate]
        have opened : Service.Does contract.discipline semantics service (.openContext (.ok raw) y)
            (.ok (.context host.contexts.length))
            { service with current := some ⟨false, x, y⟩ } := by
          rw [count]
          exact .opened raw x y accepted
        refine Carries.worked demanded ?_ (fun _ => rfl) ⟨.opened, .opened .., moved, rfl,
          fun _ => rfl, fun _ impossible => nomatch impossible⟩ opened ?_
        · rw [List.map_append]
          exact List.prefix_append _ _
        · refine ⟨same.discipline_eq, same.terms_eq, same.entrypoints_eq, same.leak_eq, ?_⟩
          exact ⟨rfl, host.contexts, handle, address, rfl, ended, dataset, document, held⟩
      · rintro fault after failed
        rw [Host.release_ends _ none rfl]
        rcases failed with ⟨lost, known⟩ | excused | ⟨refused, idle, moved⟩
        · exact Carries.fell demanded lost known (same.restored current ..)
        · exact Or.inr (Or.inl ⟨fault, rfl, excused⟩)
        · refine Carries.worked demanded (List.prefix_refl _) (fun _ => rfl) ⟨.unopened,
            .unopened .., moved, rfl, fun _ => rfl, fun _ impossible => nomatch impossible⟩
            (.unopened _ y fault refused) ?_
          exact same.settled current (some (address, y)) dataset document idle _

theorem modify_last (old : List Context) (context : Context) (change : Context → Context) :
    (old ++ [context]).modify old.length change = old ++ [change context] := by
  rw [List.modify_eq_take_drop, List.take_left, List.drop_left]
  rfl

theorem handles_last (old : List Context) (handle : Handle) (before after : Phase) :
    (old ++ [(⟨handle, before⟩ : Context)]).map (·.handle) <+:
      (old ++ [(⟨handle, after⟩ : Context)]).map (·.handle) := by
  rw [List.map_append, List.map_append]
  exact List.prefix_refl _

/-- A context that was used stays open and counts as used, whatever came of it. -/
theorem Matches.used (same : contract.Matches service host) (after : Instance σ)
    {opening : Opening δ} {old : List Context} {handle : Handle} {address : Address}
    (current : service.current = some opening)
    (ended : old.map (·.phase) = List.replicate service.ended .destroyed)
    (dataset : host.dataset = some address) (document : service.data = some opening.data)
    (held : contract.held host.checkpoints (address, opening.data) (handle, opening.input) after) :
    contract.Matches { service with current := some { opening with used := true } }
      { host with guest := after, contexts := old ++ [⟨handle, .evaluating⟩] } :=
  ⟨same.discipline_eq, same.terms_eq, same.entrypoints_eq, same.leak_eq, same.busy current, old,
    handle, address, rfl, ended, dataset, document, held⟩

/-- An evaluation in the open context that comes to the guest. -/
theorem contextEvaluate_carries (same : contract.Matches service host) {use : Host.Use}
    {path : String} {entrypoint : Int} {schema : Schema} {opening : Opening δ}
    {old : List Context} {handle : Handle} {address : Address}
    (current : service.current = some opening)
    (demanded : service.demand use =
      .work (.contextEval path entrypoint schema opening.input opening.data))
    (used : service.noticed use = { service with current := some { opening with used := true } })
    (contexts : host.contexts = old ++ [⟨handle, opening.phase⟩])
    (ended : old.map (·.phase) = List.replicate service.ended .destroyed)
    (dataset : host.dataset = some address) (document : service.data = some opening.data)
    (held : contract.held host.checkpoints (address, opening.data) (handle, opening.input)
      host.guest) :
    Operation.Ends (host.discipline.contextEval host.terms handle path entrypoint schema) host.guest
      (fun value after => contract.Carries service use host (.ok (.value value))
        { host with guest := after, contexts := old ++ [⟨handle, .evaluating⟩] })
      (fun fault after => contract.Carries service use host (.error fault)
        { host with guest := after, contexts := old ++ [⟨handle, .evaluating⟩] }) := by
  have noted : ∀ (outcome : Except Fault Value) (after : Instance σ),
      contract.held host.checkpoints (address, opening.data) (handle, opening.input) after →
      semantics.Judges Exchange.unread path (UInt32.ofInt entrypoint) schema opening.input
        opening.data outcome →
      contract.moved (.contextEvaluated handle) host.checkpoints host.guest after →
      contract.Carries service use host (outcome.map .value)
        { host with guest := after, contexts := old ++ [⟨handle, .evaluating⟩] } := by
    intro outcome after held judged moved
    have handles : host.contexts.map (·.handle) <+:
        (old ++ [(⟨handle, .evaluating⟩ : Context)]).map (·.handle) := by
      rw [contexts]
      exact handles_last ..
    refine Carries.worked demanded handles (fun _ => rfl) ⟨.contextEvaluated handle,
      .contextEvaluated .., moved, rfl, fun _ => rfl, ?_⟩
      (.contextEvaluated _ _ _ _ _ outcome judged) ?_
    · rintro _ ⟨⟩
      exact ⟨⟨handle, opening.phase⟩, by rw [contexts]; simp, rfl, opening.phase_ne_destroyed⟩
    · rw [used]
      exact same.used after current ended dataset document held
  have evaluates := contract.contextEval _ _ _ _ _ _ path entrypoint schema held
  rw [← same.discipline_eq, ← same.terms_eq] at evaluates
  refine evaluates.mono ?_ ?_
  · rintro value after ⟨held, judged, moved⟩
    exact noted (.ok value) after held judged moved
  · rintro fault after (⟨lost, known⟩ | ⟨held, judged, moved⟩)
    · refine Carries.fell demanded lost known ?_
      rw [used]
      refine ⟨same.entrypoints_eq, same.leak_eq, same.busy current, ?_⟩
      dsimp only [Service.phases]
      rw [List.map_append, ended]
      rfl
    · exact noted (.error fault) after held judged moved

/-- A context may be used, unless it was ended, and it is remembered that it
was. -/
theorem performs_contextEval (same : contract.Matches service host) (id : ContextId)
    (entrypoint : String) (schema : Schema) :
    contract.Performs service (.contextEval id entrypoint schema) host := by
  unfold Performs Host.perform Host.contextEval
  rw [Operation.ends_bind, Operation.ends_bind, Host.context_ends]
  rcases same.context_cases id with ⟨asked, missing, closed⟩ |
    ⟨asked, other, context, found, phase⟩ | ⟨opening, asked, rfl, current⟩
  · rw [missing]
    refine Carries.answered same (by simp [Service.demand, asked]) ?_
    by_cases equal : id = service.ended
    · exact Service.noticed_closed service id entrypoint schema (closed equal)
    · exact if_neg equal
  · rw [found]
    dsimp only
    rw [if_pos phase]
    exact Carries.answered same (by simp [Service.demand, asked]) (if_neg other)
  · rcases same.last_context opening current with
      ⟨old, handle, address, count, contexts, found, ended, dataset, document, held⟩
    rw [found]
    dsimp only
    rw [if_neg opening.phase_ne_destroyed, Operation.ends_bind, Host.setPhase,
      Operation.ends_modify]
    have used : service.noticed (.contextEval service.ended entrypoint schema) =
        { service with current := some { opening with used := true } } := by
      unfold Service.noticed
      dsimp only
      rw [if_pos rfl, current, Option.map_some]
    have marked : host.contexts.modify service.ended (fun c => { c with phase := .evaluating }) =
        old ++ [⟨handle, .evaluating⟩] := by
      rw [contexts, ← count, modify_last]
    rw [marked]
    rw [Operation.ends_bind,
      Host.checkUsable_ends { host with contexts := old ++ [⟨handle, .evaluating⟩] }
        same.leak_eq same.open_eq, Operation.ends_bind,
      Host.resolve_ends { host with contexts := old ++ [⟨handle, .evaluating⟩] }
        service entrypoint same.entrypoints_eq]
    cases resolved : service.resolve entrypoint with
    | error fault =>
      have demanded : service.demand (.contextEval service.ended entrypoint schema) =
          .answer (.error fault) := by
        simp [Service.demand, asked, resolved]
      have handles : host.contexts.map (·.handle) <+:
          (old ++ [(⟨handle, .evaluating⟩ : Context)]).map (·.handle) := by
        rw [contexts]
        exact handles_last ..
      refine Or.inr (Or.inr ⟨⟨handles, fun _ => rfl, ?_⟩, _, ?_,
        same.used host.guest current ended dataset document held⟩)
      · rw [demanded]
        exact ⟨rfl, rfl⟩
      · unfold Service.Step
        rw [demanded, used]
        exact ⟨rfl, rfl⟩
    | ok found =>
      have demanded : service.demand (.contextEval service.ended entrypoint schema) =
          .work (.contextEval found.1 found.2 schema opening.input opening.data) := by
        simp [Service.demand, asked, resolved]
      dsimp only
      rw [Host.onGuest_ends]
      exact contextEvaluate_carries same current demanded used contexts ended dataset document held

/-- Ending the open context gives back the lock.  Only a guest that is lost
can fail to release what the context owns. -/
theorem teardown_carries (same : contract.Matches service host) (use : Host.Use)
    (unwinding : Bool) (opening : Opening δ) (current : service.current = some opening)
    (demanded : service.demand use = .work .close) (unnoticed : service.noticed use = service) :
    Operation.Ends (Host.teardown service.ended unwinding) host
      (fun _ after => contract.Carries service use host (.ok .done) after)
      (fun _ after => after.guest.trapped = true ∧
        ∃ fault, contract.fell .close fault host.guest after.guest) := by
  rcases same.last_context opening current with
    ⟨old, handle, address, count, contexts, found, ended, dataset, document, held⟩
  have busy := same.busy current
  have ended_eq : (host.marked service.ended).contexts = old ++ [⟨handle, .destroyed⟩] := by
    change host.contexts.modify service.ended (fun c => { c with phase := .destroyed }) = _
    rw [contexts, ← count, modify_last]
  have closes := contract.closeContext _ _ _ _ held
  rw [← same.discipline_eq, ← same.terms_eq] at closes
  rw [Host.teardown_ends _ _ _ found opening.phase_ne_destroyed, Host.releaseContext,
    Operation.ends_ensuring, Host.onGuest_ends]
  refine closes.mono ?_ ?_
  · rintro ⟨⟩ after ⟨idle, moved⟩
    refine (Host.release_ends _ _ (by exact busy)).mpr ?_
    refine Carries.worked demanded ?_ (fun _ => rfl) ⟨.released, .released .done, moved, rfl,
      fun _ => rfl, fun _ impossible => nomatch impossible⟩ .closed ?_
    · dsimp only
      rw [ended_eq, contexts]
      exact handles_last ..
    · rw [unnoticed]
      refine ⟨same.discipline_eq, same.terms_eq, same.entrypoints_eq, same.leak_eq, rfl, ?_,
        some (address, opening.data), dataset, document, idle⟩
      dsimp only
      rw [ended_eq, List.map_append, ended, List.replicate_succ', List.map_singleton]
  · rintro fault after ⟨lost, known⟩
    refine (Host.release_ends _ _ (by exact busy)).mpr ?_
    cases unwinding with
    | true =>
      rw [if_pos rfl]
      exact Host.log_ends _ _ _ _ _ _ fun journal => Carries.fell_closing demanded lost
        (contract.fell_journal _ _ _ _ journal known) _
    | false => exact ⟨lost, fault, known⟩

theorem performs_destroy (same : contract.Matches service host) (id : ContextId) :
    contract.Performs service (.destroy id) host := by
  unfold Performs Host.perform Host.destroy
  rw [Operation.ends_bind, Operation.ends_bind, Host.context_ends]
  rcases same.context_cases id with ⟨asked, missing, _⟩ | ⟨asked, _, context, found, phase⟩ |
    ⟨opening, asked, rfl, current⟩
  · rw [missing]
    exact Carries.answered same (by simp [Service.demand, Service.demandEnd, asked]) rfl
  · rw [found]
    dsimp only
    rw [if_pos phase]
    exact Carries.answered same (by simp [Service.demand, Service.demandEnd, asked]) rfl
  · rcases same.last_context opening current with ⟨_, handle, _, _, _, found, _⟩
    rw [found]
    dsimp only
    rw [if_neg opening.phase_ne_destroyed]
    have demanded : service.demand (.destroy service.ended) = .work .close := by
      simp [Service.demand, Service.demandEnd, asked]
    refine (teardown_carries same _ false opening current demanded rfl).mono
      (fun _ _ carried => carried) ?_
    rintro fault after ⟨lost, _, known⟩
    exact Carries.fell_closing demanded lost known _

/-- Leaving a block whose context was ended already does nothing. -/
theorem performs_leave (same : contract.Matches service host) (id : ContextId)
    (unwinding : Bool) : contract.Performs service (.leave id unwinding) host := by
  unfold Performs Host.perform
  rw [Operation.ends_bind]
  rcases same.context_cases id with ⟨asked, missing, _⟩ | ⟨asked, _, context, found, phase⟩ |
    ⟨opening, asked, rfl, current⟩
  · unfold Host.teardown
    rw [Operation.ends_bind, Host.context_ends, missing]
    exact Carries.answered same (by simp [Service.demand, Service.demandEnd, asked]) rfl
  · unfold Host.teardown
    rw [Operation.ends_bind, Host.context_ends, found]
    dsimp only
    rw [if_pos phase]
    exact Carries.answered same (by simp [Service.demand, Service.demandEnd, asked]) rfl
  · have demanded : service.demand (.leave service.ended unwinding) = .work .close := by
      simp [Service.demand, Service.demandEnd, asked]
    refine (teardown_carries same _ unwinding opening current demanded rfl).mono
      (fun _ _ carried => carried) ?_
    rintro fault after ⟨lost, _, known⟩
    exact Carries.fell_closing demanded lost known _

/-- A context that was ended already is dropped for nothing. -/
theorem performs_drop (same : contract.Matches service host) (id : ContextId) :
    contract.Performs service (.drop id) host := by
  unfold Performs Host.perform Host.drop
  rw [Operation.ends_bind, Operation.ends_bind, Host.context_ends]
  rcases same.context_cases id with ⟨asked, missing, _⟩ | ⟨asked, _, context, found, phase⟩ |
    ⟨opening, asked, rfl, current⟩
  · rw [missing]
    exact Carries.answered same (by simp [Service.demand, Service.demandEnd, asked]) rfl
  · rw [found]
    dsimp only
    rw [if_pos phase]
    exact Carries.answered same (by simp [Service.demand, Service.demandEnd, asked]) rfl
  · rcases same.last_context opening current with ⟨_, handle, _, _, _, found, _⟩
    rw [found]
    dsimp only
    rw [if_neg opening.phase_ne_destroyed, Operation.ends_bind, Operation.ends_attempt]
    have demanded : service.demand (.drop service.ended) = .work .close := by
      simp [Service.demand, Service.demandEnd, asked]
    refine (teardown_carries same _ false opening current demanded rfl).mono
      (fun _ _ carried => carried) ?_
    rintro fault after ⟨lost, _, known⟩
    dsimp only
    split
    · refine Host.log_ends _ _ _ _ _ _ ?_
      intro journal
      rw [Operation.ends_pure]
      exact Carries.fell_closing demanded (by exact lost)
        (contract.fell_journal _ _ _ _ journal known) _
    · exact Carries.fell_closing demanded lost known _

theorem performs_entrypointId (same : contract.Matches service host) (entrypoint : String) :
    contract.Performs service (.entrypointId entrypoint) host := by
  unfold Performs Host.perform
  rw [Operation.ends_bind, Host.resolve_ends host service entrypoint same.entrypoints_eq]
  cases resolved : service.resolve entrypoint with
  | ok found => exact Carries.answered same (by simp [Service.demand, resolved, Except.map]) rfl
  | error fault => exact Carries.answered same (by simp [Service.demand, resolved, Except.map]) rfl

theorem performs (same : contract.Matches service host) (use : Host.Use) :
    contract.Performs service use host := by
  cases use with
  | setData value => exact performs_setData same value
  | eval entrypoint input schema => exact performs_eval same entrypoint input schema
  | decide binding input => exact performs_decide same binding input
  | openContext input => exact performs_openContext same input
  | contextEval id entrypoint schema => exact performs_contextEval same id entrypoint schema
  | destroy id => exact performs_destroy same id
  | leave id unwinding => exact performs_leave same id unwinding
  | drop id => exact performs_drop same id
  | entrypointId entrypoint => exact performs_entrypointId same entrypoint

theorem carries (same : contract.Matches service host) (use : Host.Use) :
    contract.Carries service use host (Operation.outcome (Host.perform use) host).1
      (Operation.outcome (Host.perform use) host).2 := by
  rcases (performs same use).outcome with ⟨answer, outcome, carried⟩ | ⟨fault, outcome, carried⟩
  · rw [outcome]
    exact carried
  · rw [outcome]
    exact carried

/-- One use that leaves the guest usable, with a fault that is not excused if
it fails, is a step of the service. -/
theorem step (same : contract.Matches service host) (use : Host.Use)
    (spares : Host.Spares contract.excuses (Operation.outcome (Host.perform use) host).1)
    (usable : (Operation.outcome (Host.perform use) host).2.guest.trapped = false) :
    contract.Moved host (Operation.outcome (Host.perform use) host).2
        (Operation.outcome (Host.perform use) host).1 (service.demand use) ∧
      ∃ service', service.Step contract.discipline semantics use
          (Operation.outcome (Host.perform use) host).1 service' ∧
        contract.Matches service' (Operation.outcome (Host.perform use) host).2 := by
  rcases carries same use with falls | ⟨fault, failed, excused⟩ | stepped
  · exact nomatch usable.symm.trans falls.lost
  · exact absurd excused (spares fault failed)
  · exact stepped

theorem runs (same : contract.Matches service host) (uses : List Host.Use)
    (calm : Host.Calm contract.excuses uses host) :
    ∃ service', service.Runs contract.discipline semantics uses (Host.run uses host).1 service' ∧
      contract.Matches service' (Host.run uses host).2 := by
  induction uses generalizing service host with
  | nil => exact ⟨service, .nil service, same⟩
  | cons use rest inductionHypothesis =>
    rcases (step same use calm.2.1 calm.2.2.open_eq).2 with ⟨middle, stepped, standing⟩
    rcases inductionHypothesis standing calm.2.2 with ⟨after, rested, matched⟩
    exact ⟨after, .cons use _ service middle after rest _ stepped rested, matched⟩

end Contract
end PolicyHost
