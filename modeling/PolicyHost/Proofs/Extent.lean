import PolicyHost.Evaluation.Session
import PolicyHost.Proofs.Confinement
import PolicyHost.Proofs.Exclusion
import PolicyHost.Proofs.Finality

namespace PolicyHost

/-!
# The extent of guest memory

Whatever is done with a host, memory is only ever led on: by guest code because
the engine confines it, by the host because a raw write asks for pages before it
writes.  So the pages of a run never become fewer, and never more than the most
that the builder set, which is what the memory is made with.
-/

variable {σ α : Type}

open Operation

/-- What is known whatever went before, if it came to an end. -/
theorem Operation.ends_after {S α β : Type} {operation : Operation S α} {s : S}
    {next : α → Operation S β} {good : β → S → Prop}
    (ends : ∀ a middle, Ends (next a) middle good (fun _ _ => True)) :
    Ends (operation >>= next) s good (fun _ _ => True) := by
  rw [ends_bind]
  exact (ends_nothing _ _).mono (fun a middle _ => ends a middle) fun _ _ _ => trivial

namespace Instance

theorem follow_leads (run : Run σ α) (guest : Instance σ) (leads : run.LeadsFrom guest.memory) :
    guest.memory.Leads (follow run guest).2.memory := by
  induction run generalizing guest with
  | done result memory state => exact leads
  | trap memory state => exact leads
  | call request memory state rest inductionHypothesis =>
    have later := inductionHypothesis
      { guest with
        memory, state, journal := guest.journal.add (guest.handlers.react memory request) } leads.2
    simp only [follow]
    cases (guest.handlers.react memory request).fault with
    | some fault => exact leads.1
    | none => exact IsTrans.trans _ _ _ leads.1 later

/-- The guest later on, with the same module.  If its code is confined, memory
was led on. -/
structure Expands (before after : Instance σ) : Prop where
  module_eq : after.module = before.module
  leads : before.module.Confined → before.memory.Leads after.memory

instance : IsPreorder (Instance σ) Expands where
  refl guest := ⟨rfl, fun _ => refl guest.memory⟩
  trans first middle last early late := by
    refine ⟨late.module_eq.trans early.module_eq, fun confined => ?_⟩
    exact IsTrans.trans _ _ _ (early.leads confined)
      (late.leads (by rwa [early.module_eq]))

/-- So does every call, whatever is called. -/
theorem call_expands (name : String) (arguments : List Int) :
    Keeps (Expands (σ := σ)) (call name arguments) := by
  intro guest
  unfold Ends call
  cases guest.module.find? name with
  | none => exact refl guest
  | some entry =>
    cases entry with
    | constant value => exact refl guest
    | function arity =>
      dsimp only
      by_cases closed : guest.trapped = true
      · rw [if_pos closed]
        exact refl guest
      rw [if_neg closed]
      by_cases count : arguments.length ≠ arity
      · rw [if_pos count]
        exact ⟨rfl, fun _ => refl guest.memory⟩
      rw [if_neg count]
      have followed := follow_returned
        (guest.module.invoke name (arguments.map UInt32.ofInt) guest.memory guest.state)
        { guest with
          history := .call name (arguments.map UInt32.ofInt) guest.snapshot :: guest.history }
      have led := fun confined : guest.module.Confined => follow_leads
        (guest.module.invoke name (arguments.map UInt32.ofInt) guest.memory guest.state)
        { guest with
          history := .call name (arguments.map UInt32.ofInt) guest.snapshot :: guest.history }
        (confined.invoke name _ guest.memory guest.state)
      revert followed led
      dsimp only
      generalize follow _ _ = ran
      intro followed led
      rcases ran with ⟨ending, after⟩
      cases ending <;> exact ⟨followed.1, led⟩

/-- Whatever the host does, memory is led on. -/
theorem tracks_expands : Tracks (fun _ _ => True) (Expands (σ := σ)) where
  call name arguments _ _ := call_expands name arguments
  grown _ _ leads := ⟨rfl, fun _ => leads⟩
  written _ _ _ _ leads := ⟨rfl, fun _ => leads⟩
  logged guest _ := ⟨rfl, fun _ => refl guest.memory⟩

end Instance

namespace Region

open Instance

theorem grow_expands (terms : Terms) (extra : Int) :
    Keeps (Expands (σ := σ)) (grow terms extra) := by
  intro guest
  unfold Ends grow
  dsimp only
  by_cases refused : terms.refuses (guest.memory.pages + extra) = true
  · rw [if_pos refused]
    exact refl guest
  rw [if_neg refused]
  by_cases negative : extra < 0
  · rw [if_pos negative]
    exact refl guest
  rw [if_neg negative]
  cases grown : guest.memory.grow? extra.toNat with
  | some memory => exact ⟨rfl, fun _ => Memory.leads_grown grown⟩
  | none => exact refl guest

theorem ensure_expands (terms : Terms) (stop : Int) :
    Keeps (Expands (σ := σ)) (ensure terms stop) := by
  intro guest
  unfold Ends ensure
  dsimp only
  by_cases fits : stop ≤ guest.memory.size
  · rw [if_pos fits]
    exact refl guest
  · rw [if_neg fits]
    exact grow_expands terms _ guest

theorem allocate_expands (length : Int) : Keeps (Expands (σ := σ)) (allocate length) :=
  (callAddress_keeps (call_expands _ _)).bind fun _ => keeps_pure _

theorem read_expands (address : Address) (length : Int) :
    Keeps (Expands (σ := σ)) (read address length) :=
  fun guest => refl guest

theorem readView_expands (view : View) (offset : Int) (length : Option Int) :
    Keeps (Expands (σ := σ)) (readView view offset length) := by
  refine (keeps_lift _).bind fun _ => (keeps_lift _).bind fun address => ?_
  exact read_expands address _

theorem writeView_expands (terms : Terms) (view : View) (bytes : Bytes) (offset : Int) :
    Keeps (Expands (σ := σ)) (writeView terms view bytes offset) := by
  refine (keeps_lift _).bind fun _ => (keeps_lift _).bind fun address => ?_
  exact tracks_expands.write terms address bytes

end Region

namespace Host

open Instance

theorem Reaches.lives {before after : Host σ} (reaches : Reaches before after) :
    Lives Expands before after := by
  obtain ⟨uses, rfl⟩ := reaches
  exact run_lives tracks_expands uses before

end Host

namespace Session

open Instance Host

/-- The session later on, with the guest later on. -/
def Expands (before after : Session σ) : Prop :=
  Lives Instance.Expands before.host after.host

instance : IsPreorder (Session σ) Expands where
  refl session := refl (r := Lives Instance.Expands) session.host
  trans _ _ _ early late := IsTrans.trans (r := Lives Instance.Expands) _ _ _ early late

theorem onHost_expands {operation : Operation (Host σ) α}
    (keeps : Keeps (Lives Instance.Expands) operation) : Keeps Expands (onHost operation) := by
  intro session
  have ends := keeps session.host
  revert ends
  unfold Ends onHost
  cases operation session.host <;> exact id

theorem onGuest_expands {operation : Region.Terms → Operation (Instance σ) α}
    (keeps : ∀ terms, Keeps Instance.Expands (operation terms)) :
    Keeps Expands (onGuest operation) :=
  onHost_expands (onGuest_lives fun host => keeps host.terms)

theorem uses_expands {operation : Operation (Host σ) α} (keeps : Keeps Reaches operation) :
    Keeps Expands (onHost operation) :=
  onHost_expands fun host => (keeps host).mono (fun _ _ reaches => reaches.lives)
    fun _ _ reaches => reaches.lives

theorem contextAt_expands (name : String) : Keeps (Expands (σ := σ)) (contextAt name) := by
  refine keeps_get.bind fun session => ?_
  split
  · exact keeps_pure _
  · exact keeps_throw _

theorem viewAt_expands (name : String) : Keeps (Expands (σ := σ)) (viewAt name) := by
  refine keeps_get.bind fun session => ?_
  split
  · exact keeps_pure _
  · exact keeps_throw _

theorem resolve_expands (target : Target) : Keeps (Expands (σ := σ)) (resolve target) := by
  cases target with
  | number offset => exact keeps_lift _
  | slot name =>
    refine keeps_get.bind fun session => ?_
    split
    · exact keeps_pure _
    · exact keeps_throw _

theorem keep_expands (name : String) (address : Address) :
    Keeps (Expands (σ := σ)) (keep name address) :=
  Keeps.bind (fun session => refl (r := Expands) session) fun _ => keeps_pure _

theorem runProbe_expands (probe : Probe) : Keeps (Expands (σ := σ)) (runProbe probe) := by
  cases probe with
  | call name arguments =>
    refine (onGuest_expands fun _ => call_expands name arguments).bind fun result => ?_
    cases result <;> exact keeps_pure _
  | has name => exact keeps_get.bind fun _ => keeps_pure _
  | require names =>
    refine (onGuest_expands fun _ => ?_).bind fun _ => keeps_pure _
    intro guest
    unfold Ends Instance.require
    split <;> rename_i result <;> split at result <;> cases result <;> exact refl guest
  | globalValue name otherwise => exact keeps_get.bind fun _ => keeps_pure _
  | allocate length slot =>
    refine (onGuest_expands fun _ => Region.allocate_expands length).bind fun view => ?_
    exact Keeps.bind (fun session => refl (r := Expands) session) fun _ => keeps_pure _
  | free target =>
    refine (resolve_expands target).bind fun address => ?_
    exact (onGuest_expands fun terms => tracks_expands.free terms address).bind fun _ =>
      keeps_pure _
  | place bytes slot =>
    exact (onGuest_expands fun terms => tracks_expands.place terms bytes).bind fun address =>
      keep_expands slot address
  | heapPointer =>
    exact (onGuest_expands fun _ => tracks_expands.heapPointer).bind fun _ => keeps_pure _
  | setHeapPointer target =>
    refine (resolve_expands target).bind fun address => ?_
    exact (onGuest_expands fun _ => tracks_expands.setHeapPointer address).bind fun _ =>
      keeps_pure _
  | write target bytes =>
    refine (resolve_expands target).bind fun address => ?_
    exact (onGuest_expands fun terms => tracks_expands.write terms address bytes).bind fun _ =>
      keeps_pure _
  | read target length =>
    refine (resolve_expands target).bind fun address => ?_
    exact (onGuest_expands fun _ => Region.read_expands address length).bind fun _ => keeps_pure _
  | readUntilZero target =>
    refine (resolve_expands target).bind fun address => ?_
    exact (onGuest_expands fun _ guest => refl guest).bind fun _ => keeps_pure _
  | readText target =>
    refine (resolve_expands target).bind fun address => ?_
    exact (onGuest_expands fun _ guest => refl guest).bind fun _ => keeps_pure _
  | ensure stop =>
    exact (onGuest_expands fun terms => Region.ensure_expands terms stop).bind fun _ =>
      keeps_pure _
  | grow pages =>
    exact (onGuest_expands fun terms => Region.grow_expands terms pages).bind fun _ =>
      keeps_pure _
  | readView slot offset length =>
    refine (viewAt_expands slot).bind fun view => ?_
    exact (onGuest_expands fun _ => Region.readView_expands view offset length).bind fun _ =>
      keeps_pure _
  | writeView slot bytes offset =>
    refine (viewAt_expands slot).bind fun view => ?_
    exact (onGuest_expands fun terms => Region.writeView_expands terms view bytes offset).bind
      fun _ => keeps_pure _
  | writeValue value slot =>
    refine (onGuest_expands fun terms => ?_).bind fun address => keep_expands slot address
    exact (keeps_liftReport _).bind fun raw => tracks_expands.writeEncoded terms raw
  | writeEncoded bytes slot =>
    exact (onGuest_expands fun terms => tracks_expands.writeEncoded terms bytes).bind
      fun address => keep_expands slot address
  | readRaw target =>
    refine (resolve_expands target).bind fun address => ?_
    exact (onGuest_expands fun terms => tracks_expands.readRaw terms address).bind fun _ =>
      keeps_pure _
  | readValue target schema =>
    refine (resolve_expands target).bind fun address => onGuest_expands fun terms => ?_
    exact (tracks_expands.readRaw terms address).bind fun _ => keeps_liftReport _

theorem eval_expands (entrypoint : String) (input : Value) (schema : Schema) :
    Keeps (Expands (σ := σ)) (onHost (Host.eval entrypoint input schema)) :=
  uses_expands (keeps_reaches (.eval entrypoint input schema) .value rfl)

theorem evalTimes_expands (entrypoint : String) (input : Value) (times : Nat) (last : Value) :
    Keeps (Expands (σ := σ)) (evalTimes entrypoint input times last) := by
  induction times generalizing last with
  | zero => exact keeps_pure _
  | succ times inductionHypothesis =>
    exact (eval_expands entrypoint input .any).bind fun value => inductionHypothesis value

/-- Every step leads memory on, whether it succeeds or not. -/
theorem run_expands (step : Step) : Keeps (Expands (σ := σ)) (run step) := by
  cases step with
  | setData value =>
    refine (uses_expands ?_).bind fun _ => keeps_pure _
    exact keeps_reaches (.setData value) (fun _ => .done) rfl
  | eval entrypoint input schema =>
    exact (eval_expands entrypoint input schema).bind fun _ => keeps_pure _
  | evalRepeatedly entrypoint input times =>
    exact (evalTimes_expands entrypoint input times .null).bind fun _ => keeps_pure _
  | decide binding input =>
    refine (keeps_lift _).bind fun binding => (uses_expands ?_).bind fun _ => keeps_pure _
    exact keeps_reaches (.decide binding input) .value rfl
  | openContext slot input =>
    refine (uses_expands (keeps_reaches (.openContext input) .context rfl)).bind fun id => ?_
    exact Keeps.bind (fun session => refl (r := Expands) session) fun _ => keeps_pure _
  | contextEval slot entrypoint schema =>
    refine (contextAt_expands slot).bind fun id => (uses_expands ?_).bind fun _ => keeps_pure _
    exact keeps_reaches (.contextEval id entrypoint schema) .value rfl
  | contextState slot =>
    refine (contextAt_expands slot).bind fun id => ?_
    exact (onHost_expands (context_reads id).keeps).bind fun _ => keeps_pure _
  | destroy slot =>
    refine (contextAt_expands slot).bind fun id => (uses_expands ?_).bind fun _ => keeps_pure _
    exact keeps_reaches (.destroy id) (fun _ => .done) rfl
  | drop slot =>
    refine (contextAt_expands slot).bind fun id => ?_
    refine Keeps.bind (fun session => refl (r := Expands) session) fun _ => ?_
    refine (uses_expands ?_).bind fun _ => keeps_pure _
    exact keeps_reaches (.drop id) (fun _ => .done) rfl
  | block input steps =>
    exact (uses_expands (withContext_reaches input steps)).bind fun _ => keeps_pure _
  | entrypointId entrypoint =>
    exact (onHost_expands (resolve_reads entrypoint).keeps).bind fun _ => keeps_pure _
  | probe probe => exact (runProbe_expands probe).bind fun _ => keeps_pure _

/-- A session after some steps. -/
def after (steps : List Step) (session : Session σ) : Session σ :=
  steps.foldl (fun session step => (session.advance step).2.2) session

theorem advance_expands (session : Session σ) (step : Step) :
    Expands session (session.advance step).2.2 := by
  have ran := run_expands step session
  revert ran
  unfold Ends advance
  cases run step session <;>
  · intro ran
    exact ⟨ran.discipline_eq, ran.maxPages_eq, ran.entrypoints_eq, ran.guest.module_eq,
      ran.guest.leads⟩

/-- So does every run, from any step to any later one. -/
theorem after_expands (steps : List Step) (session : Session σ) :
    Expands session (session.after steps) := by
  induction steps generalizing session with
  | nil => exact refl (r := Expands) session
  | cons step rest inductionHypothesis =>
    exact IsTrans.trans (r := Expands) _ _ _ (session.advance_expands step)
      (inductionHypothesis _)

end Session

namespace Builder

open Instance

theorem instantiate_leads {module : Module σ} {builder : Builder} {journal journal' : Journal}
    {host : Host σ} (confined : module.Confined)
    (built : builder.instantiate module journal = .ok host journal') :
    host.guest.module = module ∧
      (Memory.fresh initialPages builder.maxPages).Leads host.guest.memory := by
  have made := instantiate_made host.discipline (fun _ guest => guest.module = module ∧
    (Memory.fresh initialPages builder.maxPages).Leads guest.memory) ?_ rfl built
  · obtain ⟨_, _, guest, ready, guest_eq⟩ := made
    rw [guest_eq]
    exact ready
  · intro guest started _ _
    have begun := (confined.start _ _).outcome started.outcome
    refine (prepare_keeps tracks_expands host.discipline _ guest).mono ?_
      fun _ _ _ => trivial
    intro _ after expands
    exact ⟨expands.module_eq.trans started.module_eq,
      IsTrans.trans _ _ _ begun (expands.leads (by rwa [started.module_eq]))⟩

theorem instantiate_maxPages {module : Module σ} {builder : Builder} {journal journal' : Journal}
    {host : Host σ} (built : builder.instantiate module journal = .ok host journal') :
    host.maxPages = builder.maxPages := by
  have sets : ∀ started : Instance σ, Ends (initializeHost builder.maxPages) started
      (fun host _ => host.maxPages = builder.maxPages) (fun _ _ => True) := by
    intro started
    unfold initializeHost
    rw [ends_bind, ends_get]
    exact ends_after fun _ _ => ends_after fun _ _ => ends_after fun _ _ => ends_after fun _ _ =>
      rfl
  have made : Ends (builder.instantiate module) journal
      (fun made _ => made.maxPages = builder.maxPages) (fun _ _ => True) :=
    instantiate_ends builder module journal (fun _ _ _ => trivial) fun started _ =>
      (sets started).mono (fun _ _ same => same) fun _ _ _ => trivial
  exact made.of_ok built

end Builder

/-- What memory is like at two moments of a run, one after the other. -/
structure Session.Spans (builder : Builder) (before after : Session σ) : Prop where
  least : Builder.initialPages ≤ before.host.guest.memory.pages
  kept : before.host.guest.memory.pages ≤ after.host.guest.memory.pages
  most : ∀ most, builder.maxPages = some most → after.host.guest.memory.pages ≤ most
  sound : after.host.guest.memory.Sound
  within : after.host.terms.refuses after.host.guest.memory.pages = false

theorem Session.spans {module : Module σ} {builder : Builder} {journal journal' : Journal}
    {host : Host σ} (confined : module.Confined)
    (enough : ∀ most, builder.maxPages = some most → Builder.initialPages ≤ most)
    (built : builder.instantiate module journal = .ok host journal') (earlier later : List Step) :
    Spans builder (after earlier { host }) (after later (after earlier { host })) := by
  have fresh : (Memory.fresh Builder.initialPages builder.maxPages).Sound := by
    apply Memory.fresh_sound
    unfold Memory.bound Memory.fresh
    cases limit : builder.maxPages with
    | none => decide
    | some most => exact Nat.le_min.mpr ⟨enough most limit, by decide⟩
  obtain ⟨module_eq, begun⟩ := Builder.instantiate_leads confined built
  have early := (after_expands earlier { host }).guest
  have late := (after_expands later (after earlier { host })).guest
  have first := IsTrans.trans _ _ _ begun (early.leads (by rwa [module_eq]))
  have second := late.leads (by rwa [early.module_eq, module_eq])
  have led := IsTrans.trans _ _ _ first second
  have sound := led.sound fresh
  have most : ∀ most, builder.maxPages = some most →
      (after later (after earlier { host })).host.guest.memory.pages ≤ most := by
    intro most limit
    have bounded := sound.bounded
    unfold Memory.bound at bounded
    rw [led.limit_eq, show (Memory.fresh Builder.initialPages builder.maxPages).limit = some most
      from limit] at bounded
    exact Nat.le_trans bounded (Nat.min_le_left _ _)
  refine ⟨first.pages_le, second.pages_le, most, sound, ?_⟩
  have terms : (after later (after earlier { host })).host.maxPages = builder.maxPages :=
    (after_expands later (after earlier { host })).maxPages_eq.trans
      ((after_expands earlier { host }).maxPages_eq.trans (Builder.instantiate_maxPages built))
  unfold Region.Terms.refuses Host.terms Discipline.terms
  rw [terms]
  cases limit : builder.maxPages with
  | none => rfl
  | some limit' =>
    have bounded := most limit' limit
    simp only [decide_eq_false_iff_not]
    omega

/-- A raw write is done, and leaves the pages it takes with the bytes in them
and every other byte as it was, or it is denied and leaves everything as it was,
which happens if the pages are more than the host or the engine allows, and only
then; except that an empty write at the very end is none of the two.  Whatever
is done with a host, the pages do not become fewer, nor more than were allowed. -/
theorem memory_extent (σ : Type) :
    (∀ (terms : Region.Terms) (guest : Instance σ) (address : Address) (bytes : Bytes),
      guest.memory.Sound → terms.refuses guest.memory.pages = false →
        Ends (Region.write terms address bytes) guest
          (fun _ after => Region.Writes terms address bytes guest after)
          (fun fault after => Region.Fails terms address bytes guest fault after)) ∧
    ∀ (builder : Builder) (module : Module σ) (journal journal' : Journal) (host : Host σ),
      module.Confined → (∀ most, builder.maxPages = some most → Builder.initialPages ≤ most) →
        builder.instantiate module journal = .ok host journal' → ∀ earlier later,
          Session.Spans builder (Session.after earlier { host })
            (Session.after later (Session.after earlier { host })) := by
  constructor
  · intro terms guest address bytes sound within
    exact Region.write_exact terms address bytes guest sound within
  · intro builder module journal journal' host confined enough built earlier later
    exact Session.spans confined enough built earlier later

/-- What a raw write behind its two pages makes of a host. -/
def Host.afterTail (host : Host σ) : Session σ :=
  Session.after [.probe (.write (.number 131082) (Utf8.encode "data"))] { host }

/-- A policy that may have three pages has them after a write behind the two that
it begins with, and another page is denied. -/
theorem memory_extent_standard :
    Builder.Builds { maxPages := some 3 } Policy.standard.toModule fun host =>
      host.afterTail.host.guest.memory.pages = 3 ∧
        Session.Spans { maxPages := some 3 } { host } host.afterTail ∧
        Ends (Region.write host.afterTail.host.terms (Address.ofWord 196608) [1])
          host.afterTail.host.guest (fun _ _ => False)
          (fun fault after => fault.isA .guestMemory = true ∧
            after = host.afterTail.host.guest) := by
  have begun : Builder.Builds { maxPages := some 3 } Policy.standard.toModule fun host =>
      host.afterTail.host.guest.memory.pages = 3 ∧
        host.afterTail.host.terms.refuses 4 = true := by
    decide +kernel
  obtain ⟨host, journal, built, three, most⟩ := begun
  have extent := memory_extent PolicyState
  have spans : Session.Spans { maxPages := some 3 } { host } host.afterTail :=
    extent.2 { maxPages := some 3 } Policy.standard.toModule {} journal host
      Policy.standard.confined (fun _ same => by cases same; decide) built [] _
  refine ⟨host, journal, built, three, spans, ?_⟩
  refine (extent.1 host.afterTail.host.terms host.afterTail.host.guest (Address.ofWord 196608) [1]
    spans.sound spans.within).mono ?_ ?_
  · intro _ after writes
    exact writes.granted (Or.inl most)
  · rintro _ _ (_ | ⟨_, nothing, _⟩)
    · exact ⟨rfl, rfl⟩
    · cases nothing

/-- A guest as it is before anything was done with it. -/
def Instance.untouched : Instance PolicyState where
  module := Policy.standard.toModule
  handlers := Handlers.standard
  memory := Memory.fresh Builder.initialPages none
  state := Policy.standard.toModule.initial
  trapped := false
  journal := {}

/-- An empty write at the end of a third page fails with what is no report, and
leaves the page. -/
theorem empty_write_lost :
    ¬ ∀ (terms : Region.Terms) (guest : Instance PolicyState) (address : Address) (bytes : Bytes),
      guest.memory.Sound → terms.refuses guest.memory.pages = false →
        Ends (Region.write terms address bytes) guest (fun _ _ => True)
          (fun fault after => fault.isA .guestMemory = true ∧ after = guest) := by
  intro kept
  have lost : Ends (Region.write ⟨false, none⟩ (Address.ofWord 196608) []) Instance.untouched
      (fun _ _ => False)
      (fun fault after => fault.isA .guestMemory = false ∧ after.memory.pages = 3) := by
    decide +kernel
  have sound : Instance.untouched.memory.Sound :=
    Memory.fresh_sound Builder.initialPages none (by decide)
  have told := kept ⟨false, none⟩ Instance.untouched (Address.ofWord 196608) [] sound rfl
  obtain ⟨fault, after, _, ⟨foreign, _⟩, known, _⟩ :=
    ((lost.and told).mono (fun _ _ both => both.1) fun _ _ both => both).fails
  exact nomatch foreign.symm.trans known

end PolicyHost
