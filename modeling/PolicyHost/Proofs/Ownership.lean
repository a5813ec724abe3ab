import PolicyHost.Proofs.Construction
import PolicyHost.Proofs.Lockstep
import PolicyHost.Proofs.ShelfLaws

namespace PolicyHost

/-!
# Who owns the blocks of a guest

Under the explicit discipline a host owns the document of its dataset and,
while a context is open, the document of the input and the context record.
Between two uses there is nothing else: whatever a use was handed on the way
it has given back, also if it failed.
-/

variable {σ δ : Type} {module : Module σ} {accounts : Accounts module}
variable {semantics : Semantics δ}

namespace ExplicitFree

/-- The explicit discipline keeps a ledger, for a guest that had such blocks to begin
with. -/
def agreement (meaning : Meaning accounts semantics) (bases : Finset UInt32 → Prop)
    (excuses : Fault → Prop) (maxPages : Option Nat) : Agreement σ δ where
  discipline := .explicitFree
  terms := Discipline.explicitFree.terms maxPages
  excuses := excuses
  idle _ data guest := ∃ base, bases base ∧
    Tally meaning base
      (data.toList.map fun (d : Address × δ) => (d.1.toWord, Object.document d.2)) guest
  held _ data context guest := ∃ base entrypoint, bases base ∧
    Tally meaning base
      [(context.1.context.toWord,
          .record ⟨some context.1.input.toWord, some data.1.toWord, entrypoint⟩),
        (context.1.input.toWord, .document context.2), (data.1.toWord, .document data.2)] guest
  moved _ _ _ _ := True
  fell _ _ _ _ := True

section

variable {meaning : Meaning accounts semantics} {bases : Finset UInt32 → Prop}
variable {excuses : Fault → Prop}

/-- A host that is refused memory forgets a text buffer, which is excused unless the
guest may have had any blocks. -/
def Forgives (bases : Finset UInt32 → Prop) (excuses : Fault → Prop) : Prop :=
  ∀ fault : Fault, fault.isA .guestMemory = true → excuses fault ∨ ∀ base, bases base

variable (forgives : Forgives bases excuses)
variable (equipped : Discipline.explicitFree.Equips module) (maxPages : Option Nat)

include forgives equipped

theorem installs : (agreement meaning bases excuses maxPages).Installs semantics := by
  rintro checkpoints data guest raw ⟨base, allowed, tally⟩ nonempty
  refine (installData_ends equipped _ rfl checkpoints data raw nonempty tally).mono ?_ ?_
  · rintro installed after ⟨d, accepted, same, tally⟩
    exact ⟨d, accepted, by rw [same], ⟨base, allowed, tally⟩, trivial⟩
  · rintro fault after (lost | ⟨refused, stray, tally⟩ | ⟨rejected, tally⟩)
    · exact Or.inl ⟨lost, trivial⟩
    · exact Or.inr ((forgives fault refused).imp_right fun any =>
        ⟨Or.inl (Or.inl refused), ⟨stray, any stray, tally⟩, trivial⟩)
    · exact Or.inr (Or.inr ⟨Or.inr rejected, ⟨base, allowed, tally⟩, trivial⟩)

theorem evaluates : (agreement meaning bases excuses maxPages).Evaluates semantics := by
  rintro checkpoints data y guest path entrypoint input raw schema ⟨base, allowed, tally⟩ encoded
  refine (evaluate_ends equipped _ rfl checkpoints path entrypoint data y input raw schema
    encoded tally (List.mem_singleton_self _)).mono ?_ ?_
  · rintro value after ⟨tally, judged⟩
    exact ⟨⟨base, allowed, tally⟩, judged, trivial⟩
  · rintro fault after (lost | ⟨refused, stray, tally⟩ | ⟨tally, judged⟩)
    · exact Or.inl ⟨lost, trivial⟩
    · exact Or.inr ((forgives fault refused).imp_right fun any =>
        ⟨⟨stray, any stray, tally⟩, Or.inl (Or.inl refused), trivial⟩)
    · exact Or.inr (Or.inr ⟨⟨base, allowed, tally⟩, Or.inr judged, trivial⟩)

theorem opens : (agreement meaning bases excuses maxPages).Opens semantics := by
  rintro checkpoints data y guest input ⟨base, allowed, tally⟩
  unfold agreement Discipline.openContext
  cases encoded : Payload.encode input with
  | error r =>
    rw [Discipline.bindContext_unserializable _ _ _ _ r encoded]
    exact Or.inr (Or.inr ⟨rfl, ⟨base, allowed, tally⟩, trivial⟩)
  | ok raw =>
    refine (bindContext_ends equipped _ rfl data y input raw encoded tally
      (List.mem_singleton_self _)).mono ?_ ?_
    · rintro handle after ⟨x, accepted, tally⟩
      exact ⟨raw, x, rfl, accepted, ⟨base, none, allowed, tally⟩, trivial⟩
    · rintro fault after (lost | ⟨refused, stray, tally⟩ | ⟨rejected, tally⟩)
      · exact Or.inl ⟨lost, trivial⟩
      · exact Or.inr ((forgives fault refused).imp_right fun any =>
          ⟨Or.inl (Or.inl refused), ⟨stray, any stray, tally⟩, trivial⟩)
      · exact Or.inr (Or.inr ⟨Or.inr rejected, ⟨base, allowed, tally⟩, trivial⟩)

omit forgives

theorem evaluates_within :
    (agreement meaning bases excuses maxPages).EvaluatesWithin semantics := by
  rintro checkpoints data y handle x guest path entrypoint schema ⟨base, old, allowed, tally⟩
  refine (contextEval_ends equipped _ rfl handle path entrypoint schema _ _ old x y tally
    (List.mem_cons_self ..) (List.mem_cons_of_mem _ (List.mem_singleton_self _))).mono ?_ ?_
  · rintro value after ⟨tally, judged⟩
    exact ⟨⟨base, _, allowed, tally⟩, judged, trivial⟩
  · rintro fault after (lost | ⟨tally, judged⟩)
    · exact Or.inl ⟨lost, trivial⟩
    · exact Or.inr ⟨⟨base, _, allowed, tally⟩, judged, trivial⟩

theorem closes : (agreement meaning bases excuses maxPages).Closes := by
  rintro checkpoints data context guest ⟨base, old, allowed, tally⟩
  refine (closeContext_ends equipped _ rfl checkpoints context.1 tally).mono ?_
    (fun _ _ lost => ⟨lost, trivial⟩)
  intro _ after tally
  exact ⟨⟨base, allowed, tally⟩, trivial⟩

end

def contract (meaning : Meaning accounts semantics) (bases : Finset UInt32 → Prop)
    (excuses : Fault → Prop) (forgives : Forgives bases excuses)
    (equipped : Discipline.explicitFree.Equips module) (maxPages : Option Nat) :
    Contract σ semantics where
  toAgreement := agreement meaning bases excuses maxPages
  idle_open := by
    rintro _ _ _ ⟨_, _, tally⟩
    exact tally.open_eq
  held_open := by
    rintro _ _ _ _ ⟨_, _, _, tally⟩
    exact tally.open_eq
  idle_journal := by
    rintro _ _ _ journal ⟨base, allowed, tally⟩
    exact ⟨base, allowed, tally.journal journal⟩
  installed_journal _ _ _ _ _ := trivial
  fell_journal _ _ _ _ _ _ := trivial
  install := installs forgives equipped maxPages
  evaluate := evaluates forgives equipped maxPages
  openContext := opens forgives equipped maxPages
  contextEval := evaluates_within equipped maxPages
  closeContext := closes equipped maxPages

/-- The contract of a guest that had just these blocks to begin with, as long
as the host is not refused memory. -/
def balanced (meaning : Meaning accounts semantics) (base : Finset UInt32)
    (equipped : Discipline.explicitFree.Equips module) (maxPages : Option Nat) :
    Contract σ semantics :=
  contract meaning (· = base) (fun fault => fault.isA .guestMemory = true)
    (fun _ refused => Or.inl refused) equipped maxPages

/-- The contract of a guest of which a host may forget blocks. -/
def loose (meaning : Meaning accounts semantics)
    (equipped : Discipline.explicitFree.Equips module) (maxPages : Option Nat) :
    Contract σ semantics :=
  contract meaning (fun _ => True) (fun _ => False) (fun _ _ => Or.inr fun _ => trivial) equipped
    maxPages

end ExplicitFree

/-- A host that was built with the explicit discipline begins where its
service begins, and owns nothing. -/
theorem Accounts.matches_built (meaning : Meaning accounts semantics) {builder : Builder}
    {journal journal' : Journal} {host : Host σ}
    (built : builder.instantiate module journal = .ok host journal') (version : host.minor < 2)
    {bases : Finset UInt32 → Prop} {excuses : Fault → Prop}
    (forgives : ExplicitFree.Forgives bases excuses)
    (begun : bases (accounts.live host.guest.snapshot)) :
    ∃ equipped, (ExplicitFree.contract meaning bases excuses forgives equipped
      host.maxPages).Matches (.unused δ host.entrypoints) host := by
  rcases accounts.built built version with
    ⟨unused, explicit, equipped, module_eq, open_eq, history_eq, sound⟩
  refine ⟨equipped, explicit, ?_, rfl, unused.leak_eq, unused.busy_eq, ?_, none,
    unused.dataset_eq, rfl, _, begun, module_eq, open_eq, sound, ?_, ?_, ?_⟩
  · unfold Host.terms
    rw [explicit]
    rfl
  · rw [unused.contexts_eq]
    rfl
  · simp
  · exact List.forall_mem_nil _
  · rw [history_eq]
    exact List.forall_mem_nil _

theorem Meaning.balanced_built (meaning : Meaning accounts semantics) {builder : Builder}
    {journal journal' : Journal} {host : Host σ}
    (built : builder.instantiate module journal = .ok host journal') (version : host.minor < 2) :
    ∃ equipped, (ExplicitFree.balanced meaning (accounts.live host.guest.snapshot) equipped
      host.maxPages).Matches (.unused δ host.entrypoints) host :=
  accounts.matches_built meaning built version _ rfl

theorem Meaning.loose_built (meaning : Meaning accounts semantics) {builder : Builder}
    {journal journal' : Journal} {host : Host σ}
    (built : builder.instantiate module journal = .ok host journal') (version : host.minor < 2) :
    ∃ equipped, (ExplicitFree.loose meaning equipped host.maxPages).Matches
      (.unused δ host.entrypoints) host :=
  accounts.matches_built meaning built version _ trivial

namespace Host

/-- The guest blocks that belong to the host: its dataset, and what its open
contexts are made of. -/
def owned (host : Host σ) : List UInt32 :=
  host.dataset.toList.map Address.toWord ++
    host.openContexts.flatMap fun context =>
      [context.handle.input.toWord, context.handle.context.toWord]

theorem openContexts_ended (contexts : List Context) (count : Nat)
    (ended : contexts.map (·.phase) = List.replicate count .destroyed) :
    (contexts.filter fun context => context.phase ≠ .destroyed) = [] := by
  rw [List.filter_eq_nil_iff]
  intro context member
  have phase : context.phase ∈ List.replicate count Phase.destroyed := by
    rw [← ended]
    exact List.mem_map_of_mem member
  simp [List.eq_of_mem_replicate phase]

end Host

namespace Contract

variable {meaning : Meaning accounts semantics} {base : Finset UInt32}
variable {equipped : Discipline.explicitFree.Equips module} {maxPages : Option Nat}
variable {service : Service δ} {host : Host σ}

/-- Where host and service agree, the live blocks are those the guest had to
begin with and those the host owns. -/
theorem Matches.live_eq
    (same : (ExplicitFree.balanced meaning base equipped maxPages).Matches service host) :
    (accounts.live host.guest.snapshot).val = base.val + Multiset.ofList host.owned := by
  unfold Host.owned Host.openContexts
  cases current : service.current with
  | none =>
    rcases same.idle current with ⟨_, ended, data, dataset, _, _, rfl, tally⟩
    rw [tally.live_eq, Host.openContexts_ended _ _ ended, dataset]
    cases data <;> rfl
  | some opening =>
    rcases same.last_context opening current with
      ⟨old, handle, address, _, contexts, _, ended, dataset, _, _, _, rfl, tally⟩
    rw [tally.live_eq, contexts, List.filter_append, Host.openContexts_ended _ _ ended, dataset]
    rw [List.nil_append, List.filter_singleton,
      decide_eq_true opening.phase_ne_destroyed, cond_true]
    congr 1
    exact Multiset.coe_eq_coe.mpr (List.reverse_perm _).symm

theorem Matches.openContexts_length {contract : Contract σ semantics}
    (same : contract.Matches service host) : host.openContexts.length ≤ 1 := by
  unfold Host.openContexts
  cases current : service.current with
  | none =>
    rw [Host.openContexts_ended _ _ (same.idle current).2.1]
    exact Nat.zero_le _
  | some opening =>
    rcases same.last_context opening current with ⟨old, _, _, _, contexts, _, ended, _⟩
    rw [contexts, List.filter_append, Host.openContexts_ended _ _ ended, List.nil_append]
    exact List.length_filter_le _ _

theorem Matches.lawful
    (same : (ExplicitFree.balanced meaning base equipped maxPages).Matches service host) :
    ∀ access ∈ host.guest.history, accounts.Lawful access := by
  cases current : service.current with
  | none =>
    rcases same.idle current with ⟨_, _, _, _, _, _, _, tally⟩
    exact tally.lawful
  | some opening =>
    rcases same.last_context opening current with ⟨_, _, _, _, _, _, _, _, _, _, _, _, tally⟩
    exact tally.lawful

end Contract

/-- Whatever a host does under the explicit discipline, it frees only blocks
that are live, passes only live blocks to the guest, has at most one context
open, and owns every block that was not there when it was built.  It may fail
in any way that leaves the guest usable and does not refuse it memory. -/
theorem Host.blocks_balanced (accounts : Accounts module) {builder : Builder}
    {journal journal' : Journal} {host : Host σ}
    (built : builder.instantiate module journal = .ok host journal') (version : host.minor < 2)
    (uses : List Host.Use)
    (calm : Host.Calm (fun fault => fault.isA .guestMemory = true) uses host) :
    (∀ access ∈ (Host.run uses host).2.guest.history, accounts.Lawful access) ∧
      (Host.run uses host).2.openContexts.length ≤ 1 ∧
      (accounts.live (Host.run uses host).2.guest.snapshot).val =
        (accounts.live host.guest.snapshot).val +
          Multiset.ofList (Host.run uses host).2.owned := by
  rcases accounts.silent.balanced_built built version with ⟨equipped, same⟩
  rcases Contract.runs same uses calm with ⟨service, _, same⟩
  exact ⟨same.lawful, same.openContexts_length, same.live_eq⟩

/-- The blocks of an echo. -/
theorem Host.blocks_balanced_echo :
    Builder.Builds {} (Shelf.echo 0) fun host =>
      host.minor < 2 ∧
        Host.Calm (fun fault => fault.isA .guestMemory = true) Shelf.echoUses host ∧
        (∀ access ∈ (Host.run Shelf.echoUses host).2.guest.history,
          (Shelf.accounts .echo Shelf.echoTable 0).Lawful access) ∧
        (Host.run Shelf.echoUses host).2.openContexts.length ≤ 1 ∧
        ((Shelf.accounts .echo Shelf.echoTable 0).live
            (Host.run Shelf.echoUses host).2.guest.snapshot).val =
          ((Shelf.accounts .echo Shelf.echoTable 0).live host.guest.snapshot).val +
            Multiset.ofList (Host.run Shelf.echoUses host).2.owned := by
  have begun : Builder.Builds {} (Shelf.echo 0) fun host =>
      host.minor < 2 ∧
        Host.Calm (fun fault => fault.isA .guestMemory = true) Shelf.echoUses host := by
    decide +kernel
  rcases begun with ⟨host, journal, built, version, calm⟩
  exact ⟨host, journal, built, version, calm, blocks_balanced
    (Shelf.accounts .echo Shelf.echoTable 0) built version Shelf.echoUses calm⟩

end PolicyHost
