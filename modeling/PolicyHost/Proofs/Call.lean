import PolicyHost.Evaluation.Region
import PolicyHost.Proofs.Memory
import PolicyHost.Proofs.Operation

namespace PolicyHost

/-!
# Entering a guest

Guest code is arbitrary, so nothing can be proved about what a call answers.
What can be proved is that a call that returns did what the module's code did,
that it left everything else about the instance alone, and that any other
ending closes the instance for good.  Assumptions about a guest are stated
about `Module.Answers` alone, which no handler of the host takes part in.
-/

/-- A count that fits a word is passed as it is. -/
theorem toNat_ofInt (count : Nat) (small : count < 2 ^ 32) :
    (UInt32.ofInt (count : Int)).toNat = count := by
  unfold UInt32.ofInt
  rw [UInt32.toNat_ofNat']
  omega

namespace Address

@[simp] theorem ofInt_offset (address : Address) :
    UInt32.ofInt (address.offset : Int) = address.toWord := by
  have small := address.inRange
  unfold UInt32.ofInt toWord
  congr 1
  omega

@[simp] theorem toWord_ofWord (word : UInt32) : (ofWord word).toWord = word := by
  simp only [ofWord, toWord, UInt32.ofNat_toNat]

@[simp] theorem ofWord_offset (word : UInt32) : (ofWord word).offset = word.toNat := rfl

@[simp] theorem ofWord_toWord (address : Address) : ofWord address.toWord = address := by
  have small := address.inRange
  simp only [ofWord, toWord]
  congr 1
  exact UInt32.toNat_ofNat_of_lt small

@[simp] theorem toWord_toNat (address : Address) : address.toWord.toNat = address.offset :=
  UInt32.toNat_ofNat_of_lt address.inRange

theorem offset_ne_zero (address : Address) (nonnull : address.toWord ≠ 0) :
    address.offset ≠ 0 := by
  intro zero
  apply nonnull
  rw [toWord, zero]
  rfl

/-- Adding nothing to an address stays in range. -/
theorem advance_zero (address : Address) : address.advance 0 = .ok address := by
  have small := address.inRange
  simp only [advance, Int.add_zero, ofInt]
  rw [dif_pos ⟨Int.natCast_nonneg _, by omega⟩]
  rfl

theorem advance_cases (address : Address) (length : Nat) :
    (∃ further, address.advance length = .ok further ∧
      further.offset = address.offset + length) ∨
    ∃ offset, address.advance length = .error (.badAddress offset) := by
  unfold advance ofInt
  split
  · exact Or.inl ⟨_, rfl, by dsimp only; omega⟩
  · exact Or.inr ⟨_, rfl⟩

end Address

namespace Run

variable {σ α : Type}

/-- What a run ends with if it is let go on after each host call. -/
def outcome : Run σ α → Option (α × Snapshot σ)
  | .done result memory state => some (result, ⟨memory, state⟩)
  | .trap _ _ => none
  | .call _ _ _ rest => rest.outcome

/-- How a run ends if these handlers answer its host calls. -/
def ending (handlers : Handlers) : Run σ α → Instance.Ending α
  | .done result _ _ => .returned result
  | .trap _ _ => .trapped
  | .call request memory _ rest =>
    match (handlers.react memory request).fault with
    | some fault => .refused fault
    | none => rest.ending handlers

end Run

/-- The module's code, entered at an export with these arguments, can return
this answer and leave the guest like this. -/
def Module.Answers {σ : Type} (module : Module σ) (name : String) (arguments : List UInt32)
    (before : Snapshot σ) (answer : Option UInt32) (after : Snapshot σ) : Prop :=
  (module.invoke name arguments before.memory before.state).outcome = some (answer, after)

namespace Instance

variable {σ α : Type}

/-- A run that is followed to a result is the module's own, and changes
nothing but memory, state and journal. -/
theorem follow_returned (run : Run σ α) (guest : Instance σ) :
    (follow run guest).2.module = guest.module ∧
      (follow run guest).2.trapped = guest.trapped ∧
      (follow run guest).2.history = guest.history ∧
      ∀ result, (follow run guest).1 = .returned result →
        run.outcome = some (result, (follow run guest).2.snapshot) := by
  induction run generalizing guest with
  | done result memory state =>
    refine ⟨rfl, rfl, rfl, ?_⟩
    intro other same
    cases same
    rfl
  | trap memory state =>
    refine ⟨rfl, rfl, rfl, ?_⟩
    intro other impossible
    cases impossible
  | call request memory state rest inductionHypothesis =>
    simp only [follow]
    cases (guest.handlers.react memory request).fault with
    | some fault =>
      refine ⟨rfl, rfl, rfl, ?_⟩
      intro other impossible
      cases impossible
    | none => exact inductionHypothesis _

/-- The handlers decide with the module how a run ends, and stay the same. -/
theorem follow_ending (run : Run σ α) (guest : Instance σ) :
    (follow run guest).1 = run.ending guest.handlers ∧
      (follow run guest).2.handlers = guest.handlers := by
  induction run generalizing guest with
  | done result memory state => exact ⟨rfl, rfl⟩
  | trap memory state => exact ⟨rfl, rfl⟩
  | call request memory state rest inductionHypothesis =>
    simp only [follow, Run.ending]
    cases (guest.handlers.react memory request).fault with
    | some fault => exact ⟨rfl, rfl⟩
    | none => exact inductionHypothesis _

/-- An export was entered, from an instance that was open. -/
structure Entered (name : String) (arguments : List UInt32) (guest after : Instance σ) : Prop where
  was_open : guest.trapped = false
  module_eq : after.module = guest.module
  handlers_eq : after.handlers = guest.handlers
  history_eq : after.history = .call name arguments guest.snapshot :: guest.history

/-- How the module's code ends that is entered with these arguments. -/
def callEnding (guest : Instance σ) (name : String) (arguments : List UInt32) :
    Ending (Option UInt32) :=
  (guest.module.invoke name arguments guest.memory guest.state).ending guest.handlers

theorem follow_entered (guest : Instance σ) (name : String) (arguments : List UInt32)
    (usable : guest.trapped = false) :
    let ran := follow (guest.module.invoke name arguments guest.memory guest.state)
      { guest with history := .call name arguments guest.snapshot :: guest.history }
    Entered name arguments guest ran.2 ∧ ran.2.trapped = false ∧
      ran.1 = guest.callEnding name arguments ∧
      ∀ answer, ran.1 = .returned answer →
        guest.module.Answers name arguments guest.snapshot answer ran.2.snapshot := by
  intro ran
  have followed := follow_returned (guest.module.invoke name arguments guest.memory guest.state)
    { guest with history := .call name arguments guest.snapshot :: guest.history }
  have ended := follow_ending (guest.module.invoke name arguments guest.memory guest.state)
    { guest with history := .call name arguments guest.snapshot :: guest.history }
  exact ⟨⟨usable, followed.1, ended.2, followed.2.2.1⟩, followed.2.1.trans usable, ended.1,
    followed.2.2.2⟩

/-- All that a call can come to.  The export is entered and its code returns, or
traps, or a handler refuses; or it is not entered, because there is no such
function, or the instance is closed, or the number of arguments is wrong, which
closes the instance too. -/
theorem call_cases (guest : Instance σ) (name : String) (arguments : List Int) :
    Operation.Ends (call name arguments) guest
      (fun answer after => Entered name (arguments.map UInt32.ofInt) guest after ∧
        after.trapped = false ∧
        guest.callEnding name (arguments.map UInt32.ofInt) = .returned answer ∧
        guest.module.Answers name (arguments.map UInt32.ofInt) guest.snapshot answer after.snapshot)
      (fun fault after =>
        (after = guest ∧ (guest.module.hasFunction name = true →
          guest.trapped = true ∧ fault = .report (closedReport name))) ∨
        (guest.trapped = false ∧ (∃ arity, guest.module.find? name = some (.function arity) ∧
            arguments.length ≠ arity) ∧
          ∃ journal, after = { guest with trapped := true, journal } ∧
            fault = .report (Report.trapped name engineText)) ∨
        (Entered name (arguments.map UInt32.ofInt) guest after ∧ after.trapped = true ∧
          ((guest.callEnding name (arguments.map UInt32.ofInt) = .trapped ∧
              fault = .report (Report.trapped name engineText)) ∨
            guest.callEnding name (arguments.map UInt32.ofInt) = .refused fault))) := by
  unfold Operation.Ends call Module.hasFunction
  cases guest.module.find? name with
  | none => exact Or.inl ⟨rfl, fun impossible => nomatch impossible⟩
  | some entry =>
    cases entry with
    | constant value => exact Or.inl ⟨rfl, fun impossible => nomatch impossible⟩
    | function arity =>
      dsimp only
      by_cases closed : guest.trapped = true
      · rw [if_pos closed]
        exact Or.inl ⟨rfl, fun _ => ⟨closed, rfl⟩⟩
      have usable : guest.trapped = false := Bool.eq_false_iff.mpr closed
      rw [if_neg closed]
      by_cases count : arguments.length ≠ arity
      · rw [if_pos count]
        exact Or.inr (Or.inl ⟨usable, ⟨arity, rfl, count⟩, _, rfl, rfl⟩)
      rw [if_neg count]
      have ran := follow_entered guest name (arguments.map UInt32.ofInt) usable
      dsimp only at ran
      revert ran
      generalize follow _ _ = followed
      rcases followed with ⟨ending, after⟩
      rintro ⟨entered, stayed, ended, answered⟩
      have closed : ∀ journal, Entered name (arguments.map UInt32.ofInt) guest
          { after with trapped := true, journal } := fun _ =>
        ⟨usable, entered.module_eq, entered.handlers_eq, entered.history_eq⟩
      cases ending with
      | returned result => exact ⟨entered, stayed, ended.symm, answered result rfl⟩
      | trapped => exact Or.inr (Or.inr ⟨closed _, rfl, Or.inl ⟨ended.symm, rfl⟩⟩)
      | refused fault => exact Or.inr (Or.inr ⟨closed _, rfl, Or.inr ended.symm⟩)

structure Called (name : String) (arguments : List UInt32) (answer : Option UInt32)
    (guest after : Instance σ) : Prop where
  answered : guest.module.Answers name arguments guest.snapshot answer after.snapshot
  module_eq : after.module = guest.module
  open_eq : after.trapped = false
  history_eq : after.history = .call name arguments guest.snapshot :: guest.history

/-- A call that returns was answered by the module's code. -/
theorem call_called (guest : Instance σ) (name : String) (arguments : List Int) :
    Operation.Ends (call name arguments) guest
      (fun answer after => Called name (arguments.map UInt32.ofInt) answer guest after)
      (fun _ _ => True) := by
  refine (call_cases guest name arguments).mono ?_ (fun _ _ _ => trivial)
  rintro answer after ⟨entered, stayed, _, answered⟩
  exact ⟨answered, entered.module_eq, stayed, entered.history_eq⟩

theorem call_open (guest : Instance σ) (name : String) (arguments : List Int)
    (exported : guest.module.hasFunction name = true) (usable : guest.trapped = false) :
    Operation.Ends (call name arguments) guest
      (fun answer after => Entered name (arguments.map UInt32.ofInt) guest after ∧
        after.trapped = false ∧
        guest.callEnding name (arguments.map UInt32.ofInt) = .returned answer)
      (fun _ after => after.trapped = true) := by
  refine (call_cases guest name arguments).mono ?_ ?_
  · rintro answer after ⟨entered, stayed, returned, _⟩
    exact ⟨entered, stayed, returned⟩
  · rintro fault after (⟨_, reason⟩ | ⟨_, _, _, rfl, _⟩ | ⟨_, closed, _⟩)
    · exact nomatch (reason exported).1.symm.trans usable
    · rfl
    · exact closed

/-- A call into an open instance returns what the code answers, or closes the
instance. -/
theorem call_ends (guest : Instance σ) (name : String) (arguments : List Int)
    (exported : guest.module.hasFunction name = true) (usable : guest.trapped = false) :
    Operation.Ends (call name arguments) guest
      (fun answer after => Called name (arguments.map UInt32.ofInt) answer guest after)
      (fun _ after => after.trapped = true) :=
  ((call_called guest name arguments).and (call_open guest name arguments exported usable)).mono
    (fun _ _ both => both.1) (fun _ _ both => both.2)

theorem call_closed (guest : Instance σ) (name : String) (arguments : List Int)
    (closed : guest.trapped = true) :
    Operation.Ends (call name arguments) guest (fun _ after => after.trapped = true)
      (fun _ after => after.trapped = true) := by
  refine (call_cases guest name arguments).mono ?_ ?_
  · rintro answer after ⟨entered, _⟩
    exact nomatch closed.symm.trans entered.was_open
  · rintro fault after (⟨rfl, _⟩ | ⟨was_open, _⟩ | ⟨_, lost, _⟩)
    · exact closed
    · exact nomatch closed.symm.trans was_open
    · exact lost

theorem callVoid_ends (guest : Instance σ) (name : String) (arguments : List Int)
    (exported : guest.module.hasFunction name = true) (usable : guest.trapped = false) :
    Operation.Ends (callVoid name arguments) guest
      (fun _ after => ∃ answer, Called name (arguments.map UInt32.ofInt) answer guest after)
      (fun _ after => after.trapped = true) := by
  rw [callVoid, Operation.ends_bind]
  exact (call_ends guest name arguments exported usable).mono
    (fun answer _ called => ⟨answer, called⟩) (fun _ _ closed => closed)

theorem callWord_ends (guest : Instance σ) (name : String) (arguments : List Int)
    (exported : guest.module.hasFunction name = true) (usable : guest.trapped = false)
    (answers : ∀ answer after, guest.module.Answers name (arguments.map UInt32.ofInt)
      guest.snapshot answer after → answer.isSome = true) :
    Operation.Ends (callWord name arguments) guest
      (fun word after => Called name (arguments.map UInt32.ofInt) (some word) guest after)
      (fun _ after => after.trapped = true) := by
  rw [callWord, Operation.ends_bind]
  refine (call_ends guest name arguments exported usable).mono ?_ (fun _ _ closed => closed)
  intro answer after called
  cases answer with
  | some word => exact called
  | none => cases answers none after.snapshot called.answered

theorem callAddress_of_word {guest : Instance σ} {name : String} {arguments : List Int}
    {good : UInt32 → Instance σ → Prop} {bad : Fault → Instance σ → Prop}
    (ends : Operation.Ends (callWord name arguments) guest good bad) :
    Operation.Ends (callAddress name arguments) guest
      (fun address after => good address.toWord after) bad := by
  rw [callAddress, Operation.ends_bind]
  refine ends.mono ?_ (fun _ _ failed => failed)
  intro word after answered
  rw [Operation.ends_pure, Address.toWord_ofWord]
  exact answered

theorem callAddress_ends (guest : Instance σ) (name : String) (arguments : List Int)
    (exported : guest.module.hasFunction name = true) (usable : guest.trapped = false)
    (answers : ∀ answer after, guest.module.Answers name (arguments.map UInt32.ofInt)
      guest.snapshot answer after → answer.isSome = true) :
    Operation.Ends (callAddress name arguments) guest
      (fun address after =>
        Called name (arguments.map UInt32.ofInt) (some address.toWord) guest after)
      (fun _ after => after.trapped = true) :=
  callAddress_of_word (callWord_ends guest name arguments exported usable answers)

end Instance

namespace Region

variable {σ : Type}

/-- What a raw write leaves: perhaps more pages, and the bytes at the address. -/
def Wrote (address : Address) (bytes : Bytes) (guest after : Instance σ) : Prop :=
  ∃ pages, guest.memory.pages ≤ pages ∧ pages ≤ max guest.memory.pages mostPages ∧
    address.offset + bytes.length ≤ pages * pageSize ∧
    after = { guest with
      memory := ({ guest.memory with pages } : Memory).overwrite address.offset bytes
      history := .write address bytes :: guest.history }

namespace Wrote

variable {address : Address} {bytes : Bytes} {guest after : Instance σ}

/-- Where the pages are as many as addresses allow, they still are after a
write. -/
theorem bounded (wrote : Wrote address bytes guest after)
    (least : guest.memory.pages ≤ mostPages) :
    ∃ pages, guest.memory.pages ≤ pages ∧ pages ≤ mostPages ∧
      address.offset + bytes.length ≤ pages * pageSize ∧
      after = { guest with
        memory := ({ guest.memory with pages } : Memory).overwrite address.offset bytes
        history := .write address bytes :: guest.history } := by
  rcases wrote with ⟨pages, more, most, room, after_eq⟩
  exact ⟨pages, more, by omega, room, after_eq⟩

/-- What was written ends where addresses end, at the latest, and is there. -/
theorem stored (wrote : Wrote address bytes guest after)
    (least : guest.memory.pages ≤ mostPages) :
    address.offset + bytes.length ≤ 2 ^ 32 ∧
      after.memory.bytes address.offset bytes.length = bytes := by
  rcases wrote.bounded least with ⟨pages, _, most, enough, rfl⟩
  have room : address.offset + bytes.length ≤ 2 ^ 32 := by
    simp only [mostPages, pageSize] at most enough
    omega
  exact ⟨room, Memory.bytes_overwrite _ _ _ address.inRange room⟩

end Wrote

/-- Growing adds the pages, within what addresses allow, or is refused and
changes nothing. -/
theorem grow_ends (terms : Terms) (extra : Nat) (guest : Instance σ) :
    Operation.Ends (grow terms extra) guest
      (fun _ after => guest.memory.pages + extra ≤ mostPages ∧
        after = { guest with
          memory := { guest.memory with pages := guest.memory.pages + extra } })
      (fun fault after => fault.isA .guestMemory = true ∧ after = guest) := by
  have nonnegative : ¬ (extra : Int) < 0 := by omega
  unfold Operation.Ends grow
  dsimp only
  by_cases tooMany : terms.refuses (guest.memory.pages + extra) = true
  · rw [if_pos tooMany]
    exact ⟨rfl, rfl⟩
  · rw [if_neg tooMany, if_neg nonnegative, Int.toNat_natCast]
    cases grown : guest.memory.grow? extra with
    | none => exact ⟨rfl, rfl⟩
    | some memory =>
      rcases Memory.grow?_some guest.memory extra memory grown with ⟨rfl, most⟩
      exact ⟨most, rfl⟩

/-- Making room either finds or adds the pages, or is refused and changes
nothing. -/
theorem ensure_ends (terms : Terms) (stop : Nat) (guest : Instance σ) :
    Operation.Ends (ensure terms stop) guest
      (fun _ after => ∃ pages, guest.memory.pages ≤ pages ∧
        pages ≤ max guest.memory.pages mostPages ∧ stop ≤ pages * pageSize ∧
        after = { guest with memory := { guest.memory with pages } })
      (fun fault after => fault.isA .guestMemory = true ∧ after = guest) := by
  unfold ensure
  by_cases fits : (stop : Int) ≤ guest.memory.size
  · have enough : stop ≤ guest.memory.pages * pageSize := by
      simp only [Memory.size] at fits
      exact Int.ofNat_le.mp fits
    unfold Operation.Ends
    dsimp only
    rw [if_pos fits]
    exact ⟨guest.memory.pages, Nat.le_refl _, Nat.le_max_left _ _, enough, rfl⟩
  · -- The pages that are missing, rounded up, are a natural number.
    have missing : ∃ extra : Nat, pagesFor (stop - guest.memory.size) = extra ∧
        stop ≤ (guest.memory.pages + extra) * pageSize := by
      refine ⟨(pagesFor (stop - guest.memory.size)).toNat, ?_, ?_⟩ <;>
        simp only [pagesFor, Memory.size, pageSize] at fits ⊢ <;> omega
    rcases missing with ⟨extra, count, enough⟩
    have grown := grow_ends terms extra guest
    unfold Operation.Ends at grown ⊢
    dsimp only
    rw [if_neg fits, count]
    revert grown
    cases grow terms (extra : Int) guest with
    | error fault after => exact id
    | ok _ after =>
      rintro ⟨most, rfl⟩
      exact ⟨guest.memory.pages + extra, Nat.le_add_right _ _, by omega, enough, rfl⟩

/-- A write of at least one byte is done, or it is refused for want of pages
and changes nothing. -/
theorem write_ends (terms : Terms) (address : Address) (bytes : Bytes) (guest : Instance σ)
    (nonempty : bytes ≠ []) :
    Operation.Ends (write terms address bytes) guest
      (fun _ after => Wrote address bytes guest after)
      (fun fault after => fault.isA .guestMemory = true ∧ after = guest) := by
  refine (Operation.ends_bind _ _ _ _ _).mpr ?_
  have room := ensure_ends terms (address.offset + bytes.length) guest
  rw [Int.natCast_add] at room
  refine room.mono ?_ (fun _ _ refused => refused)
  rintro _ after ⟨pages, more, most, enough, rfl⟩
  have length : 0 < bytes.length := List.length_pos_iff.mpr nonempty
  have inside : ¬ ({ guest.memory with pages } : Memory).size ≤ address.offset := by
    simp only [Memory.size]
    omega
  refine Operation.ends_ite.mpr ?_
  rw [if_neg inside]
  exact ⟨pages, more, most, enough, rfl⟩

theorem write_inside (terms : Terms) (address : Address) (bytes : Bytes) (guest : Instance σ)
    (inside : address.offset + bytes.length ≤ guest.memory.size) :
    Operation.Ends (write terms address bytes) guest
      (fun _ after => address.offset < guest.memory.size ∧ after = { guest with
        memory := guest.memory.overwrite address.offset bytes
        history := .write address bytes :: guest.history })
      (fun fault after => guest.memory.size ≤ address.offset ∧ fault = .outsideMemory ∧
        after = guest) := by
  refine (Operation.ends_bind _ _ _ _ _).mpr ?_
  have room : ensure terms (address.offset + bytes.length) guest = .ok () guest :=
    if_pos (by omega)
  rw [Operation.Ends, room]
  refine Operation.ends_ite.mpr ?_
  split
  · rename_i behind
    exact ⟨behind, rfl, rfl⟩
  · rename_i begins
    exact ⟨Nat.lt_of_not_le begins, rfl⟩

theorem readUntilZero_ends (address : Address) (guest : Instance σ)
    (good : Option Bytes → Instance σ → Prop) (bad : Fault → Instance σ → Prop) :
    Operation.Ends (readUntilZero address) guest good bad ↔
      good (guest.memory.untilZero address.offset) guest := Iff.rfl

theorem writeView_eq (terms : Terms) (address : Address) (bytes : Bytes) :
    writeView (σ := σ) terms ⟨address, bytes.length⟩ bytes 0 = write terms address bytes := by
  have checked : View.check ⟨address, bytes.length⟩ 0 bytes.length = .ok () := by
    simp [View.check]
  have same := address.advance_zero
  unfold writeView
  rw [checked, Operation.lift_ok_bind, same, Operation.lift_ok_bind]

theorem free_eq (terms : Terms) (address : Address) (releases : terms.rewinds = false) :
    free (σ := σ) terms address = Instance.callVoid "opa_free" [address.offset] := by
  rw [free, releases, if_neg Bool.false_ne_true]

/-- Releasing an allocation is nothing under the discipline that rewinds. -/
theorem free_eq_pure (terms : Terms) (address : Address) (rewinds : terms.rewinds = true) :
    free (σ := σ) terms address = pure () := by
  rw [free, rewinds, if_pos rfl]

theorem free_closed (terms : Terms) (address : Address) (guest : Instance σ)
    (closed : guest.trapped = true) :
    Operation.Ends (free terms address) guest (fun _ after => after.trapped = true)
      (fun _ after => after.trapped = true) := by
  unfold free
  split
  · exact closed
  · rw [Instance.callVoid, Operation.ends_bind]
    exact (Instance.call_closed guest "opa_free" _ closed).mono (fun _ _ same => same)
      (fun _ _ same => same)

theorem rewind_closed (address : Address) (guest : Instance σ) (closed : guest.trapped = true) :
    Operation.Ends (rewind address) guest (fun _ after => after.trapped = true)
      (fun _ after => after.trapped = true) := by
  unfold Operation.Ends rewind
  rw [if_pos closed]
  exact closed

theorem rewind_ends (address : Address) (guest : Instance σ) (usable : guest.trapped = false)
    (good : Unit → Instance σ → Prop) (bad : Fault → Instance σ → Prop)
    (ends : Operation.Ends (setHeapPointer address) guest good bad) :
    Operation.Ends (rewind address) guest good bad := by
  unfold Operation.Ends rewind
  rw [if_neg (by rw [usable]; exact Bool.false_ne_true)]
  exact ends

end Region
end PolicyHost
