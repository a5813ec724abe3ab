import Mathlib.Algebra.Order.Floor.Div
import PolicyHost.Proofs.Call

namespace PolicyHost

/-!
# Room in guest memory

Memory is had in whole pages.  A raw write asks for as many as it takes to hold
everything up to its end, which is a division that rounds up, and has them added
unless there are enough.  The host denies them if they are more than it was told
to allow, the engine if they are more than the memory was made for.

What is denied changes nothing.  What is granted leaves every byte where it was,
the written ones apart, and what was added is zero.  There is one exception: an
empty write that begins exactly where the memory then ends is taken for one
outside memory, after the pages were added.
-/

variable {σ : Type}

theorem pageSize_pos : 0 < pageSize := by decide

namespace Memory

theorem bound_le (memory : Memory) : memory.bound ≤ mostPages := by
  unfold bound
  split
  · exact Nat.le_refl _
  · exact Nat.min_le_right _ _

/-- A memory has no more pages than it may have, and there is nothing in it
behind its end. -/
structure Sound (memory : Memory) : Prop where
  bounded : memory.pages ≤ memory.bound
  blank : ∀ address, memory.size ≤ address → address < 2 ^ 32 → memory.byte address = 0

theorem Sound.size_le {memory : Memory} (sound : memory.Sound) : memory.size ≤ 2 ^ 32 :=
  memory.size_le_of_pages (Nat.le_trans sound.bounded memory.bound_le)

theorem fresh_sound (pages : Nat) (limit : Option Nat)
    (bounded : pages ≤ (fresh pages limit).bound) : (fresh pages limit).Sound where
  bounded := bounded
  blank address _ _ := by
    have blank : ∀ depth place, Cells.get depth .blank place = 0 := by
      intro depth
      induction depth with
      | zero => exact fun _ => rfl
      | succ depth inductionHypothesis =>
        intro place
        simp only [Cells.get, Cells.lower, Cells.upper, inductionHypothesis, ite_self]
    exact blank 32 address

/-- A memory becomes another one without giving up pages or passing its bound,
and with nothing left behind its end. -/
structure Leads (before after : Memory) : Prop where
  limit_eq : after.limit = before.limit
  pages_le : before.pages ≤ after.pages
  sound : before.Sound → after.Sound

instance : IsPreorder Memory Leads where
  refl _ := ⟨rfl, Nat.le_refl _, id⟩
  trans _ _ _ early late := ⟨late.limit_eq.trans early.limit_eq,
    Nat.le_trans early.pages_le late.pages_le, fun sound => late.sound (early.sound sound)⟩

theorem grow?_eq_none {memory : Memory} {extra : Nat} :
    memory.grow? extra = none ↔ memory.bound < memory.pages + extra := by
  unfold grow?
  split <;> simp only [reduceCtorEq, true_iff, false_iff] <;> omega

theorem leads_pages {memory : Memory} {pages : Nat} (more : memory.pages ≤ pages)
    (bounded : memory.Sound → pages ≤ memory.bound) :
    memory.Leads { memory with pages } where
  limit_eq := rfl
  pages_le := more
  sound sound := by
    refine ⟨bounded sound, fun address behind addressable => ?_⟩
    refine sound.blank address (Nat.le_trans ?_ behind) addressable
    exact Nat.mul_le_mul_right pageSize more

def atLeast (memory : Memory) (pages : Nat) : Memory :=
  { memory with pages := max memory.pages pages }

theorem leads_atLeast {memory : Memory} {pages : Nat}
    (granted : memory.pages < pages → memory.grow? (pages - memory.pages) ≠ none) :
    memory.Leads (memory.atLeast pages) := by
  refine leads_pages (Nat.le_max_left _ _) fun sound => Nat.max_le.mpr ⟨sound.bounded, ?_⟩
  by_cases more : memory.pages < pages
  · have passed := mt grow?_eq_none.mpr (granted more)
    omega
  · exact Nat.le_trans (Nat.le_of_not_lt more) sound.bounded

theorem leads_grown {memory grown : Memory} {extra : Nat}
    (success : memory.grow? extra = some grown) : memory.Leads grown := by
  unfold grow? at success
  split at success
  · rename_i bounded
    cases success
    exact leads_pages (Nat.le_add_right _ _) fun _ => bounded
  · cases success

theorem leads_overwrite {memory : Memory} {start : Nat} {bytes : Bytes}
    (inside : memory.Sound → start + bytes.length ≤ memory.size) :
    memory.Leads (memory.overwrite start bytes) where
  limit_eq := rfl
  pages_le := Nat.le_refl _
  sound sound := by
    cases bytes with
    | nil => exact sound
    | cons first rest =>
      refine ⟨sound.bounded, fun address behind addressable => ?_⟩
      have size_le := sound.size_le
      have ends := inside sound
      rw [List.length_cons] at ends
      rw [overwrite_size] at behind
      rw [byte_overwrite _ _ _ _ (by omega) addressable, if_pos (by omega),
        List.getElem?_eq_none (by rw [List.length_cons]; omega), Option.getD_none]
      exact sound.blank address behind addressable

/-- A memory that holds a run of bytes where it is asked for has the pages that
it takes, and other bytes only where it had them before. -/
structure Stored (before : Memory) (start : Nat) (bytes : Bytes) (after : Memory) : Prop where
  limit_eq : after.limit = before.limit
  pages_eq : after.pages = max before.pages ((start + bytes.length) ⌈/⌉ pageSize)
  bytes_eq : after.bytes start bytes.length = bytes
  kept : ∀ address, address < before.size →
    address < start ∨ start + bytes.length ≤ address → after.byte address = before.byte address
  blank : ∀ address, before.size ≤ address → address < after.size →
    address < start ∨ start + bytes.length ≤ address → after.byte address = 0

end Memory

namespace Region

open Memory Operation

/-- The pages that are missing are those that are needed less those that are
there: memory ends with a page, wherever the other end is. -/
theorem pagesFor_eq (memory : Memory) (stop : Nat) :
    pagesFor (stop - memory.size) = (stop ⌈/⌉ pageSize : Nat) - memory.pages := by
  rw [Nat.ceilDiv_eq_add_pred_div]
  simp only [pagesFor, size, pageSize]
  omega

/-- So many pages are denied, by the host or by the engine. -/
def Terms.Denies (terms : Terms) (memory : Memory) (pages : Nat) : Prop :=
  terms.refuses pages = true ∨ memory.grow? (pages - memory.pages) = none

/-- What is said when so many pages are denied. -/
def Terms.denial (terms : Terms) (memory : Memory) (pages : Nat) : Report :=
  Report.memoryRefused (pages - memory.pages) terms.maxPages
    (if terms.refuses pages then "" else Instance.engineText)

/-- What is not more than what the host lets the memory have is not refused. -/
theorem Terms.refuses_mono {terms : Terms} {fewer more : Nat} (le : fewer ≤ more)
    (within : terms.refuses more = false) : terms.refuses fewer = false := by
  unfold Terms.refuses at within ⊢
  cases most : terms.maxPages with
  | none => rfl
  | some most =>
    rw [most] at within
    simp only [decide_eq_false_iff_not] at within ⊢
    omega

/-- Nothing is denied that is already there. -/
theorem not_denies_of_le {terms : Terms} {memory : Memory} {pages : Nat} (sound : memory.Sound)
    (within : terms.refuses memory.pages = false) (enough : pages ≤ memory.pages) :
    ¬ terms.Denies memory pages := by
  rintro (refused | refused)
  · exact nomatch refused.symm.trans (Terms.refuses_mono enough within)
  · have passed := grow?_eq_none.mp refused
    have bounded := sound.bounded
    omega

theorem grow_exact (terms : Terms) (guest : Instance σ) (pages : Nat)
    (more : guest.memory.pages ≤ pages) :
    Ends (grow terms (pages - guest.memory.pages)) guest
      (fun _ after => ¬ terms.Denies guest.memory pages ∧
        after = { guest with memory := { guest.memory with pages } })
      (fun fault after => terms.Denies guest.memory pages ∧
        fault = .report (terms.denial guest.memory pages) ∧ after = guest) := by
  have total : (guest.memory.pages : Int) + (pages - guest.memory.pages) = pages := by omega
  have nonnegative : ¬ (pages : Int) - guest.memory.pages < 0 := by omega
  have extra : ((pages : Int) - guest.memory.pages).toNat = pages - guest.memory.pages := by omega
  unfold Ends grow
  dsimp only
  rw [total, extra, if_neg nonnegative]
  by_cases refused : terms.refuses pages = true
  · rw [if_pos refused]
    refine ⟨Or.inl refused, ?_, rfl⟩
    rw [Terms.denial, if_pos refused]
  · rw [if_neg refused]
    cases grown : guest.memory.grow? (pages - guest.memory.pages) with
    | none =>
      refine ⟨Or.inr grown, ?_, rfl⟩
      rw [Terms.denial, if_neg refused]
    | some memory =>
      refine ⟨?_, ?_⟩
      · rintro (refused' | refused')
        · exact refused refused'
        · exact nomatch grown.symm.trans refused'
      · rw [(grow?_some guest.memory _ memory grown).1, Nat.add_sub_cancel' more]

/-- Making room leaves as many pages as it takes, or as many as there were. -/
theorem ensure_exact (terms : Terms) (stop : Nat) (guest : Instance σ) :
    Ends (ensure terms stop) guest
      (fun _ after => (guest.memory.pages < stop ⌈/⌉ pageSize →
          ¬ terms.Denies guest.memory (stop ⌈/⌉ pageSize)) ∧
        after = { guest with memory := guest.memory.atLeast (stop ⌈/⌉ pageSize) })
      (fun fault after => guest.memory.pages < stop ⌈/⌉ pageSize ∧
        terms.Denies guest.memory (stop ⌈/⌉ pageSize) ∧
        fault = .report (terms.denial guest.memory (stop ⌈/⌉ pageSize)) ∧ after = guest) := by
  have takes : stop ⌈/⌉ pageSize ≤ guest.memory.pages ↔ stop ≤ guest.memory.size := by
    rw [ceilDiv_le_iff_le_mul pageSize_pos, Nat.mul_comm]
    rfl
  unfold ensure
  refine ends_ite.mpr ?_
  split
  · rename_i fits
    have enough := takes.mpr (Int.ofNat_le.mp fits)
    refine ⟨fun more => absurd enough (Nat.not_le_of_lt more), ?_⟩
    rw [Memory.atLeast, Nat.max_eq_left enough]
  · rename_i short
    have more : guest.memory.pages < stop ⌈/⌉ pageSize :=
      Nat.lt_of_not_le fun enough => short (Int.ofNat_le.mpr (takes.mp enough))
    rw [Memory.atLeast, Nat.max_eq_right (Nat.le_of_lt more)]
    have grown := grow_exact terms guest (stop ⌈/⌉ pageSize) (Nat.le_of_lt more)
    rw [← pagesFor_eq] at grown
    unfold Ends at grown ⊢
    dsimp only at grown ⊢
    revert grown
    cases grow terms (pagesFor (stop - guest.memory.size)) guest with
    | ok _ after => exact fun grown => ⟨fun _ => grown.1, grown.2⟩
    | error fault after => exact fun denied => ⟨more, denied⟩

/-- The pages it takes to hold a run of bytes at an address. -/
def needed (address : Address) (bytes : Bytes) : Nat :=
  (address.offset + bytes.length) ⌈/⌉ pageSize

theorem needed_le {address : Address} {bytes : Bytes} {pages : Nat} :
    needed address bytes ≤ pages ↔ address.offset + bytes.length ≤ pages * pageSize := by
  rw [needed, ceilDiv_le_iff_le_mul pageSize_pos, Nat.mul_comm]

/-- A run of bytes ends in a memory with the pages that it takes. -/
theorem le_size_atLeast (memory : Memory) (address : Address) (bytes : Bytes) :
    address.offset + bytes.length ≤ (memory.atLeast (needed address bytes)).size :=
  needed_le.mp (Nat.le_max_right _ _)

theorem write_leads (terms : Terms) (address : Address) (bytes : Bytes) (guest : Instance σ) :
    Ends (write terms address bytes) guest
      (fun _ after => ∃ memory, guest.memory.Leads memory ∧
        after = { guest with memory, history := .write address bytes :: guest.history })
      (fun _ after => ∃ memory, guest.memory.Leads memory ∧ after = { guest with memory }) := by
  refine (ends_bind _ _ _ _ _).mpr ?_
  have room := ensure_exact terms (address.offset + bytes.length) guest
  rw [Int.natCast_add] at room
  refine room.mono ?_ ?_
  · rintro _ after ⟨granted, rfl⟩
    have enlarged : guest.memory.Leads (guest.memory.atLeast (needed address bytes)) :=
      leads_atLeast fun more refused => granted more (Or.inr refused)
    refine ends_ite.mpr ?_
    split
    · exact ⟨_, enlarged, rfl⟩
    · have filled := leads_overwrite fun _ => le_size_atLeast guest.memory address bytes
      exact ⟨_, IsTrans.trans _ _ _ enlarged filled, rfl⟩
  · rintro fault after ⟨_, _, _, rfl⟩
    exact ⟨after.memory, refl _, rfl⟩

/-- Memory that was made large enough holds what is then written to it. -/
theorem stored_atLeast {memory : Memory} {address : Address} {bytes : Bytes}
    (sound : memory.Sound) (bounded : needed address bytes ≤ memory.bound) :
    memory.Stored address.offset bytes
      ((memory.atLeast (needed address bytes)).overwrite address.offset bytes) := by
  have most := Nat.le_trans bounded memory.bound_le
  have room : address.offset + bytes.length ≤ 2 ^ 32 := needed_le.mp most
  have other : ∀ place, place < 2 ^ 32 →
      place < address.offset ∨ address.offset + bytes.length ≤ place →
      ((memory.atLeast (needed address bytes)).overwrite address.offset bytes).byte place =
        memory.byte place := by
    intro place addressable outside
    rw [byte_overwrite _ _ _ _ address.inRange addressable]
    split
    · rw [List.getElem?_eq_none (by omega), Option.getD_none, atLeast, byte_pages]
    · rw [atLeast, byte_pages]
  refine ⟨rfl, rfl, bytes_overwrite _ _ _ address.inRange room, ?_, ?_⟩
  · intro place inside outside
    exact other place (Nat.lt_of_lt_of_le inside sound.size_le) outside
  · intro place behind inside outside
    have size_le : (memory.atLeast (needed address bytes)).size ≤ 2 ^ 32 := by
      refine size_le_of_pages _ (Nat.max_le.mpr ⟨?_, most⟩)
      exact Nat.le_trans sound.bounded memory.bound_le
    have addressable : place < 2 ^ 32 := Nat.lt_of_lt_of_le inside size_le
    rw [other place addressable outside]
    exact sound.blank place behind addressable

/-- An empty write exactly where memory ends, once it reaches that far. -/
def AtEnd (memory : Memory) (address : Address) (bytes : Bytes) : Prop :=
  bytes = [] ∧ ∃ pages, memory.pages ≤ pages ∧ address.offset = pages * pageSize

/-- Only an empty write can begin where the memory ends that was made large
enough for it. -/
theorem atEnd_iff {memory : Memory} {address : Address} {bytes : Bytes} :
    AtEnd memory address bytes ↔
      (memory.atLeast (needed address bytes)).size ≤ address.offset := by
  have reaches := le_size_atLeast memory address bytes
  constructor
  · rintro ⟨rfl, pages, more, start⟩
    have enough : needed address [] ≤ pages := by
      rw [needed_le, start, List.length_nil, Nat.add_zero]
    rw [start]
    exact Nat.mul_le_mul_right _ (Nat.max_le.mpr ⟨more, enough⟩)
  · intro behind
    have nothing : bytes.length = 0 := by omega
    refine ⟨List.length_eq_zero_iff.mp nothing, max memory.pages (needed address bytes),
      Nat.le_max_left _ _, ?_⟩
    exact Nat.le_antisymm (Nat.le_of_add_right_le reaches) behind

/-- What a raw write that is done leaves. -/
structure Writes (terms : Terms) (address : Address) (bytes : Bytes) (guest after : Instance σ) :
    Prop where
  granted : ¬ terms.Denies guest.memory (needed address bytes)
  begins : ¬ AtEnd guest.memory address bytes
  stored : guest.memory.Stored address.offset bytes after.memory
  after_eq : after = { guest with
    memory := after.memory
    history := .write address bytes :: guest.history }

/-- What a raw write fails with, and what it leaves then. -/
inductive Fails (terms : Terms) (address : Address) (bytes : Bytes) (guest : Instance σ) :
    Fault → Instance σ → Prop
  | denied : terms.Denies guest.memory (needed address bytes) →
    Fails terms address bytes guest
      (.report (terms.denial guest.memory (needed address bytes))) guest
  | outside : ¬ terms.Denies guest.memory (needed address bytes) →
    AtEnd guest.memory address bytes →
    Fails terms address bytes guest .outsideMemory
      { guest with memory := guest.memory.atLeast (needed address bytes) }

/-- A raw write is done, or denied for want of pages, or taken for one outside
memory, and each of them only then. -/
theorem write_exact (terms : Terms) (address : Address) (bytes : Bytes) (guest : Instance σ)
    (sound : guest.memory.Sound) (within : terms.refuses guest.memory.pages = false) :
    Ends (write terms address bytes) guest (fun _ after => Writes terms address bytes guest after)
      (fun fault after => Fails terms address bytes guest fault after) := by
  refine (ends_bind _ _ _ _ _).mpr ?_
  have room := ensure_exact terms (address.offset + bytes.length) guest
  rw [Int.natCast_add] at room
  refine room.mono ?_ ?_
  · rintro _ after ⟨more, rfl⟩
    have granted : ¬ terms.Denies guest.memory (needed address bytes) := by
      intro denied
      refine more (Nat.lt_of_not_le fun enough => ?_) denied
      exact not_denies_of_le sound within enough denied
    refine ends_ite.mpr ?_
    split
    · rename_i behind
      exact .outside granted (atEnd_iff.mpr behind)
    · rename_i inside
      have bounded : needed address bytes ≤ guest.memory.bound := by
        have passed : ¬ guest.memory.bound <
            guest.memory.pages + (needed address bytes - guest.memory.pages) :=
          fun passed => granted (Or.inr (grow?_eq_none.mpr passed))
        have least := sound.bounded
        omega
      exact ⟨granted, mt atEnd_iff.mp inside, stored_atLeast sound bounded, rfl⟩
  · rintro fault after ⟨_, denied, rfl, rfl⟩
    exact .denied denied

end Region
end PolicyHost
