import PolicyHost.Bundle
import PolicyHost.Proofs.Manifests
import PolicyHost.Proofs.Operation

namespace PolicyHost

/-!
# What an archive delivers

A reader of an archive delivers its members one after the other, each with a
name, whether it is a regular file, and its data.  A bundle is gathered from
what is delivered.  Reading never goes back: each member takes a header's worth
of data off the tape, so that there are no more of them than the budget of the
collection allows.
-/

/-! ## Members -/

namespace Tar

open Operation

variable {α β : Type}

/-- Reading puts nothing back on the tape, and takes at least some bytes off it when it
succeeds. -/
structure Consumes (least : Nat) (reading : Reading α) : Prop where
  ok : ∀ {reader a after}, reading reader = .ok a after →
    after.tape.rest.length + least ≤ reader.tape.rest.length
  error : ∀ {reader trouble after}, reading reader = .error trouble after →
    after.tape.rest.length ≤ reader.tape.rest.length

namespace Consumes

theorem mono {least less : Nat} {reading : Reading α} (consumes : Consumes least reading)
    (fewer : less ≤ least) : Consumes less reading where
  ok found := by
    have bound := consumes.ok found
    omega
  error := consumes.error

theorem done (a : α) : Consumes 0 (pure a : Reading α) where
  ok found := by
    cases found
    exact Nat.le_refl _
  error found := nomatch found

theorem stop (least : Nat) (trouble : Trouble) :
    Consumes least (throw trouble : Reading α) where
  ok found := nomatch found
  error found := by
    cases found
    exact Nat.le_refl _

theorem bind {first second : Nat} {reading : Reading α} {next : α → Reading β}
    (consumes : Consumes first reading) (others : ∀ a, Consumes second (next a)) :
    Consumes (first + second) (reading >>= next) where
  ok found := by
    obtain ⟨a, middle, begun, ended⟩ := bind_ok.mp found
    have one := consumes.ok begun
    have two := (others a).ok ended
    omega
  error found := by
    obtain begun | ⟨a, middle, begun, ended⟩ := bind_error.mp found
    · exact consumes.error begun
    · have one := consumes.ok begun
      have two := (others a).error ended
      omega

theorem stopped (least : Nat) (trouble : Trouble) (next : α → Reading β) :
    Consumes least ((throw trouble : Reading α) >>= next) where
  ok found := nomatch found
  error found := by
    cases found
    exact Nat.le_refl _

/-- What follows a reading that takes enough need not take anything. -/
theorem before {least : Nat} {reading : Reading α} {next : α → Reading β}
    (consumes : Consumes least reading) (others : ∀ a, Consumes 0 (next a)) :
    Consumes least (reading >>= next) :=
  consumes.bind others

/-- What follows takes enough. -/
theorem caught {least : Nat} {reading : Reading α} {handler : Trouble → Reading α}
    (consumes : Consumes least reading) (handled : ∀ trouble, Consumes least (handler trouble)) :
    Consumes least (tryCatch reading handler) where
  ok found := by
    obtain done | ⟨trouble, middle, failed, ended⟩ := caught_ok.mp found
    · exact consumes.ok done
    · have one := consumes.error failed
      have two := (handled trouble).ok ended
      omega
  error found := by
    obtain ⟨trouble, middle, failed, ended⟩ := caught_error.mp found
    have one := consumes.error failed
    have two := (handled trouble).error ended
    omega

theorem look : Consumes 0 (get : Reading Reader) where
  ok found := by
    cases found
    exact Nat.le_refl _
  error found := nomatch found

/-- A change to where the next header begins or to the fields leaves the tape. -/
theorem note (change : Reader → Reader)
    (kept : ∀ reader, (change reader).tape = reader.tape) :
    Consumes 0 (modify change : Reading Unit) where
  ok {reader _ _} found := by
    cases found
    rw [kept]
    exact Nat.le_refl _
  error found := nomatch found

end Consumes

theorem take_ok {count : Nat} {reader after : Reader} {bytes : Bytes}
    (taken : take count reader = .ok bytes after) :
    after.tape.rest.length + bytes.length = reader.tape.rest.length := by
  unfold take at taken
  dsimp only at taken
  split at taken
  · exact nomatch taken
  · cases taken
    simp only [List.length_drop, List.length_take]
    omega

theorem take_consumes (count : Nat) : Consumes 0 (take count) where
  ok taken := by
    have := take_ok taken
    omega
  error taken := by
    unfold take at taken
    dsimp only at taken
    split at taken <;> cases taken
    exact Nat.le_refl _

/-- What a whole block describes takes nothing more. -/
theorem described_consumes (block : Bytes) : Consumes 0 (do
    if block.all (· == 0) then throw .endMark
    match member? block with
    | some member => return { member with start := (← get).tape.position }
    | none => throw .badHeader) := by
  dsimp only
  split
  · exact Consumes.stopped 0 _ _
  · split
    · exact Consumes.look.before fun _ => Consumes.done _
    · exact Consumes.stop 0 _

theorem header_consumes : Consumes blockSize header := by
  unfold header
  constructor
  · intro reader member after found
    obtain ⟨block, middle, taken, found⟩ := bind_ok.mp found
    split at found
    · obtain ⟨_, _, impossible, _⟩ := bind_ok.mp found
      cases impossible
    · have one := take_ok taken
      have two := (described_consumes block).ok found
      omega
  · intro reader trouble after found
    obtain taken | ⟨block, middle, taken, found⟩ := bind_error.mp found
    · exact (take_consumes _).error taken
    · have one := take_ok taken
      split at found
      · have two := (Consumes.stopped 0 _ _).error found
        omega
      · have two := (described_consumes block).error found
        omega

theorem takeBlocks_consumes (size : Int) : Consumes 0 (takeBlocks size) := by
  unfold takeBlocks
  dsimp only
  split
  · exact Consumes.look.before fun _ => take_consumes _
  · exact take_consumes _

theorem skipData_consumes (member : Member) : Consumes 0 (skipData member) :=
  Consumes.note _ fun _ => rfl

theorem announced_consumes {least : Nat} {reading : Reading Member}
    (consumes : Consumes least reading) : Consumes least (announced reading) :=
  consumes.caught fun _ => Consumes.stop least _

theorem member_consumes (budget : Nat) : Consumes blockSize (member budget) := by
  induction budget with
  | zero => exact Consumes.stop _ _
  | succ budget inductionHypothesis =>
    unfold member
    have announced := (announced_consumes inductionHypothesis).mono (Nat.zero_le _)
    refine header_consumes.before fun described => ?_
    split
    · exact (takeBlocks_consumes _).before fun _ => announced.before fun _ => Consumes.done _
    · exact (takeBlocks_consumes _).before fun _ => announced
    · refine (takeBlocks_consumes _).before fun bytes => ?_
      split
      · exact Consumes.stop 0 _
      · refine Consumes.look.before fun _ => announced.before fun found => ?_
        dsimp only
        split
        · exact (skipData_consumes _).before fun _ => Consumes.done _
        · exact Consumes.done _
    · refine (takeBlocks_consumes _).before fun bytes => ?_
      split
      · exact Consumes.stop 0 _
      · refine (Consumes.note _ ?_).before fun _ => announced
        intro reader
        rfl
    · exact (skipData_consumes _).before fun _ => Consumes.look.before fun _ => Consumes.done _

theorem goOn_consumes : Consumes 0 goOn := by
  unfold goOn
  refine Consumes.look.before fun reader => ?_
  dsimp only
  split
  · exact Consumes.done _
  · split
    · exact Consumes.done _
    · split
      · exact Consumes.stop 0 _
      · refine (take_consumes _).before fun _ => (take_consumes _).before fun last => ?_
        split
        · exact Consumes.stop 0 _
        · exact Consumes.done _

theorem next_consumes {reader after : Reader} {member : Member}
    (found : next reader = .ok (some member) after) :
    after.tape.rest.length + blockSize ≤ reader.tape.rest.length := by
  unfold next at found
  obtain ⟨more, middle, gone, found⟩ := bind_ok.mp found
  have one := goOn_consumes.ok gone
  dsimp only at found
  split at found
  · exact nomatch found
  · obtain ⟨reader, same, got, found⟩ := bind_ok.mp found
    cases got
    obtain found | ⟨trouble, last, _, found⟩ := caught_ok.mp found
    · rw [map_eq_pure_bind] at found
      obtain ⟨member, last, found, same⟩ := bind_ok.mp found
      cases same
      have two := (member_consumes _).ok found
      omega
    · cases trouble with
      | endMark => exact nomatch found
      | unreadable => exact nomatch found
      | badHeader =>
        obtain ⟨_, _, _, found⟩ := bind_ok.mp found
        split at found <;> exact nomatch found

theorem content_consumes (member : Member) : Consumes 0 (content member) := by
  unfold content
  refine (take_consumes _).before fun bytes => ?_
  dsimp only
  split
  · exact Consumes.stopped 0 _ _
  · exact Consumes.done _

end Tar

namespace Bundle

structure Item where
  name : HostText
  regular : Bool
  content : Bytes
deriving DecidableEq, Repr

/-- A reader delivers items to the end of its archive.  Of a member that is no regular file, or
whose name has no role, nothing is read, so that any data may be said to be in it. -/
inductive Delivers : Tar.Reader → List Item → Prop
  | finished {reader last : Tar.Reader} (ended : Tar.next reader = .ok none last) : Delivers reader []
  | passed {reader opened : Tar.Reader} {member : Tar.Member} {content : Bytes}
      {items : List Item} (found : Tar.next reader = .ok (some member) opened)
      (idle : member.kind ≠ .regular ∨ roleOf (rooted (nameText member)) = .other)
      (others : Delivers opened items) :
      Delivers reader (⟨nameText member, member.kind = .regular, content⟩ :: items)
  | file {reader opened closed : Tar.Reader} {member : Tar.Member} {content : Bytes}
      {items : List Item} (found : Tar.next reader = .ok (some member) opened)
      (regular : member.kind = .regular) (role : roleOf (rooted (nameText member)) ≠ .other)
      (held : Tar.content member opened = .ok content closed) (others : Delivers closed items) :
      Delivers reader (⟨nameText member, true, content⟩ :: items)

/-- An archive that can be read to its end delivers items. -/
def Archives (archive : Bytes) (items : List Item) : Prop :=
  ∃ tape, Gzip.tapeOf archive = .ok tape ∧ Delivers { tape } items

/-- Each item that is delivered takes a header off the tape. -/
theorem Delivers.length_le {reader : Tar.Reader} {items : List Item}
    (delivers : Delivers reader items) :
    items.length * Tar.blockSize ≤ reader.tape.rest.length := by
  induction delivers with
  | finished _ => simp
  | passed found _ _ inductionHypothesis =>
    have := Tar.next_consumes found
    rw [List.length_cons, Nat.succ_mul]
    omega
  | file found _ _ held _ inductionHypothesis =>
    have := Tar.next_consumes found
    have := (Tar.content_consumes _).ok held
    rw [List.length_cons, Nat.succ_mul]
    omega

variable (room : Nat)

/-- Add an item to what was collected. -/
def Contents.take (source : String) (contents : Contents) (item : Item) :
    Except Fault Contents :=
  contents.add room source (if item.regular then roleOf (rooted item.name) else .other)
    (rooted item.name) item.content

variable {room} {source : String} {contents : Contents}

theorem role_of_idle {member : Tar.Member}
    (idle : member.kind ≠ .regular ∨ roleOf (rooted (nameText member)) = .other) :
    (if member.kind = .regular then roleOf (rooted (nameText member)) else .other) = .other := by
  obtain special | role := idle
  · exact if_neg special
  · rw [role, ite_self]

theorem Delivers.congr {opened closed : Tar.Reader} {items : List Item}
    (delivers : Delivers closed items) (same : Tar.next opened = Tar.next closed) :
    Delivers opened items := by
  cases delivers with
  | finished ended => exact .finished (same.trans ended)
  | passed found idle others => exact .passed (same.trans found) idle others
  | file found regular role held others => exact .file (same.trans found) regular role held others

/-- A regular file is delivered under any name if it can be read and what follows it is the same
whether it was read or not. -/
theorem Delivers.readable {reader opened closed : Tar.Reader} {member : Tar.Member}
    {content : Bytes} {items : List Item} (found : Tar.next reader = .ok (some member) opened)
    (regular : member.kind = .regular) (held : Tar.content member opened = .ok content closed)
    (skipped : Tar.next opened = Tar.next closed) (others : Delivers closed items) :
    Delivers reader (⟨nameText member, true, content⟩ :: items) := by
  by_cases role : roleOf (rooted (nameText member)) = .other
  · have delivers : Delivers reader (⟨nameText member, member.kind = .regular, content⟩ :: items) :=
      .passed found (Or.inr role) (others.congr skipped)
    rwa [decide_eq_true regular] at delivers
  · exact .file found regular role held others

/-! ## Collecting -/

section Collect

variable {reader opened closed last : Tar.Reader} {member : Tar.Member} {bytes : Bytes}
variable {budget : Nat}

theorem collect_over (ended : Tar.next reader = .ok none last) :
    collect room source (budget + 1) contents reader = .ok contents := by
  unfold collect
  rw [EStateM.run, ended]

theorem collect_passed (found : Tar.next reader = .ok (some member) opened)
    (idle : member.kind ≠ .regular ∨ roleOf (rooted (nameText member)) = .other) :
    collect room source (budget + 1) contents reader = collect room source budget contents opened := by
  conv_lhs => unfold collect
  rw [EStateM.run, found]
  dsimp only
  rw [if_pos (role_of_idle idle)]

theorem collect_file (found : Tar.next reader = .ok (some member) opened)
    (regular : member.kind = .regular) (role : roleOf (rooted (nameText member)) ≠ .other)
    (held : Tar.content member opened = .ok bytes closed) :
    collect room source (budget + 1) contents reader =
      contents.add room source (roleOf (rooted (nameText member))) (rooted (nameText member)) bytes >>= fun more =>
        collect room source budget more closed := by
  conv_lhs => unfold collect
  rw [EStateM.run, found]
  dsimp only
  rw [if_pos regular, if_neg role, EStateM.run, held]
  dsimp only
  cases contents.add room source (roleOf (rooted (nameText member))) (rooted (nameText member)) bytes <;> rfl

theorem collect_unread {trouble : Tar.Trouble}
    (found : Tar.next reader = .ok (some member) opened) (regular : member.kind = .regular)
    (role : roleOf (rooted (nameText member)) ≠ .other)
    (unread : Tar.content member opened = .error trouble closed) :
    collect room source (budget + 1) contents reader = .error (.report (unreadable source)) := by
  unfold collect
  rw [EStateM.run, found]
  dsimp only
  rw [if_pos regular, if_neg role, EStateM.run, unread]

theorem collect_lost {trouble : Tar.Trouble} (lost : Tar.next reader = .error trouble last) :
    collect room source (budget + 1) contents reader = .error (.report (unreadable source)) := by
  unfold collect
  rw [EStateM.run, lost]

end Collect

/-- An item that is passed over adds nothing. -/
theorem take_idle {member : Tar.Member} {content : Bytes}
    (idle : member.kind ≠ .regular ∨ roleOf (rooted (nameText member)) = .other) :
    contents.take room source ⟨nameText member, member.kind = .regular, content⟩ = .ok contents := by
  unfold Contents.take
  simp only [decide_eq_true_eq]
  exact congrArg (contents.add room source · _ _) (role_of_idle idle)

theorem collect_delivers {reader : Tar.Reader} {items : List Item}
    (delivers : Delivers reader items) (budget : Nat) (enough : items.length < budget) :
    collect room source budget contents reader = items.foldlM (Contents.take room source) contents := by
  induction delivers generalizing contents budget with
  | finished ended =>
    obtain ⟨more, rfl⟩ := Nat.exists_eq_add_one_of_ne_zero (Nat.ne_zero_of_lt enough)
    exact collect_over ended
  | passed found idle _ inductionHypothesis =>
    obtain ⟨more, rfl⟩ := Nat.exists_eq_add_one_of_ne_zero (Nat.ne_zero_of_lt enough)
    rw [collect_passed found idle, List.foldlM_cons, take_idle idle]
    exact inductionHypothesis more (Nat.lt_of_succ_lt_succ enough)
  | file found regular role held _ inductionHypothesis =>
    obtain ⟨more, rfl⟩ := Nat.exists_eq_add_one_of_ne_zero (Nat.ne_zero_of_lt enough)
    rw [collect_file found regular role held, List.foldlM_cons]
    exact congrArg (contents.add room source _ _ _ >>= ·)
      (funext fun _ => inductionHypothesis more (Nat.lt_of_succ_lt_succ enough))

theorem exists_delivers {budget : Nat} {reader : Tar.Reader} {made : Contents}
    (collected : collect room source budget contents reader = .ok made) :
    ∃ items, Delivers reader items := by
  induction budget generalizing contents reader with
  | zero => exact nomatch collected
  | succ budget inductionHypothesis =>
    cases found : Tar.next reader with
    | error trouble last =>
      rw [collect_lost found] at collected
      exact nomatch collected
    | ok next opened =>
      cases next with
      | none => exact ⟨[], .finished found⟩
      | some member =>
        by_cases idle : member.kind ≠ .regular ∨ roleOf (rooted (nameText member)) = .other
        · rw [collect_passed found idle] at collected
          obtain ⟨items, delivers⟩ := inductionHypothesis collected
          exact ⟨⟨nameText member, member.kind = .regular, []⟩ :: items,
            .passed found idle delivers⟩
        · obtain ⟨special, role⟩ := not_or.mp idle
          have regular := not_not.mp special
          cases held : Tar.content member opened with
          | error trouble closed =>
            rw [collect_unread found regular role held] at collected
            exact nomatch collected
          | ok bytes closed =>
            rw [collect_file found regular role held] at collected
            cases added : contents.add room source (roleOf (rooted (nameText member))) (rooted (nameText member)) bytes with
            | error report =>
              rw [added] at collected
              exact nomatch collected
            | ok more =>
              rw [added] at collected
              obtain ⟨items, delivers⟩ := inductionHypothesis collected
              exact ⟨_, .file found regular role held delivers⟩

theorem read_archives (source : String) {archive : Bytes} {items : List Item}
    (archives : Archives archive items) :
    read room source archive =
      (items.foldlM (Contents.take room source) {}).map (ofContents source) := by
  obtain ⟨tape, unpacked, delivers⟩ := archives
  have fewer := delivers.length_le
  have enough : items.length < tape.rest.length / Tar.blockSize + 2 := by
    have := (Nat.le_div_iff_mul_le (by decide : 0 < Tar.blockSize)).mpr fewer
    dsimp only at this
    omega
  have gathered : collect room source _ {} { tape } = _ := collect_delivers delivers _ enough
  unfold read
  rw [unpacked]
  dsimp only
  rw [gathered]

theorem exists_archives {archive : Bytes} {made : Bundle × List Logging.Record}
    (read : read room source archive = .ok made) : ∃ items, Archives archive items := by
  unfold Bundle.read at read
  cases unpacked : Gzip.tapeOf archive with
  | error trouble =>
    rw [unpacked] at read
    cases trouble <;> exact nomatch read
  | ok tape =>
    rw [unpacked] at read
    dsimp only at read
    cases collected : collect room source (tape.rest.length / Tar.blockSize + 2) {} { tape } with
    | error fault =>
      rw [collected] at read
      exact nomatch read
    | ok contents =>
      obtain ⟨items, delivers⟩ := exists_delivers collected
      exact ⟨items, tape, unpacked, delivers⟩

end Bundle
end PolicyHost
