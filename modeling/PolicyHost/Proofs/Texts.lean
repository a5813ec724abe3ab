import PolicyHost.Proofs.Extent
import PolicyHost.Proofs.WellFormed

namespace PolicyHost

/-!
# Texts in guest memory

A guest says where a text begins, and a zero says where it ends.  The host looks
for that zero a chunk at a time and keeps what it has passed.  What this comes
to has nothing to do with chunks: it is the bytes in front of the first zero
that lies in memory, if there is one, and it is text if these bytes together are
the UTF-8 form of one.

A policy that prints or gives up has said such a text, and its handler is told
it.  What cannot be read is not passed over: it is told once, as a policy that
gave up.
-/

variable {σ α : Type}

namespace Memory

/-- The first zero from an address on, inside memory. -/
structure EndsAt (memory : Memory) (start stop : Nat) : Prop where
  start_le : start ≤ stop
  inside : stop < memory.size
  zero : memory.byte stop = 0
  first : ∀ place, start ≤ place → place < stop → memory.byte place ≠ 0

/-- There is no zero from an address on, inside memory. -/
def Endless (memory : Memory) (start : Nat) : Prop :=
  ∀ place, start ≤ place → place < memory.size → memory.byte place ≠ 0

/-- The bytes from an address up to another one. -/
def between (memory : Memory) (start stop : Nat) : Bytes :=
  (List.range' start (stop - start)).map memory.byte

variable {memory : Memory} {start middle stop : Nat}

theorem endsAt_or_endless (memory : Memory) (start : Nat) :
    (∃ stop, memory.EndsAt start stop) ∨ memory.Endless start := by
  by_cases ended : ∃ stop, start ≤ stop ∧ stop < memory.size ∧ memory.byte stop = 0
  · have least := Nat.find_spec ended
    refine Or.inl ⟨Nat.find ended, least.1, least.2.1, least.2.2, ?_⟩
    intro place behind before zero
    exact Nat.find_min ended before ⟨behind, Nat.lt_trans before least.2.1, zero⟩
  · exact Or.inr fun place behind inside zero => ended ⟨place, behind, inside, zero⟩

/-- There is one first zero. -/
theorem EndsAt.unique {other : Nat} (ends : memory.EndsAt start stop)
    (ends' : memory.EndsAt start other) : stop = other := by
  rcases Nat.lt_trichotomy stop other with before | same | behind
  · exact absurd ends.zero (ends'.first stop ends.start_le before)
  · exact same
  · exact absurd ends'.zero (ends.first other ends'.start_le behind)

theorem between_length (memory : Memory) (start stop : Nat) :
    (memory.between start stop).length = stop - start := by
  rw [between, List.length_map, List.length_range']

/-- It is the first one from every place in front of it on. -/
theorem EndsAt.later (ends : memory.EndsAt start stop) (behind : start ≤ middle)
    (before : middle ≤ stop) : memory.EndsAt middle stop :=
  ⟨before, ends.inside, ends.zero, fun place from_middle =>
    ends.first place (Nat.le_trans behind from_middle)⟩

theorem between_append (memory : Memory) (early : start ≤ middle) (late : middle ≤ stop) :
    memory.between start middle ++ memory.between middle stop = memory.between start stop := by
  have joined := List.range'_append_1 (s := start) (m := middle - start) (n := stop - middle)
  rw [show start + (middle - start) = middle by omega,
    show middle - start + (stop - middle) = stop - start by omega] at joined
  rw [between, between, ← List.map_append, joined, between]

theorem bytes_eq_between (memory : Memory) (start count : Nat)
    (within : start + count ≤ 2 ^ 32) :
    memory.bytes start count = memory.between start (start + count) := by
  rw [bytes_eq_map memory start count within, between, Nat.add_sub_cancel_left]

theorem endsAt_of_stored (memory : Memory) {text : Bytes}
    (inside : start + text.length < memory.size)
    (addressable : memory.size ≤ 2 ^ 32)
    (stored : memory.bytes start (text.length + 1) = text ++ [0]) (nonzero : 0 ∉ text) :
    memory.EndsAt start (start + text.length) ∧
      memory.between start (start + text.length) = text := by
  have pieces := stored
  rw [bytes_append _ _ _ _ (by omega)] at pieces
  obtain ⟨front, back⟩ := List.append_inj pieces (bytes_length _ _ _ (by omega))
  rw [bytes_eq_between _ _ _ (by omega)] at front
  rw [bytes_eq_map _ _ _ (by omega)] at back
  refine ⟨⟨Nat.le_add_right _ _, inside, List.singleton_inj.mp back, ?_⟩, front⟩
  intro place behind before zero
  refine nonzero ?_
  rw [← front, between, List.mem_map]
  exact ⟨place, List.mem_range'_1.mpr (by omega), zero⟩

/-- The search finds what lies in front of the first zero, behind what it has
read already. -/
theorem untilZeroFrom_endsAt (chunks : List Bytes) (addressable : memory.size ≤ 2 ^ 32)
    (ends : memory.EndsAt start stop) :
    memory.untilZeroFrom start chunks =
      some (chunks.reverse.flatten ++ memory.between start stop) := by
  have early := ends.start_le
  have inside := ends.inside
  have count := memory.between_length start stop
  refine untilZeroFrom_text memory start _ chunks (by omega) addressable ?_ ?_
  · rw [count, bytes_append _ _ _ _ (by omega), bytes_eq_between _ _ _ (by omega),
      bytes_eq_map _ _ 1 (by omega), show start + (stop - start) = stop by omega]
    exact congrArg (memory.between start stop ++ [·]) ends.zero
  · rw [between, List.mem_map]
    rintro ⟨place, member, zero⟩
    have range := List.mem_range'_1.mp member
    exact ends.first place range.1 (by omega) zero

/-- Where there is no zero, the search ends with memory. -/
theorem Endless.untilZeroFrom_eq_none (endless : memory.Endless start) (chunks : List Bytes)
    (addressable : memory.size ≤ 2 ^ 32) : memory.untilZeroFrom start chunks = none := by
  by_cases inside : start < memory.size
  · refine untilZeroFrom_endless memory start chunks addressable ?_
    rw [bytes_eq_map _ _ _ (by omega), List.mem_map]
    rintro ⟨place, member, zero⟩
    have range := List.mem_range'_1.mp member
    exact endless place range.1 (by omega) zero
  · rw [untilZeroFrom, if_neg inside]

/-- This text lies at an address, with a zero behind it. -/
def Holds (memory : Memory) (start : Nat) (text : String) : Prop :=
  ∃ stop, memory.EndsAt start stop ∧
    (memory.between start stop).toByteArray = text.toByteArray

/-- What reading up to the next zero has to come to. -/
structure Reads (memory : Memory) (start : Nat) : Prop where
  /-- The bytes are those in front of the first zero. -/
  found : ∀ bytes, memory.untilZero start = some bytes ↔
    ∃ stop, memory.EndsAt start stop ∧ bytes = memory.between start stop
  /-- There are none if no zero is left in memory. -/
  missed : memory.untilZero start = none ↔ memory.Endless start
  /-- Wherever the bytes in front of the zero are cut, the search can go on. -/
  cut : ∀ middle, start ≤ middle →
    (∀ place, start ≤ place → place < middle → memory.byte place ≠ 0) →
    memory.untilZeroFrom middle [memory.between start middle] = memory.untilZero start
  /-- The text is the one that has these bytes. -/
  text : ∀ text, memory.textUntilZero start = some text ↔ memory.Holds start text
  /-- There is one if these bytes as a whole are UTF-8. -/
  valid : (memory.textUntilZero start).isSome ↔
    ∃ stop, memory.EndsAt start stop ∧ (memory.between start stop).toByteArray.IsValidUTF8

theorem untilZero_eq_some (addressable : memory.size ≤ 2 ^ 32) {bytes : Bytes} :
    memory.untilZero start = some bytes ↔
      ∃ stop, memory.EndsAt start stop ∧ bytes = memory.between start stop := by
  constructor
  · intro read
    obtain ⟨stop, ends⟩ | endless := memory.endsAt_or_endless start
    · rw [untilZero, untilZeroFrom_endsAt [] addressable ends] at read
      exact ⟨stop, ends, (Option.some.inj read).symm⟩
    · rw [untilZero, endless.untilZeroFrom_eq_none [] addressable] at read
      exact nomatch read
  · rintro ⟨stop, ends, rfl⟩
    exact untilZeroFrom_endsAt [] addressable ends

theorem untilZero_eq_none (addressable : memory.size ≤ 2 ^ 32) :
    memory.untilZero start = none ↔ memory.Endless start := by
  refine ⟨fun missed => ?_, fun endless => endless.untilZeroFrom_eq_none [] addressable⟩
  obtain ⟨stop, ends⟩ | endless := memory.endsAt_or_endless start
  · have found := (untilZero_eq_some addressable).mpr ⟨stop, ends, rfl⟩
    exact nomatch missed.symm.trans found
  · exact endless

/-- What was read before the search is taken up again stays in front. -/
theorem untilZeroFrom_cut (addressable : memory.size ≤ 2 ^ 32) (early : start ≤ middle)
    (nonzero : ∀ place, start ≤ place → place < middle → memory.byte place ≠ 0) :
    memory.untilZeroFrom middle [memory.between start middle] = memory.untilZero start := by
  obtain ⟨stop, ends⟩ | endless := memory.endsAt_or_endless middle
  · have whole : memory.EndsAt start stop := by
      refine ⟨Nat.le_trans early ends.start_le, ends.inside, ends.zero, ?_⟩
      intro place behind before
      by_cases front : place < middle
      · exact nonzero place behind front
      · exact ends.first place (Nat.le_of_not_lt front) before
    rw [untilZeroFrom_endsAt _ addressable ends, untilZero,
      untilZeroFrom_endsAt [] addressable whole, ← between_append memory early ends.start_le,
      List.reverse_singleton, List.flatten_singleton]
    rfl
  · have none_left : memory.Endless start := by
      intro place behind inside
      by_cases front : place < middle
      · exact nonzero place behind front
      · exact endless place (Nat.le_of_not_lt front) inside
    rw [endless.untilZeroFrom_eq_none _ addressable, untilZero,
      none_left.untilZeroFrom_eq_none [] addressable]

theorem textUntilZero_eq_some (addressable : memory.size ≤ 2 ^ 32) {text : String} :
    memory.textUntilZero start = some text ↔ memory.Holds start text := by
  rw [textUntilZero, Option.bind_eq_some_iff]
  constructor
  · rintro ⟨bytes, read, decoded⟩
    obtain ⟨stop, ends, rfl⟩ := (untilZero_eq_some addressable).mp read
    exact ⟨stop, ends, Utf8.decodeText_eq_some.mp decoded⟩
  · rintro ⟨stop, ends, same⟩
    exact ⟨_, (untilZero_eq_some addressable).mpr ⟨stop, ends, rfl⟩,
      Utf8.decodeText_eq_some.mpr same⟩

/-- Reading up to the next zero comes to what it has to. -/
theorem reads (addressable : memory.size ≤ 2 ^ 32) (start : Nat) : memory.Reads start where
  found _ := untilZero_eq_some addressable
  missed := untilZero_eq_none addressable
  cut _ early nonzero := untilZeroFrom_cut addressable early nonzero
  text _ := textUntilZero_eq_some addressable
  valid := by
    rw [Option.isSome_iff_exists]
    constructor
    · rintro ⟨text, read⟩
      obtain ⟨stop, ends, same⟩ := (textUntilZero_eq_some addressable).mp read
      exact ⟨stop, ends, same ▸ text.isValidUTF8⟩
    · rintro ⟨stop, ends, valid⟩
      refine ⟨String.ofByteArray _ valid, (textUntilZero_eq_some addressable).mpr ⟨stop, ends, ?_⟩⟩
      rfl

end Memory

/-!
### What handlers are told
-/

/-- The address that a guest means by a word of 32 bits, which is unsigned. -/
def unsigned (word : Int32) : Nat := (word.toInt % 2 ^ 32).toNat

theorem toNat_toUInt32 (word : Int32) : word.toUInt32.toNat = unsigned word := by
  have bits : word.toInt = Int.bmod word.toUInt32.toNat (2 ^ 32) := by
    rw [← Int32.toInt_toBitVec, BitVec.toInt_eq_toNat_bmod]
    rfl
  have wraps := Int.bmod_emod (x := word.toUInt32.toNat) (m := 2 ^ 32)
  have small := word.toUInt32.toNat_lt
  rw [unsigned, bits]
  omega

namespace Handlers

/-- What a handler does when it is told this. -/
def answer (handlers : Handlers) : Event → Reaction
  | .aborted message => handlers.abort message
  | .printed text => handlers.print text

/-- The handlers, noting what they are told and nothing else. -/
def noting (handlers : Handlers) : Handlers where
  abort message := { handlers.abort message with events := [.aborted message] }
  print text := { handlers.print text with events := [.printed text] }

/-- Noting does not keep a run from going on. -/
theorem noting_fault (handlers : Handlers) (event : Event) :
    (handlers.noting.answer event).fault = (handlers.answer event).fault := by
  cases event <;> rfl

/-- What is told is noted, once. -/
theorem noting_events (handlers : Handlers) (event : Event) (journal : Journal) :
    (journal.add (handlers.noting.answer event)).events = event :: journal.events := by
  cases event <;> rfl

end Handlers

/-- What is told about a host call: the text at its address, where what cannot
be read is told as a policy that gave up. -/
inductive Told (memory : Memory) : HostCall → Event → Prop
  | aborted {word : Int32} {text : String} : memory.Holds (unsigned word) text →
    Told memory (.abort word.toUInt32) (.aborted text)
  | printed {word : Int32} {text : String} : memory.Holds (unsigned word) text →
    Told memory (.print word.toUInt32) (.printed text)
  | nothingAborted {word : Int32} : (∀ text, ¬ memory.Holds (unsigned word) text) →
    Told memory (.abort word.toUInt32) (.aborted Handlers.invalidString)
  | nothingPrinted {word : Int32} : (∀ text, ¬ memory.Holds (unsigned word) text) →
    Told memory (.print word.toUInt32) (.aborted Handlers.invalidString)

/-- What is told about a run, in order: once about each host call that gives up
or prints, until a handler does not let the run go on. -/
inductive Tells (handlers : Handlers) : Run σ α → List Event → Prop
  | done {result : α} {memory : Memory} {state : σ} :
    Tells handlers (.done result memory state) []
  | trap {memory : Memory} {state : σ} : Tells handlers (.trap memory state) []
  | silent {arity : Nat} {id : Int} {memory : Memory} {state : σ} {rest : Run σ α}
    {later : List Event} : Tells handlers rest later →
    Tells handlers (.call (.builtin arity id) memory state rest) later
  | stops {request : HostCall} {memory : Memory} {state : σ} {rest : Run σ α} {event : Event} :
    Told memory request event → (handlers.answer event).fault.isSome →
    Tells handlers (.call request memory state rest) [event]
  | goesOn {request : HostCall} {memory : Memory} {state : σ} {rest : Run σ α} {event : Event}
    {later : List Event} : Told memory request event → (handlers.answer event).fault = none →
    Tells handlers rest later →
    Tells handlers (.call request memory state rest) (event :: later)

/-- What is told about a host call is what its handler is told. -/
theorem Told.react_eq {memory : Memory} {request : HostCall} {event : Event}
    (addressable : memory.size ≤ 2 ^ 32) (told : Told memory request event)
    (handlers : Handlers) : handlers.react memory request = handlers.answer event := by
  have unread : ∀ {start : Nat}, (∀ text, ¬ memory.Holds start text) →
      memory.textUntilZero start = none := fun nothing =>
    Option.eq_none_iff_forall_ne_some.mpr fun text read =>
      nothing text ((Memory.textUntilZero_eq_some addressable).mp read)
  cases told with
  | aborted holds =>
    have read := (Memory.textUntilZero_eq_some addressable).mpr holds
    rw [Handlers.react, toNat_toUInt32, read]
    rfl
  | printed holds =>
    have read := (Memory.textUntilZero_eq_some addressable).mpr holds
    rw [Handlers.react, toNat_toUInt32, read]
    rfl
  | nothingAborted nothing =>
    rw [Handlers.react, toNat_toUInt32, unread nothing]
    rfl
  | nothingPrinted nothing =>
    rw [Handlers.react, toNat_toUInt32, unread nothing]
    rfl

/-- It is one thing. -/
theorem Told.unique {memory : Memory} {request : HostCall} {event other : Event}
    (addressable : memory.size ≤ 2 ^ 32) (told : Told memory request event)
    (told' : Told memory request other) : event = other := by
  have noted := Handlers.standard.noting_events event {}
  have noted' := Handlers.standard.noting_events other {}
  rw [← told.react_eq addressable] at noted
  rw [← told'.react_eq addressable, noted] at noted'
  exact List.singleton_inj.mp noted'

/-- Something is told about every host call that gives up or prints. -/
theorem exists_told (memory : Memory) (word : UInt32) :
    (∃ event, Told memory (.abort word) event) ∧ ∃ event, Told memory (.print word) event := by
  have bits : word = word.toInt32.toUInt32 := rfl
  rw [bits]
  by_cases holds : ∃ text, memory.Holds (unsigned word.toInt32) text
  · obtain ⟨text, holds⟩ := holds
    exact ⟨⟨_, .aborted holds⟩, ⟨_, .printed holds⟩⟩
  · have nothing := not_exists.mp holds
    exact ⟨⟨_, .nothingAborted nothing⟩, ⟨_, .nothingPrinted nothing⟩⟩

namespace Instance

/-- A run that is followed tells the handlers what is to be told about it, and
nothing else. -/
theorem follow_tells (handlers : Handlers) (run : Run σ α) (guest : Instance σ)
    (notes : guest.handlers = handlers.noting) (sound : guest.memory.Sound)
    (leads : run.LeadsFrom guest.memory) :
    ∃ told, Tells handlers run told ∧
      (follow run guest).2.journal.events = told.reverse ++ guest.journal.events := by
  induction run generalizing guest with
  | done result memory state => exact ⟨[], .done, rfl⟩
  | trap memory state => exact ⟨[], .trap, rfl⟩
  | call request memory state rest inductionHypothesis =>
    obtain ⟨led, leads⟩ := leads
    have sound := led.sound sound
    have later := fun journal =>
      inductionHypothesis { guest with memory, state, journal } notes sound leads
    have spoken : (∃ event, Told memory request event) →
        ∃ told, Tells handlers (.call request memory state rest) told ∧
          (follow (.call request memory state rest) guest).2.journal.events =
            told.reverse ++ guest.journal.events := by
      rintro ⟨event, told⟩
      simp only [follow, notes, told.react_eq sound.size_le, Handlers.noting_fault]
      cases stopped : (handlers.answer event).fault with
      | some fault =>
        refine ⟨[event], .stops told (by rw [stopped]; rfl), ?_⟩
        exact Handlers.noting_events handlers event guest.journal
      | none =>
        obtain ⟨others, tells, events_eq⟩ :=
          later (guest.journal.add (handlers.noting.answer event))
        refine ⟨event :: others, .goesOn told stopped tells, ?_⟩
        simp only [notes] at events_eq
        rw [events_eq, Handlers.noting_events, List.reverse_cons, List.append_assoc]
        rfl
    cases request with
    | abort word => exact spoken (exists_told memory word).1
    | print word => exact spoken (exists_told memory word).2
    | builtin arity id =>
      obtain ⟨others, tells, events_eq⟩ := later _
      exact ⟨others, .silent tells, events_eq⟩

end Instance

/-- Reading up to the next zero gives the bytes in front of the first zero in
memory, and nothing if there is none, wherever it pauses on the way, and gives
text if these bytes are the UTF-8 form of one.  This is the text that a handler
is told when a policy gives up or prints; what cannot be read is told as a
policy that gave up.  Over a run, handlers are told this once for each such
call, and nothing else. -/
theorem texts_delivered (σ α : Type) :
    (∀ memory : Memory, memory.size ≤ 2 ^ 32 → ∀ start, memory.Reads start) ∧
      (∀ (memory : Memory) (handlers : Handlers) (request : HostCall) (event : Event),
        memory.size ≤ 2 ^ 32 → Told memory request event →
          handlers.react memory request = handlers.answer event) ∧
      ∀ (handlers : Handlers) (run : Run σ α) (guest : Instance σ),
        guest.handlers = handlers.noting → guest.memory.Sound → run.LeadsFrom guest.memory →
          ∃ told, Tells handlers run told ∧
            (Instance.follow run guest).2.journal.events =
              told.reverse ++ guest.journal.events := by
  refine ⟨fun memory addressable => Memory.reads addressable, ?_, ?_⟩
  · intro memory handlers request event addressable told
    exact told.react_eq addressable handlers
  · intro handlers run guest notes sound leads
    exact Instance.follow_tells handlers run guest notes sound leads

/-- So many letters and an accented one behind them. -/
def accented (count : Nat) : String := String.ofList (List.replicate count 'x' ++ ['\u00e9'])

theorem encode_accented (count : Nat) :
    Utf8.encode (accented count) = List.replicate count 0x78 ++ [0xC3, 0xA9] := by
  have letter : Utf8.encodeChar 'x' = [0x78] := by decide
  have accent : Utf8.encodeChar '\u00e9' = [0xC3, 0xA9] := by decide
  rw [accented, Utf8.encode, String.toList_ofList, Utf8.encodeChars, List.flatMap_append,
    List.flatMap_replicate, letter, List.flatten_replicate_singleton, List.flatMap_singleton,
    accent]

/-- A guest that has such a text at its address 7. -/
def Instance.accented (count : Nat) : Instance PolicyState :=
  { untouched with
    handlers := Handlers.standard.noting
    memory := untouched.memory.overwrite 7 (Utf8.encode (PolicyHost.accented count) ++ [0]) }

/-- The text is where it was put, and ends there. -/
theorem Instance.accented_stored (count : Nat) (short : count < 100000) :
    (accented count).memory.Sound ∧
      (accented count).memory.EndsAt 7 (7 + (count + 2)) ∧
      (accented count).memory.between 7 (7 + (count + 2)) =
        Utf8.encode (PolicyHost.accented count) := by
  have length_eq : (Utf8.encode (PolicyHost.accented count)).length = count + 2 := by
    rw [encode_accented, List.length_append, List.length_replicate]
    rfl
  have size_eq : untouched.memory.size = 131072 := by decide
  have inside : 7 + (Utf8.encode (PolicyHost.accented count) ++ [0]).length ≤
      untouched.memory.size := by
    rw [List.length_append, length_eq, List.length_singleton, size_eq]
    omega
  have sound : (accented count).memory.Sound :=
    (Memory.leads_overwrite fun _ => inside).sound
      (Memory.fresh_sound Builder.initialPages none (by decide))
  have stored := Memory.bytes_overwrite untouched.memory 7 _ (by decide)
    (Nat.le_trans inside (by rw [size_eq]; decide))
  rw [List.length_append, List.length_singleton] at stored
  have nonzero : 0 ∉ Utf8.encode (PolicyHost.accented count) := by
    rw [encode_accented, List.mem_append, List.mem_replicate]
    rintro (⟨_, letter⟩ | accent)
    · exact absurd letter (by decide)
    · exact absurd accent (by decide)
  have ends := (accented count).memory.endsAt_of_stored ?_ sound.size_le stored nonzero
  · rw [length_eq] at ends
    exact ⟨sound, ends⟩
  · rw [List.length_append] at inside
    exact inside

/-- A text of 4097 bytes is read as a whole and told to the handler, though its
last character has one byte in the first chunk and one in the second.  From that
second byte on there is no text, so that printing it is told as giving up. -/
theorem texts_delivered_accented :
    (Instance.accented 4095).memory.textUntilZero 7 = some (accented 4095) ∧
      Handlers.standard.react (Instance.accented 4095).memory (.print 7) =
        Handlers.printTo .info (accented 4095) ∧
      (Instance.follow (.call (.print 4103) (Instance.accented 4095).memory
          (Instance.accented 4095).state
          (.done () (Instance.accented 4095).memory (Instance.accented 4095).state))
        (Instance.accented 4095)).2.journal.events = [.aborted "invalid string in memory"] := by
  obtain ⟨reads, reacts, tells⟩ := texts_delivered PolicyState Unit
  obtain ⟨sound, ends, between_eq⟩ := Instance.accented_stored 4095 (by decide)
  have holds : (Instance.accented 4095).memory.Holds (unsigned 7) (accented 4095) :=
    ⟨_, ends, (congrArg _ between_eq).trans (Utf8.toByteArray_encode _)⟩
  have torn : ∀ text, ¬ (Instance.accented 4095).memory.Holds (unsigned 4103) text := by
    rw [show unsigned 4103 = 4103 by decide]
    rintro text ⟨stop, ends', same⟩
    cases (ends.later (by decide) (by decide)).unique ends'
    have early : 7 ≤ 4103 := by decide
    have late : 4103 ≤ 7 + (4095 + 2) := by decide
    have split := (Instance.accented 4095).memory.between_append early late
    rw [between_eq, encode_accented, List.append_cons _ 0xC3 [0xA9]] at split
    have last := (List.append_inj' split (by rw [Memory.between_length]; decide)).2
    have decoded := Utf8.decodeText_eq_some.mpr same
    rw [last] at decoded
    exact nomatch decoded
  refine ⟨((reads _ sound.size_le 7).text _).mpr holds, ?_, ?_⟩
  · exact reacts _ Handlers.standard (.print 7) (.printed (accented 4095)) sound.size_le
      (.printed holds)
  · obtain ⟨told, tells, events_eq⟩ := tells Handlers.standard
      (.call (.print 4103) (Instance.accented 4095).memory (Instance.accented 4095).state
        (.done () (Instance.accented 4095).memory (Instance.accented 4095).state))
      (Instance.accented 4095) rfl sound ⟨refl _, refl _⟩
    have only : ∀ event, Told (Instance.accented 4095).memory (.print 4103) event →
        event = .aborted Handlers.invalidString :=
      fun event told => told.unique sound.size_le (.nothingPrinted torn)
    cases tells with
    | stops first _ =>
      cases only _ first
      exact events_eq
    | goesOn first goes _ =>
      cases only _ first
      exact nomatch goes

end PolicyHost
