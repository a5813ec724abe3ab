import PolicyHost.Proofs.Delivery
import PolicyHost.Proofs.Unicode

namespace PolicyHost

/-!
# Archives for any members

Whatever members one asks for, there is an archive that delivers them.  It is
written in the plainest way: each byte is a stored block of its own, each name
is announced by a header before its member's, and numbers are written as bytes.
-/

open Operation

namespace Inflate

/-- The number that bits denote, the lowest first. -/
def ofBits : List Bool → Nat
  | [] => 0
  | b :: bits => (if b then 1 else 0) + 2 * ofBits bits

theorem number_append (bits rest : List Bool) (output : Array UInt8) :
    number bits.length ⟨bits ++ rest, output⟩ = .ok (ofBits bits) ⟨rest, output⟩ := by
  induction bits with
  | nil => rfl
  | cons b bits inductionHypothesis =>
    have first : bit ⟨b :: bits ++ rest, output⟩ = .ok b ⟨bits ++ rest, output⟩ := rfl
    rw [List.length_cons, number, bind_of_ok first]
    cases b <;> exact (bind_of_ok inductionHypothesis).trans rfl

def bitsOfByte (b : UInt8) : List Bool :=
  bitsOf [b]

theorem bitsOf_cons (b : UInt8) (bytes : Bytes) : bitsOf (b :: bytes) = bitsOfByte b ++ bitsOf bytes :=
  by simp [bitsOf, bitsOfByte]

theorem bitsOf_length (bytes : Bytes) : (bitsOf bytes).length = 8 * bytes.length := by
  induction bytes with
  | nil => rfl
  | cons b rest inductionHypothesis =>
    rw [bitsOf_cons, List.length_append, inductionHypothesis, List.length_cons]
    have : (bitsOfByte b).length = 8 := rfl
    omega

theorem ofBits_bitsOfByte (b : UInt8) : ofBits (bitsOfByte b) = b.toNat := by
  have low : ∀ n : Nat, (if (n % 2 == 1) = true then 1 else 0) = n % 2 := by
    intro n
    obtain even | odd := Nat.mod_two_eq_zero_or_one n
    · rw [even]
      rfl
    · rw [odd]
      rfl
  have bound := b.toNat_lt
  simp only [bitsOfByte, bitsOf, List.flatMap_cons, List.flatMap_nil, List.append_nil, ofBits, low]
  omega

theorem number_byte (b : UInt8) (rest : List Bool) (output : Array UInt8) :
    number 8 ⟨bitsOfByte b ++ rest, output⟩ = .ok b.toNat ⟨rest, output⟩ := by
  rw [← ofBits_bitsOfByte]
  exact number_append (bitsOfByte b) rest output

/-- Bytes deflated to stored blocks of one byte and an empty last one. -/
def storedAlone : Bytes → Bytes
  | [] => [0x01, 0x00, 0x00, 0xFF, 0xFF]
  | b :: rest => 0x00 :: 0x01 :: 0x00 :: 0xFE :: 0xFF :: b :: storedAlone rest

/-- What is left of the first byte of a block is passed over, and then its length and the
length inverted are read. -/
theorem stored_run (length inverted : List Bool) (rest : Bytes) (output : Array UInt8)
    (wide : length.length = 16) (wide' : inverted.length = 16)
    (valid : ofBits length + ofBits inverted = 0xFFFF) :
    stored ⟨List.replicate 5 false ++ (length ++ (inverted ++ bitsOf rest)), output⟩ =
      storedBytes (ofBits length) ⟨bitsOf rest, output⟩ := by
  have aligned : (List.replicate 5 false ++ (length ++ (inverted ++ bitsOf rest))).length % 8 =
      (List.replicate 5 false).length := by
    simp only [List.length_append, List.length_replicate, bitsOf_length, wide, wide']
    omega
  have padding := number_append (List.replicate 5 false) (length ++ (inverted ++ bitsOf rest)) output
  have first := number_append length (inverted ++ bitsOf rest) output
  have second := number_append inverted (bitsOf rest) output
  rw [← aligned] at padding
  rw [wide] at first
  rw [wide'] at second
  unfold stored
  refine (bind_of_ok rfl).trans ?_
  rw [bind_of_ok padding, bind_of_ok first, bind_of_ok second, if_pos valid]

theorem stored_one (b : UInt8) (rest : Bytes) (output : Array UInt8) :
    stored ⟨List.replicate 5 false ++
      bitsOf (0x01 :: 0x00 :: 0xFE :: 0xFF :: b :: rest), output⟩ =
      .ok () ⟨bitsOf rest, output.push b⟩ := by
  have header := stored_run (bitsOf [0x01, 0x00]) (bitsOf [0xFE, 0xFF]) (b :: rest) output
    rfl rfl rfl
  refine header.trans ?_
  change storedBytes 1 _ = _
  rw [bitsOf_cons, storedBytes, bind_of_ok (number_byte b (bitsOf rest) output)]
  have same : b.toNat.toUInt8 = b := UInt8.ofNat_toNat
  rw [same]
  rfl

theorem stored_none (output : Array UInt8) :
    stored ⟨List.replicate 5 false ++ bitsOf [0x00, 0x00, 0xFF, 0xFF], output⟩ =
      .ok () ⟨[], output⟩ :=
  stored_run (bitsOf [0x00, 0x00]) (bitsOf [0xFF, 0xFF]) [] output rfl rfl rfl

theorem blocks_storedAlone (bytes : Bytes) (budget : Nat) (enough : bytes.length < budget)
    (output : Array UInt8) :
    blocks budget ⟨bitsOf (storedAlone bytes), output⟩ = .ok () ⟨[], output ++ bytes.toArray⟩ := by
  induction bytes generalizing budget output with
  | nil =>
    obtain ⟨more, rfl⟩ := Nat.exists_eq_add_one_of_ne_zero (Nat.ne_zero_of_lt enough)
    rw [blocks]
    refine (bind_of_ok (show bit _ = .ok true ⟨_, output⟩ from rfl)).trans ?_
    refine (bind_of_ok (number_append [false, false] _ output)).trans ?_
    refine (bind_of_ok (stored_none output)).trans ?_
    rw [Array.append_empty]
    rfl
  | cons b rest inductionHypothesis =>
    obtain ⟨more, rfl⟩ := Nat.exists_eq_add_one_of_ne_zero (Nat.ne_zero_of_lt enough)
    rw [blocks]
    refine (bind_of_ok (show bit _ = .ok false ⟨_, output⟩ from rfl)).trans ?_
    refine (bind_of_ok (number_append [false, false] _ output)).trans ?_
    refine (bind_of_ok (stored_one b (storedAlone rest) output)).trans ?_
    refine (inductionHypothesis more (Nat.lt_of_succ_lt_succ enough) (output.push b)).trans ?_
    simp

theorem inflate_storedAlone (bytes : Bytes) :
    inflate (storedAlone bytes) = (bytes.toArray, .finished) := by
  have enough : bytes.length < (bitsOf (storedAlone bytes)).length + 1 := by
    have longer : bytes.length ≤ (storedAlone bytes).length := by
      induction bytes with
      | nil => exact Nat.zero_le _
      | cons b rest inductionHypothesis =>
        simp only [storedAlone, List.length_cons]
        omega
    rw [bitsOf_length]
    omega
  have ran := blocks_storedAlone bytes _ enough #[]
  unfold inflate
  dsimp only
  rw [EStateM.run, ran]
  simp

end Inflate

namespace Gzip

def wrapped (data : Bytes) : Bytes :=
  0x1F :: 0x8B :: 0x08 :: 0x00 :: (List.replicate 6 0x00 ++ Inflate.storedAlone data)

theorem tapeOf_wrapped (data : Bytes) : tapeOf (wrapped data) = .ok { rest := data } := by
  have header : afterHeader (wrapped data) = .ok (Inflate.storedAlone data) := rfl
  unfold tapeOf unpack
  rw [header]
  dsimp only
  rw [Inflate.inflate_storedAlone]

end Gzip

namespace Tar

/-! ## Headers -/

/-- A number in some bytes, the highest first. -/
def bigEndian : Nat → Nat → Bytes
  | 0, _ => []
  | count + 1, n => bigEndian count (n / 256) ++ [(n % 256).toUInt8]

theorem bigEndian_length (count n : Nat) : (bigEndian count n).length = count := by
  induction count generalizing n with
  | zero => rfl
  | succ count inductionHypothesis =>
    rw [bigEndian, List.length_append, inductionHypothesis, List.length_singleton]

theorem ofBytes_bigEndian (count n : Nat) (small : n < 256 ^ count) :
    ofBytes (bigEndian count n) = n := by
  induction count generalizing n with
  | zero =>
    obtain rfl : n = 0 := by simpa using small
    rfl
  | succ count inductionHypothesis =>
    have fits : n / 256 < 256 ^ count := by
      rw [Nat.div_lt_iff_lt_mul (by decide), ← Nat.pow_succ]
      exact small
    have digit : (n % 256).toUInt8.toNat = n % 256 :=
      Utf8.toNat_toUInt8 (Nat.mod_lt _ (by decide))
    have high := inductionHypothesis (n / 256) fits
    unfold ofBytes at high ⊢
    rw [bigEndian, List.foldl_append, high, List.foldl_cons, List.foldl_nil, digit]
    omega

def numberField (width n : Nat) : Bytes :=
  0x80 :: bigEndian width n

theorem number?_numberField (width n : Nat) (small : n < 256 ^ width) :
    number? (numberField width n) = some (n : Int) := by
  rw [numberField, number?, ofBytes_bigEndian width n small]

/-- The part of a header before its check sum. -/
def headStart (size : Nat) : Bytes :=
  List.replicate 124 0 ++ numberField 11 size ++ List.replicate 12 0

/-- The part of a header after its check sum. -/
def headEnd (type : UInt8) : Bytes :=
  type :: List.replicate 355 0

def checkSum (type : UInt8) (size : Nat) : Nat :=
  (headStart size ++ List.replicate 8 0x20 ++ headEnd type).foldl (fun n (b : UInt8) => n + b.toNat) 0

/-- A header without a name. -/
def headerBlock (type : UInt8) (size : Nat) : Bytes :=
  headStart size ++ numberField 7 (checkSum type size) ++ headEnd type

theorem headStart_length (size : Nat) : (headStart size).length = checkStart := by
  simp only [headStart, numberField, List.length_append, List.length_replicate, List.length_cons,
    bigEndian_length, checkStart]

theorem headerBlock_length (type : UInt8) (size : Nat) :
    (headerBlock type size).length = blockSize := by
  simp only [headerBlock, headStart_length, numberField, headEnd, List.length_append,
    List.length_replicate, List.length_cons, bigEndian_length, checkStart, blockSize]

theorem part_append (before field after : Bytes) (start stop : Nat)
    (begins : before.length = start) (ends : start + field.length = stop) :
    part (before ++ field ++ after) start stop = field := by
  subst begins ends
  unfold part
  rw [List.append_assoc, List.drop_left, Nat.add_sub_cancel_left, List.take_left]

theorem part_empty (before after : Bytes) (size skipped width : Nat)
    (inside : skipped + width ≤ size) :
    part (before ++ List.replicate size 0 ++ after) (before.length + skipped)
      (before.length + skipped + width) = List.replicate width 0 := by
  obtain ⟨more, rfl⟩ := Nat.exists_eq_add_of_le inside
  have split : before ++ List.replicate (skipped + width + more) 0 ++ after =
      (before ++ List.replicate skipped 0) ++ List.replicate width 0 ++
        (List.replicate more 0 ++ after) := by
    simp only [List.append_assoc, ← List.replicate_append_replicate]
  rw [split]
  apply part_append
  · rw [List.length_append, List.length_replicate]
  · rw [List.length_replicate]

theorem part_checkSum (type : UInt8) (size : Nat) :
    part (headerBlock type size) checkStart checkStop = numberField 7 (checkSum type size) :=
  part_append _ _ _ _ _ (headStart_length size) (by
    rw [numberField, List.length_cons, bigEndian_length]
    rfl)

theorem checked_headerBlock (type : UInt8) (size : Nat) :
    checked (headerBlock type size) =
      headStart size ++ List.replicate 8 0x20 ++ headEnd type := by
  have start := headStart_length size
  have stop : (headStart size ++ numberField 7 (checkSum type size)).length = checkStop := by
    rw [List.length_append, start, numberField, List.length_cons, bigEndian_length]
    rfl
  unfold checked headerBlock
  rw [← stop, List.drop_left, stop, List.append_assoc (headStart size), ← start, List.take_left, start]
  rfl

theorem checkSum_small (type : UInt8) (size : Nat) : checkSum type size < 256 ^ 7 := by
  have bounded : ∀ (bytes : Bytes) (n : Nat),
      bytes.foldl (fun n (b : UInt8) => n + b.toNat) n ≤ n + 255 * bytes.length := by
    intro bytes
    induction bytes with
    | nil => exact fun n => Nat.le_refl _
    | cons b rest inductionHypothesis =>
      intro n
      have one := inductionHypothesis (n + b.toNat)
      have two := b.toNat_lt
      rw [List.foldl_cons, List.length_cons]
      omega
  have all := bounded (headStart size ++ List.replicate 8 0x20 ++ headEnd type) 0
  rw [List.length_append, List.length_append, headStart_length, List.length_replicate, headEnd,
    List.length_cons, List.length_replicate] at all
  unfold checkSum checkStart at *
  unfold headEnd
  omega

section Parts

variable (type : UInt8) (size : Nat)

theorem part_front (start width : Nat) (inside : start + width ≤ 124) :
    part (headerBlock type size) start (start + width) = List.replicate width 0 := by
  have split : headerBlock type size = [] ++ List.replicate 124 0 ++
      (numberField 11 size ++ (List.replicate 12 0 ++
        (numberField 7 (checkSum type size) ++ headEnd type))) := by
    simp only [headerBlock, headStart, List.append_assoc, List.nil_append]
  have empty := part_empty [] (numberField 11 size ++ (List.replicate 12 0 ++
    (numberField 7 (checkSum type size) ++ headEnd type))) 124 start width inside
  rwa [← split, List.length_nil, Nat.zero_add] at empty

theorem part_middle : part (headerBlock type size) 136 148 = List.replicate 12 0 := by
  have split : headerBlock type size = (List.replicate 124 0 ++ numberField 11 size) ++
      List.replicate 12 0 ++ (numberField 7 (checkSum type size) ++ headEnd type) := by
    simp only [headerBlock, headStart, List.append_assoc]
  rw [split]
  apply part_append
  · rw [List.length_append, List.length_replicate, numberField, List.length_cons, bigEndian_length]
  · rw [List.length_replicate]

theorem part_back (skipped width : Nat) (inside : skipped + width ≤ 355) :
    part (headerBlock type size) (157 + skipped) (157 + skipped + width) =
      List.replicate width 0 := by
  have split : headerBlock type size =
      (headStart size ++ numberField 7 (checkSum type size) ++ [type]) ++
        List.replicate 355 0 ++ [] := by
    simp only [headerBlock, headEnd, List.append_assoc, List.singleton_append, List.append_nil]
  have before : (headStart size ++ numberField 7 (checkSum type size) ++ [type]).length = 157 := by
    rw [List.length_append, List.length_append, headStart_length, numberField, List.length_cons,
      bigEndian_length]
    rfl
  rw [split, ← before]
  exact part_empty _ [] 355 skipped width inside

theorem part_size : part (headerBlock type size) 124 136 = numberField 11 size := by
  have split : headerBlock type size = List.replicate 124 0 ++ numberField 11 size ++
      (List.replicate 12 0 ++ (numberField 7 (checkSum type size) ++ headEnd type)) := by
    simp only [headerBlock, headStart, List.append_assoc]
  rw [split]
  apply part_append
  · rw [List.length_replicate]
  · rw [numberField, List.length_cons, bigEndian_length]

theorem type_headerBlock : (headerBlock type size).getD 156 0 = type := by
  have before : (headStart size ++ numberField 7 (checkSum type size)).length = 156 := by
    rw [List.length_append, headStart_length, numberField, List.length_cons, bigEndian_length]
    rfl
  rw [headerBlock, headEnd, List.getD_eq_getElem?_getD,
    List.getElem?_append_right (Nat.le_of_eq before), before]
  rfl

theorem isCheck_headerBlock :
    isCheck (headerBlock type size) (checkSum type size : Nat) = true := by
  unfold isCheck
  rw [checked_headerBlock]
  exact Bool.or_eq_true_iff.mpr (Or.inl (beq_self_eq_true _))

end Parts

theorem member?_headerBlock (type : UInt8) (size : Nat) (small : size < 256 ^ 11) :
    member? (headerBlock type size) = some { name := [], kind := kindOf type [], size := size } := by
  have sum := number?_numberField 7 _ (checkSum_small type size)
  rw [← part_checkSum] at sum
  have sized := number?_numberField 11 size small
  rw [← part_size type size] at sized
  have numbers : (numberFields.all fun f =>
      (number? (part (headerBlock type size) f.1 f.2)).isSome) = true := by
    have eight : (number? (List.replicate 8 0)).isSome = true := rfl
    have twelve : (number? (List.replicate 12 0)).isSome = true := rfl
    simp only [numberFields, List.all_cons, List.all_nil, part_front type size 100 8 (by decide),
      part_front type size 108 8 (by decide), part_front type size 116 8 (by decide), sized,
      part_middle, part_back type size 172 8 (by decide), part_back type size 180 8 (by decide),
      eight, twelve, Option.isSome_some, Bool.and_self]
  have unnamed : text (part (headerBlock type size) 0 100) = [] := by
    rw [part_front type size 0 100 (by decide)]
    rfl
  have rootless : text (part (headerBlock type size) 345 500) = [] := by
    rw [part_back type size 188 155 (by decide)]
    rfl
  unfold member?
  rw [sum, sized]
  dsimp only
  rw [isCheck_headerBlock, numbers, type_headerBlock, unnamed, rootless]
  rfl

/-! ## Members -/

def filling (data : Bytes) : Bytes :=
  List.replicate ((blockSize - data.length % blockSize) % blockSize) 0

theorem inBlocks_length (data : Bytes) :
    inBlocks (data.length : Int) = ((data ++ filling data).length : Nat) := by
  simp only [inBlocks, filling, List.length_append, List.length_replicate, blockSize]
  omega

/-- A reader with some data ahead of it and a place for the next header. -/
def readerAt (rest : Bytes) (position : Nat) (next : Int) : Reader :=
  { tape := { rest, position }, next }

theorem take_readerAt (data rest : Bytes) (position : Nat) (next : Int) :
    take data.length (readerAt (data ++ rest) position next) =
      .ok data (readerAt rest (position + data.length) next) := by
  simp [take, readerAt]

theorem header_readerAt (type : UInt8) (size : Nat) (small : size < 256 ^ 11) (rest : Bytes)
    (position : Nat) (next : Int) :
    header (readerAt (headerBlock type size ++ rest) position next) =
      .ok { name := [], kind := kindOf type [], size := size, start := position + blockSize }
        (readerAt rest (position + blockSize) next) := by
  have taken := take_readerAt (headerBlock type size) rest position next
  rw [headerBlock_length] at taken
  have marked : (headerBlock type size).all (· == 0) = false := by
    rw [List.all_eq_false]
    refine ⟨0x80, ?_, by decide⟩
    simp [headerBlock, numberField]
  unfold header
  rw [bind_of_ok taken]
  dsimp only
  rw [if_neg (by rw [headerBlock_length]; exact Nat.lt_irrefl _), marked,
    member?_headerBlock type size small]
  rfl

theorem takeBlocks_readerAt (data rest : Bytes) (position : Nat) (next : Int) :
    takeBlocks data.length (readerAt (data ++ filling data ++ rest) position next) =
      .ok (data ++ filling data)
        (readerAt rest (position + (data ++ filling data).length) next) := by
  unfold takeBlocks
  rw [inBlocks_length, if_neg (by omega), Int.toNat_natCast]
  exact take_readerAt _ _ _ _

/-- Going forward to the next header passes over what is left of a member. -/
theorem goOn_readerAt (gap rest : Bytes) (position : Nat) :
    goOn (readerAt (gap ++ rest) position (position + gap.length : Nat)) =
      .ok true (readerAt rest (position + gap.length) (position + gap.length : Nat)) := by
  unfold goOn
  refine (bind_of_ok rfl).trans ?_
  have ahead : (readerAt (gap ++ rest) position (position + gap.length : Nat)).next -
      (readerAt (gap ++ rest) position (position + gap.length : Nat)).tape.position =
      (gap.length : Nat) := by
    simp only [readerAt]
    omega
  obtain rfl | ⟨front, last, rfl⟩ := List.eq_nil_or_concat gap
  · rw [ahead]
    rfl
  · rw [List.concat_eq_append] at ahead ⊢
    have before := take_readerAt front ([last] ++ rest) position
      (position + (front ++ [last]).length : Nat)
    have one := take_readerAt [last] rest (position + front.length)
      (position + (front ++ [last]).length : Nat)
    have length : (front ++ [last]).length = front.length + 1 := List.length_append
    have fewer : ((front ++ [last]).length : Int).toNat - 1 = front.length := by omega
    rw [← List.append_assoc] at before
    rw [ahead, if_neg (by omega), if_neg (by simp only [readerAt]; omega), if_neg (by omega), fewer]
    refine (bind_of_ok before).trans ?_
    refine (bind_of_ok one).trans ?_
    rw [length]
    rfl

theorem text_filling (name : Bytes) (plain : (0 : UInt8) ∉ name) : text (name ++ filling name) = name := by
  have all : ∀ b ∈ name, (b != 0) = true := by
    intro b member
    simp only [bne_iff_ne]
    rintro rfl
    exact plain member
  unfold text
  rw [List.takeWhile_append_of_pos all]
  unfold filling
  cases (blockSize - name.length % blockSize) % blockSize with
  | zero => simp
  | succ n => simp [List.replicate_succ]

def named (name : Bytes) (type : UInt8) (size : Nat) : Bytes :=
  headerBlock 0x4C name.length ++ (name ++ filling name ++ headerBlock type size)

/-- Where the header is that comes after a member whose data begins somewhere. -/
def nextAfter (kind : Kind) (size start : Nat) : Int :=
  start + if kind = .empty then 0 else inBlocks size

/-- A header without a name before it describes a member without a name. -/
theorem member_unnamed (type : UInt8) (size : Nat) (small : size < 256 ^ 11)
    (direct : kindOf type [] = .regular ∨ kindOf type [] = .empty) (budget : Nat) (rest : Bytes)
    (position : Nat) (next : Int) :
    member (budget + 1) (readerAt (headerBlock type size ++ rest) position next) =
      .ok { name := [], kind := kindOf type [], size := size, start := position + blockSize }
        (readerAt rest (position + blockSize)
          (nextAfter (kindOf type []) size (position + blockSize))) := by
  unfold member
  refine (bind_of_ok (header_readerAt type size small rest position next)).trans ?_
  obtain kind | kind := direct <;> rw [kind] <;> rfl

theorem member_named (name : Bytes) (plain : (0 : UInt8) ∉ name) (type : UInt8) (size : Nat)
    (short : name.length < 256 ^ 11) (small : size < 256 ^ 11)
    (direct : kindOf type [] = .regular ∨ kindOf type [] = .empty) (budget : Nat) (rest : Bytes)
    (position : Nat) (next : Int) :
    member (budget + 2) (readerAt (named name type size ++ rest) position next) =
      .ok { name, kind := kindOf type [], size, start := position + (named name type size).length }
        (readerAt rest (position + (named name type size).length)
          (nextAfter (kindOf type []) size (position + (named name type size).length))) := by
  have length : position + (named name type size).length =
      position + blockSize + (name ++ filling name).length + blockSize := by
    simp only [named, List.length_append, headerBlock_length]
    omega
  have split : named name type size ++ rest = headerBlock 0x4C name.length ++
      (name ++ filling name ++ (headerBlock type size ++ rest)) := by
    simp only [named, List.append_assoc]
  rw [length, split]
  unfold member
  refine (bind_of_ok (header_readerAt 0x4C name.length short _ position next)).trans ?_
  refine (bind_of_ok (takeBlocks_readerAt name _ _ next)).trans ?_
  refine (bind_of_ok (caught_of_ok (member_unnamed type size small direct budget rest _ next))).trans
    ?_
  rw [text_filling name plain]
  rfl

theorem next_of_member {reader ahead after : Reader} {found : Member}
    (gone : goOn reader = .ok true ahead)
    (described : member (ahead.tape.rest.length / blockSize + 1) ahead = .ok found after) :
    next reader = .ok (some found) after := by
  unfold next
  refine (bind_of_ok gone).trans ?_
  refine (bind_of_ok (show (get : Reading Reader) ahead = .ok ahead ahead from rfl)).trans ?_
  apply caught_of_ok
  rw [map_eq_pure_bind]
  exact (bind_of_ok described).trans rfl

/-- What is next depends on a reader only by where going on leads. -/
theorem next_congr {first second : Reader} (same : goOn first = goOn second) :
    next first = next second := by
  unfold next
  change EStateM.bind goOn _ first = EStateM.bind goOn _ second
  unfold EStateM.bind
  rw [same]

/-- A block of zeros ends an archive. -/
theorem next_over (gap : Bytes) (position : Nat) :
    ∃ last, next (readerAt (gap ++ List.replicate blockSize 0) position
      (position + gap.length : Nat)) = .ok none last := by
  have gone := goOn_readerAt gap (List.replicate blockSize 0) position
  have taken := take_readerAt (List.replicate blockSize 0) [] (position + gap.length)
    (position + gap.length : Nat)
  rw [List.length_replicate, List.append_nil] at taken
  have zeros : header (readerAt (List.replicate blockSize 0) (position + gap.length)
      (position + gap.length : Nat)) =
        .error .endMark (readerAt [] (position + gap.length + blockSize)
          (position + gap.length : Nat)) := by
    unfold header
    refine (bind_of_ok taken).trans ?_
    rw [List.length_replicate, if_neg (Nat.lt_irrefl _), List.all_replicate]
    rfl
  have unmade : ∀ budget, (some <$> member (budget + 1))
      (readerAt (List.replicate blockSize 0) (position + gap.length) (position + gap.length : Nat)) =
        .error .endMark (readerAt [] (position + gap.length + blockSize)
          (position + gap.length : Nat)) := by
    intro budget
    rw [map_eq_pure_bind]
    exact bind_of_error (bind_of_error zeros)
  refine ⟨readerAt [] (position + gap.length + blockSize) (position + gap.length : Nat), ?_⟩
  unfold next
  refine (bind_of_ok gone).trans ?_
  refine (bind_of_ok (show (get : Reading Reader) _ = .ok _ _ from rfl)).trans ?_
  exact (caught_of_error (unmade _)).trans rfl

end Tar

namespace Utf8

/-- Of text nothing is escaped. -/
theorem decodeEscapedFrom_of_decodeFrom (state : Option Pending) (held : Bytes) (read out : List Char)
    (bytes : Bytes) (fresh : state = none → held = [])
    (decoded : decodeFrom state read bytes = some out) :
    decodeEscapedFrom state held (read.map Char.toNat) bytes = out.map Char.toNat := by
  induction bytes generalizing state held read with
  | nil =>
    cases state with
    | none =>
      cases decoded
      rw [fresh rfl, List.map_reverse]
      rfl
    | some pending => cases decoded
  | cons b rest inductionHypothesis =>
    rw [decodeFrom_cons] at decoded
    cases reaction : react state b with
    | scalar c =>
      rw [reaction] at decoded
      rw [decodeEscapedFrom, reaction]
      exact inductionHypothesis none [] (c :: read) (fun _ => rfl) decoded
    | more pending =>
      rw [reaction] at decoded
      rw [decodeEscapedFrom, reaction]
      exact inductionHypothesis (some pending) (b :: held) read nofun decoded
    | malformed =>
      rw [reaction] at decoded
      cases decoded

theorem decodeEscaped_encode (text : String) :
    decodeEscaped (encode text) = text.toList.map Char.toNat :=
  decodeEscapedFrom_of_decodeFrom none [] [] text.toList (encode text) (fun _ => rfl)
    (decode_encode text)

theorem toUInt8_ne_zero {n : Nat} (small : n < 256) (positive : 0 < n) : (0 : UInt8) ≠ n.toUInt8 := by
  intro same
  have := congrArg UInt8.toNat same
  rw [toNat_toUInt8 small, UInt8.toNat_zero] at this
  omega

/-- Only the zero character has a zero byte. -/
theorem zero_not_mem_encodeChar (c : Char) (other : c ≠ '\x00') : (0 : UInt8) ∉ encodeChar c := by
  have positive : 0 < c.toNat := by
    apply Nat.pos_of_ne_zero
    intro same
    apply other
    rw [← Char.ofNat_toNat c, same]
  have valid : c.toNat < 0xD800 ∨ 0xDFFF < c.toNat ∧ c.toNat < 0x110000 := c.valid
  unfold encodeChar
  dsimp only
  split_ifs <;> simp only [List.mem_cons, List.not_mem_nil, or_false, not_or]
  · exact toUInt8_ne_zero (by omega) positive
  · exact ⟨toUInt8_ne_zero (by omega) (by omega), toUInt8_ne_zero (by omega) (by omega)⟩
  · exact ⟨toUInt8_ne_zero (by omega) (by omega), toUInt8_ne_zero (by omega) (by omega),
      toUInt8_ne_zero (by omega) (by omega)⟩
  · exact ⟨toUInt8_ne_zero (by omega) (by omega), toUInt8_ne_zero (by omega) (by omega),
      toUInt8_ne_zero (by omega) (by omega), toUInt8_ne_zero (by omega) (by omega)⟩

theorem zero_not_mem_encode (text : String) (plain : '\x00' ∉ text.toList) :
    (0 : UInt8) ∉ encode text := by
  unfold encode encodeChars
  rw [List.mem_flatMap]
  rintro ⟨c, member, zero⟩
  exact zero_not_mem_encodeChar c (fun same => plain (same ▸ member)) zero

end Utf8

namespace HostText

theorem isHalf_toNat (c : Char) : isHalf c.toNat = false := by
  have valid : c.toNat < 0xD800 ∨ 0xDFFF < c.toNat ∧ c.toNat < 0x110000 := c.valid
  simp only [isHalf, Bool.and_eq_false_iff, decide_eq_false_iff_not]
  omega

theorem ofPoints_toNat (text : String) : ofPoints (text.toList.map Char.toNat) = .whole text := by
  have none : ¬ (text.toList.map Char.toNat).any isHalf = true := by
    simp [isHalf_toNat]
  have same : (text.toList.map Char.toNat).map Char.ofNat = text.toList := by
    simp [Function.comp_def, Char.ofNat_toNat]
  rw [ofPoints, dif_neg none, same, String.ofList_toList]

end HostText

namespace Bundle

def packed (item : Item) : Bytes :=
  let name := item.name.utf8?.getD []
  if item.regular then
    Tar.named name 0x30 item.content.length ++ (item.content ++ Tar.filling item.content)
  else Tar.named name 0x35 0

def archiveOf (items : List Item) : Bytes :=
  Gzip.wrapped (items.flatMap packed ++ List.replicate Tar.blockSize 0)

/-- An item that fits in an archive: its name is a text without zero characters and not too
long, and neither is its content. -/
structure Item.Fits (item : Item) : Prop where
  whole : item.name.isBroken = false
  plain : 0 ∉ item.name.points
  short : (item.name.utf8?.getD []).length < 256 ^ 11
  small : item.content.length < 256 ^ 11

section Steps

variable {name : String} {content : Bytes} {items : List Item}

/-- The header of a member with its name before it is what is next. -/
theorem next_named (plain : '\x00' ∉ name.toList) (short : (Utf8.encode name).length < 256 ^ 11)
    (type : UInt8) (size : Nat) (small : size < 256 ^ 11)
    (direct : Tar.kindOf type [] = .regular ∨ Tar.kindOf type [] = .empty) (gap others : Bytes)
    (position : Nat) :
    Tar.next (Tar.readerAt (gap ++ (Tar.named (Utf8.encode name) type size ++ others)) position
      (position + gap.length : Nat)) =
      let start := position + gap.length + (Tar.named (Utf8.encode name) type size).length
      .ok (some { name := Utf8.encode name, kind := Tar.kindOf type [], size, start })
        (Tar.readerAt others start (Tar.nextAfter (Tar.kindOf type []) size start)) := by
  apply Tar.next_of_member (Tar.goOn_readerAt gap _ position)
  have block : 1 ≤ (Tar.named (Utf8.encode name) type size ++ others).length / Tar.blockSize := by
    rw [Nat.le_div_iff_mul_le (by decide), Tar.named, List.length_append, List.length_append,
      Tar.headerBlock_length]
    omega
  obtain ⟨budget, enough⟩ := Nat.exists_eq_add_of_le' block
  change Tar.member ((Tar.named (Utf8.encode name) type size ++ others).length / Tar.blockSize + 1)
    _ = _
  rw [enough]
  exact Tar.member_named _ (Utf8.zero_not_mem_encode name plain) type size short small direct budget
    others _ _

theorem delivers_other (plain : '\x00' ∉ name.toList)
    (short : (Utf8.encode name).length < 256 ^ 11) (gap others : Bytes) (position : Nat)
    (after : ∀ position, Delivers (Tar.readerAt others position position) items) :
    Delivers (Tar.readerAt (gap ++ (packed ⟨.whole name, false, content⟩ ++ others)) position
      (position + gap.length : Nat)) (⟨.whole name, false, content⟩ :: items) := by
  have found := next_named plain short 0x35 0 (by decide) (Or.inr rfl) gap others position
  have special : Tar.kindOf 0x35 [] ≠ .regular := by decide
  have delivers : Delivers _ (⟨nameText _, false, content⟩ :: items) :=
    .passed found (Or.inl special) (after _)
  rwa [nameText, Utf8.decodeEscaped_encode, HostText.ofPoints_toNat] at delivers

theorem delivers_file (plain : '\x00' ∉ name.toList)
    (short : (Utf8.encode name).length < 256 ^ 11) (small : content.length < 256 ^ 11) (gap others : Bytes) (position : Nat)
    (after : ∀ position, Delivers (Tar.readerAt (Tar.filling content ++ others) position
      (position + (Tar.filling content).length : Nat)) items) :
    Delivers (Tar.readerAt (gap ++ (packed ⟨.whole name, true, content⟩ ++ others)) position
      (position + gap.length : Nat)) (⟨.whole name, true, content⟩ :: items) := by
  have found := next_named plain short 0x30 content.length small (Or.inl rfl) gap
    (content ++ Tar.filling content ++ others) position
  generalize position + gap.length + (Tar.named (Utf8.encode name) 0x30 content.length).length =
    start at found
  have filled : Tar.nextAfter (Tar.kindOf 0x30 []) content.length start =
      (start + (content ++ Tar.filling content).length : Nat) := by
    change (start : Int) + Tar.inBlocks content.length = _
    rw [Tar.inBlocks_length, Int.natCast_add]
  have length : start + (content ++ Tar.filling content).length =
      start + content.length + (Tar.filling content).length := by
    rw [List.length_append, Nat.add_assoc]
  have held : Tar.content
      { name := Utf8.encode name, kind := Tar.kindOf 0x30 [], size := content.length, start }
      (Tar.readerAt (content ++ Tar.filling content ++ others) start
        (Tar.nextAfter (Tar.kindOf 0x30 []) content.length start)) =
      .ok content (Tar.readerAt (Tar.filling content ++ others) (start + content.length)
        (start + content.length + (Tar.filling content).length : Nat)) := by
    have taken := Tar.take_readerAt content (Tar.filling content ++ others) start
      (start + content.length + (Tar.filling content).length : Nat)
    have there : (content.isEmpty && (content.length != 0)) = false := by
      cases content <;> rfl
    rw [filled, length, List.append_assoc]
    refine (bind_of_ok taken).trans ?_
    exact congrFun (if_neg (Bool.eq_false_iff.mp there)) _
  have skipped : Tar.next (Tar.readerAt (content ++ Tar.filling content ++ others) start
      (Tar.nextAfter (Tar.kindOf 0x30 []) content.length start)) =
      Tar.next (Tar.readerAt (Tar.filling content ++ others) (start + content.length)
        (start + content.length + (Tar.filling content).length : Nat)) := by
    apply Tar.next_congr
    rw [filled, Tar.goOn_readerAt, Tar.goOn_readerAt, length]
  have delivers := Delivers.readable found rfl held skipped (after _)
  rw [nameText, Utf8.decodeEscaped_encode, HostText.ofPoints_toNat] at delivers
  have split : packed ⟨.whole name, true, content⟩ ++ others =
      Tar.named (Utf8.encode name) 0x30 content.length ++
        (content ++ Tar.filling content ++ others) :=
    List.append_assoc _ _ _
  rwa [split]

end Steps

theorem delivers_packed (items : List Item) (fit : ∀ item ∈ items, item.Fits) (gap : Bytes)
    (position : Nat) :
    Delivers (Tar.readerAt (gap ++ (items.flatMap packed ++ List.replicate Tar.blockSize 0))
      position (position + gap.length : Nat)) items := by
  induction items generalizing gap position with
  | nil =>
    obtain ⟨last, ended⟩ := Tar.next_over gap position
    exact .finished ended
  | cons item rest inductionHypothesis =>
    obtain ⟨fits, others⟩ := List.forall_mem_cons.mp fit
    obtain ⟨whole, plain, short, small⟩ := fits
    obtain ⟨⟨name⟩ | _, regular, content⟩ := item
    swap
    · cases whole
    replace plain : '\x00' ∉ name.toList := fun zero => plain (List.mem_map_of_mem zero)
    rw [List.flatMap_cons, List.append_assoc]
    cases regular with
    | false =>
      exact delivers_other plain short gap _ position
        fun position => inductionHypothesis others [] position
    | true =>
      exact delivers_file plain short small gap _ position
        fun position => inductionHypothesis others (Tar.filling content) position

theorem archives_archiveOf (items : List Item) (fit : ∀ item ∈ items, item.Fits) :
    Archives (archiveOf items) items :=
  ⟨_, Gzip.tapeOf_wrapped _, delivers_packed items fit [] 0⟩

end Bundle

end PolicyHost
