import FirmwareCapsule.Proofs.Envelope.Length
import Mathlib.Data.Nat.Bitwise

namespace FirmwareCapsule

/-! Envelopes that are written again. What is written is read back. What is read
need not be written back: reading passes over the reserved flag bits and over the
padding of the header, and it accepts a reset without persistence, which writing
refuses. -/

/-! ## Flag words taken apart -/

namespace Flag

def place : Flag → Nat
  | oem => 0
  | persistAcrossReset => 16
  | populateSystemTable => 17
  | initiateReset => 18

variable {flag : Flag}

theorem toNat_mask (other : flag ≠ .oem) : flag.mask.toNat = 2 ^ flag.place := by
  cases flag with
  | oem => contradiction
  | _ => rfl

theorem toNat_and_mask (word : UInt32) (other : flag ≠ .oem) :
    (word &&& flag.mask).toNat = (word.toNat.testBit flag.place).toNat * 2 ^ flag.place := by
  rw [UInt32.toNat_and, toNat_mask other, Nat.and_two_pow]

end Flag

namespace Flags

variable {flag : Flag}

theorem contains_eq_testBit (flags : Flags) (other : flag ≠ .oem) :
    flags.contains flag = flags.bits.toNat.testBit flag.place := by
  have positive : 0 < 2 ^ flag.place := Nat.two_pow_pos flag.place
  rw [contains, Bool.eq_iff_iff, decide_eq_true_eq, ← UInt32.toNat_inj,
    Flag.toNat_and_mask flags.bits other, Flag.toNat_mask other]
  cases flags.bits.toNat.testBit flag.place with
  | false => simp [Nat.ne_of_lt positive]
  | true => simp

theorem choose_contains (flags : Flags) (other : flag ≠ .oem) :
    choose flag (flags.contains flag) = flags.bits &&& flag.mask := by
  apply UInt32.toNat_inj.mp
  rw [contains_eq_testBit flags other, Flag.toNat_and_mask flags.bits other]
  cases flags.bits.toNat.testBit flag.place with
  | false => simp [choose]
  | true => simp [choose, Flag.toNat_mask other]

theorem toUInt32_oemBits (flags : Flags) :
    flags.oemBits.toUInt32 = flags.bits &&& Flag.oem.mask := by
  apply UInt32.toNat_inj.mp
  have small : (flags.bits &&& Flag.oem.mask).toNat < 2 ^ 16 := by
    rw [UInt32.toNat_and]
    exact Nat.lt_of_le_of_lt Nat.and_le_right (by decide)
  rw [oemBits, UInt16.toNat_toUInt32, UInt32.toNat_toUInt16, Nat.mod_eq_of_lt small]

theorem compose_parts (flags : Flags) :
    compose flags.oemBits (flags.contains .persistAcrossReset)
      (flags.contains .populateSystemTable) (flags.contains .initiateReset) = flags.truncate := by
  rw [compose, truncate, toUInt32_oemBits, choose_contains flags (by decide),
    choose_contains flags (by decide), choose_contains flags (by decide)]
  congr 1
  apply UInt32.toBitVec_inj.mp
  simp only [UInt32.toBitVec_or, UInt32.toBitVec_and, ← BitVec.and_or_distrib_left]
  rfl

theorem toNat_bits_truncate (flags : Flags) :
    flags.truncate.bits.toNat = flags.bits.toNat % 2 ^ 19 := by
  rw [truncate, UInt32.toNat_and]
  exact Nat.and_two_pow_sub_one_eq_mod flags.bits.toNat 19

theorem or_toNat_choose (other : flag ≠ .oem) {word : Nat} (small : word < 2 ^ flag.place)
    (chosen : Bool) :
    word ||| (choose flag chosen).toNat = word + (if chosen then 2 ^ flag.place else 0) := by
  cases chosen with
  | false => exact Nat.or_zero word
  | true =>
      have disjoint := Nat.two_pow_add_eq_or_of_lt small 1
      rw [Nat.mul_one] at disjoint
      calc
        word ||| flag.mask.toNat = word ||| 2 ^ flag.place := by rw [Flag.toNat_mask other]
        _ = 2 ^ flag.place ||| word := Nat.or_comm _ _
        _ = 2 ^ flag.place + word := disjoint.symm
        _ = word + 2 ^ flag.place := Nat.add_comm _ _

theorem toNat_bits_compose (oem : UInt16) (persist populate initiate : Bool) :
    (compose oem persist populate initiate).bits.toNat =
      oem.toNat + (if persist then 0x10000 else 0) + (if populate then 0x20000 else 0) +
        (if initiate then 0x40000 else 0) := by
  have oemSmall : oem.toNat < 2 ^ 16 := oem.toNat_lt
  have persistSmall : oem.toNat + (if persist then 0x10000 else 0) < 2 ^ 17 := by
    split <;> omega
  have populateSmall : oem.toNat + (if persist then 0x10000 else 0) +
      (if populate then 0x20000 else 0) < 2 ^ 18 := by
    split <;> split <;> omega
  have persisted : oem.toNat ||| (choose .persistAcrossReset persist).toNat = _ :=
    or_toNat_choose (by decide) oemSmall persist
  have populated : _ ||| (choose .populateSystemTable populate).toNat = _ :=
    or_toNat_choose (by decide) persistSmall populate
  have initiated : _ ||| (choose .initiateReset initiate).toNat = _ :=
    or_toNat_choose (by decide) populateSmall initiate
  simp only [compose, UInt32.toNat_or, UInt16.toNat_toUInt32]
  rw [persisted]
  exact (congrArg (· ||| _) populated).trans initiated

end Flags

namespace Envelope

/-! ## Writing and reading back -/

def refusals (envelope : Envelope) : List Fault :=
  (if envelope.initiateReset = true ∧ envelope.persistAcrossReset = false then
    [.resetWithoutPersistence] else []) ++
  (if envelope.headerSize.toNat < 28 then [.malformedCapsule] else []) ++
  (if 2 ^ 32 ≤ envelope.headerSize.toNat + envelope.payload.length then
    [.payloadTooLarge] else [])

theorem outcome_encode_eq_refusals (envelope : Envelope) :
    envelope.encode.outcome = Fault.unlessRefused envelope.toBytes envelope.refusals := by
  have reset : (envelope.initiateReset && !envelope.persistAcrossReset) = true ↔
      envelope.initiateReset = true ∧ envelope.persistAcrossReset = false := by
    rw [Bool.and_eq_true, Bool.not_eq_true']
  have large : envelope.imageSize ≥ UInt32.size ↔
      2 ^ 32 ≤ envelope.headerSize.toNat + envelope.payload.length := Iff.rfl
  simp only [outcome_encode, refusals, reset, large, fieldsSize]
  by_cases unkept : envelope.initiateReset = true ∧ envelope.persistAcrossReset = false
  · rw [if_pos unkept, if_pos unkept]
    rfl
  rw [if_neg unkept, if_neg unkept]
  by_cases short : envelope.headerSize.toNat < 28
  · rw [if_pos short, if_pos short]
    rfl
  rw [if_neg short, if_neg short]
  split <;> rfl

theorem refusals_eq_nil_iff (envelope : Envelope) :
    envelope.refusals = [] ↔
      (envelope.initiateReset = true → envelope.persistAcrossReset = true) ∧
        28 ≤ envelope.headerSize.toNat ∧
        envelope.headerSize.toNat + envelope.payload.length < 2 ^ 32 := by
  simp only [refusals, List.append_eq_nil_iff, ite_eq_right_iff, List.cons_ne_nil, imp_false,
    Nat.not_lt, Nat.not_le, not_and, Bool.not_eq_false, and_assoc]

structure IsReadBack (envelope : Envelope) : Prop where
  written : (∃ bytes, envelope.encode.outcome = .ok bytes) ↔
    (envelope.initiateReset = true → envelope.persistAcrossReset = true) ∧
      28 ≤ envelope.headerSize.toNat ∧
      envelope.headerSize.toNat + envelope.payload.length < 2 ^ 32
  refused : ∀ fault,
    envelope.encode.outcome = .error fault ↔ envelope.refusals.head? = some fault
  read : ∀ bytes, envelope.encode.outcome = .ok bytes → (decode bytes).outcome = .ok envelope

theorem isReadBack (envelope : Envelope) : envelope.IsReadBack where
  written := by
    rw [outcome_encode_eq_refusals, ← refusals_eq_nil_iff]
    simp only [Fault.unlessRefused_eq_ok_iff, exists_and_left, exists_eq, and_true]
  refused := by
    intro fault
    rw [outcome_encode_eq_refusals, Fault.unlessRefused_eq_error_iff]
  read := by
    intro bytes written
    rw [outcome_encode_eq_refusals, Fault.unlessRefused_eq_ok_iff, refusals_eq_nil_iff] at written
    rcases written with ⟨⟨_, headerLong, fits⟩, rfl⟩
    exact outcome_decode_toBytes headerLong fits

/-! ## Reading and writing again -/

def headerSizeIn (buffer : Bytes) : Nat :=
  littleEndianValue (buffer.extract 16 20)

def flagWordIn (buffer : Bytes) : Nat :=
  littleEndianValue (buffer.extract 20 24)

def imageSizeIn (buffer : Bytes) : Nat :=
  littleEndianValue (buffer.extract 24 28)

/-- The buffer without its reserved flag bits, and with zeros behind the fields of
its header. -/
def cleared (buffer : Bytes) : Bytes :=
  buffer.take 20 ++ littleEndian 4 (flagWordIn buffer % 2 ^ 19) ++ buffer.extract 24 28 ++
    List.replicate (headerSizeIn buffer - 28) 0 ++ buffer.drop (headerSizeIn buffer)

theorem littleEndianValue_word32 (word : UInt32) :
    littleEndianValue (littleEndian 4 word.toNat) = word.toNat := by
  rw [littleEndianValue_littleEndian]
  exact Nat.mod_eq_of_lt word.toNat_lt

theorem words_header_append (header : Header) (body : Bytes) :
    let buffer := Header.layout.encode header ++ body
    buffer.take 20 = header.capsuleGuid.bytes ++ littleEndian 4 header.headerSize.toNat ∧
      headerSizeIn buffer = header.headerSize.toNat ∧
      flagWordIn buffer = header.flags.toNat ∧
      buffer.extract 24 28 = littleEndian 4 header.imageSize.toNat := by
  intro buffer
  have buffer_eq : buffer = header.capsuleGuid.bytes ++ (littleEndian 4 header.headerSize.toNat ++
      (littleEndian 4 header.flags.toNat ++
        (littleEndian 4 header.imageSize.toNat ++ body))) := by
    show Header.layout.encode header ++ body = _
    simp only [encode_headerLayout, List.append_assoc]
  have throughSize : (header.capsuleGuid.bytes ++
      littleEndian 4 header.headerSize.toNat).length = 20 := by simp
  have throughFlags : (header.capsuleGuid.bytes ++ littleEndian 4 header.headerSize.toNat ++
      littleEndian 4 header.flags.toNat).length = 24 := by simp
  refine ⟨?_, ?_, ?_, ?_⟩
  · rw [buffer_eq, ← List.append_assoc, List.take_left' throughSize]
  · rw [headerSizeIn, buffer_eq, extract_middle header.capsuleGuid.length_bytes (by simp),
      littleEndianValue_word32]
  · rw [flagWordIn, buffer_eq, ← List.append_assoc, extract_middle throughSize (by simp),
      littleEndianValue_word32]
  · rw [buffer_eq, ← List.append_assoc, ← List.append_assoc, extract_middle throughFlags (by simp)]

theorem imageSizeIn_header_append (header : Header) (body : Bytes) :
    imageSizeIn (Header.layout.encode header ++ body) = header.imageSize.toNat := by
  rw [imageSizeIn, (words_header_append header body).2.2.2, littleEndianValue_word32]

theorem exists_outcome_decode_eq_ok_iff {buffer : Bytes} :
    (∃ envelope, (decode buffer).outcome = .ok envelope) ↔
      28 ≤ buffer.length ∧ 28 ≤ headerSizeIn buffer ∧ headerSizeIn buffer ≤ buffer.length ∧
        imageSizeIn buffer = buffer.length := by
  constructor
  · rintro ⟨envelope, accepted⟩
    rcases outcome_decode_eq_ok_iff.mp accepted with
      ⟨header, body, buffer_eq, headerLong, headerInside, sizeDeclared, _⟩
    have long : 28 ≤ header.headerSize.toNat := headerLong
    rw [buffer_eq, (words_header_append header body).2.1, imageSizeIn_header_append, ← buffer_eq]
    exact ⟨Nat.le_trans long headerInside, long, headerInside, sizeDeclared⟩
  · rintro ⟨long, headerLong, headerInside, sizeDeclared⟩
    rcases exists_header_of_length_ge long with ⟨header, body, buffer_eq⟩
    have headerSize : headerSizeIn buffer = header.headerSize.toNat := by
      rw [buffer_eq, (words_header_append header body).2.1]
    have imageSize : imageSizeIn buffer = header.imageSize.toNat := by
      rw [buffer_eq, imageSizeIn_header_append]
    rw [headerSize] at headerLong headerInside
    rw [imageSize] at sizeDeclared
    exact ⟨_, outcome_decode_eq_ok_iff.mpr
      ⟨header, body, buffer_eq, headerLong, headerInside, sizeDeclared, rfl⟩⟩

theorem flags_ofHeader (header : Header) (payload : Bytes) :
    (ofHeader header payload).flags = (Flags.mk header.flags).truncate :=
  Flags.compose_parts _

theorem imageSize_ofHeader {header : Header} {body : Bytes}
    (headerInside : header.headerSize.toNat ≤ fieldsSize + body.length)
    (headerLong : fieldsSize ≤ header.headerSize.toNat)
    (sizeDeclared : header.imageSize.toNat = fieldsSize + body.length) :
    (ofHeader header (body.drop (header.headerSize.toNat - fieldsSize))).imageSize =
      header.imageSize.toNat := by
  change header.headerSize.toNat + (body.drop (header.headerSize.toNat - fieldsSize)).length = _
  rw [List.length_drop, sizeDeclared]
  omega

theorem toBytes_ofHeader {header : Header} {body : Bytes}
    (headerInside : header.headerSize.toNat ≤ fieldsSize + body.length)
    (headerLong : fieldsSize ≤ header.headerSize.toNat)
    (sizeDeclared : header.imageSize.toNat = fieldsSize + body.length) :
    (ofHeader header (body.drop (header.headerSize.toNat - fieldsSize))).toBytes =
      cleared (Header.layout.encode header ++ body) := by
  rcases words_header_append header body with ⟨front, headerSize, flagWord, imageSize⟩
  rw [cleared, front, headerSize, flagWord, imageSize, drop_header_append header body headerLong,
    ← Flags.toNat_bits_truncate ⟨header.flags⟩, ← flags_ofHeader header, toBytes,
    imageSize_ofHeader headerInside headerLong sizeDeclared, UInt32.ofNat_toNat,
    encode_headerLayout]
  simp only [List.append_assoc]
  rfl

theorem reset_ofHeader (header : Header) (payload : Bytes) :
    ((ofHeader header payload).initiateReset &&
        !(ofHeader header payload).persistAcrossReset) = true ↔
      header.flags.toNat.testBit 18 = true ∧ header.flags.toNat.testBit 16 = false := by
  have initiate : (ofHeader header payload).initiateReset = header.flags.toNat.testBit 18 :=
    Flags.contains_eq_testBit ⟨header.flags⟩ (by decide : Flag.initiateReset ≠ .oem)
  have persist : (ofHeader header payload).persistAcrossReset = header.flags.toNat.testBit 16 :=
    Flags.contains_eq_testBit ⟨header.flags⟩ (by decide : Flag.persistAcrossReset ≠ .oem)
  rw [initiate, persist, Bool.and_eq_true, Bool.not_eq_true']

theorem outcome_encode_of_outcome_decode {buffer : Bytes} {envelope : Envelope}
    (accepted : (decode buffer).outcome = .ok envelope) :
    envelope.encode.outcome =
      if (flagWordIn buffer).testBit 18 = true ∧ (flagWordIn buffer).testBit 16 = false then
        .error .resetWithoutPersistence
      else
        .ok (cleared buffer) := by
  rcases outcome_decode_eq_ok_iff.mp accepted with
    ⟨header, body, rfl, headerLong, headerInside, sizeDeclared, rfl⟩
  rw [List.length_append, Layout.length_encode, width_headerLayout] at headerInside sizeDeclared
  have sizeFits : ¬ header.imageSize.toNat ≥ UInt32.size := Nat.not_le.mpr header.imageSize.toNat_lt
  have headerWhole : ¬ (ofHeader header
      (body.drop (header.headerSize.toNat - fieldsSize))).headerSize.toNat < fieldsSize :=
    Nat.not_lt.mpr headerLong
  rw [outcome_encode, if_neg headerWhole, imageSize_ofHeader headerInside headerLong sizeDeclared,
    if_neg sizeFits, toBytes_ofHeader headerInside headerLong sizeDeclared,
    (words_header_append header body).2.2.1]
  exact if_congr (reset_ofHeader header _) rfl rfl

theorem replicate_eq_take_iff {bytes : Bytes} {size : Nat} (inside : size ≤ bytes.length) :
    List.replicate size 0 = bytes.take size ↔ ∀ position < size, bytes[position]? = some 0 := by
  constructor
  · intro equal position before
    rw [← List.getElem?_take_of_lt before, ← equal, List.getElem?_replicate_of_lt before]
  · intro zero
    apply List.ext_getElem?
    intro position
    by_cases before : position < size
    · rw [List.getElem?_replicate_of_lt before, List.getElem?_take_of_lt before,
        zero position before]
    · rw [List.getElem?_eq_none, List.getElem?_eq_none]
      · rw [List.length_take]
        omega
      · rw [List.length_replicate]
        omega

theorem mod_eq_self_iff_testBit {word count : Nat} :
    word % 2 ^ count = word ↔ ∀ bit, count ≤ bit → word.testBit bit = false := by
  rw [Nat.mod_eq_iff_lt (Nat.ne_of_gt (Nat.two_pow_pos count))]
  constructor
  · intro small bit above
    exact Nat.testBit_lt_two_pow (Nat.lt_of_lt_of_le small (Nat.pow_le_pow_right (by decide) above))
  · exact Nat.lt_pow_two_of_testBit word

theorem padding_eq_zero_iff (header : Header) (body : Bytes) :
    (∀ position, 28 ≤ position → position < header.headerSize.toNat →
      (Header.layout.encode header ++ body)[position]? = some 0) ↔
        ∀ position < header.headerSize.toNat - fieldsSize, body[position]? = some 0 := by
  have behind (position : Nat) :
      (Header.layout.encode header ++ body)[28 + position]? = body[position]? := by
    have fields : (Header.layout.encode header).length = 28 := Layout.length_encode _ header
    rw [List.getElem?_append_right (by omega), fields, Nat.add_sub_cancel_left]
  constructor
  · intro zero position inPadding
    change position < header.headerSize.toNat - 28 at inPadding
    rw [← behind]
    exact zero (28 + position) (by omega) (by omega)
  · intro zero position low high
    rw [← Nat.add_sub_cancel' low, behind]
    exact zero (position - 28) (Nat.sub_lt_sub_right low high)

theorem cleared_eq_iff {buffer : Bytes} {envelope : Envelope}
    (accepted : (decode buffer).outcome = .ok envelope) :
    cleared buffer = buffer ↔
      (∀ bit, 19 ≤ bit → (flagWordIn buffer).testBit bit = false) ∧
        ∀ position, 28 ≤ position → position < headerSizeIn buffer →
          buffer[position]? = some 0 := by
  rcases outcome_decode_eq_ok_iff.mp accepted with
    ⟨header, body, rfl, headerLong, headerInside, _, _⟩
  rcases words_header_append header body with ⟨front, headerSize, flagWord, imageSize⟩
  rw [List.length_append, Layout.length_encode, width_headerLayout] at headerInside
  have wordFits : header.flags.toNat < byteRange 4 := header.flags.toNat_lt
  have flagsKept := littleEndian_inj (Nat.lt_of_le_of_lt (Nat.mod_le _ (2 ^ 19)) wordFits) wordFits
  rw [mod_eq_self_iff_testBit] at flagsKept
  have paddingKept := replicate_eq_take_iff (Nat.sub_le_iff_le_add'.mpr headerInside)
  have parts : Header.layout.encode header ++ body =
      header.capsuleGuid.bytes ++ littleEndian 4 header.headerSize.toNat ++
        (littleEndian 4 header.flags.toNat ++ (littleEndian 4 header.imageSize.toNat ++
          (body.take (header.headerSize.toNat - fieldsSize) ++
            body.drop (header.headerSize.toNat - fieldsSize)))) := by
    rw [List.take_append_drop, encode_headerLayout]
    simp only [List.append_assoc]
  rw [flagWord, headerSize, padding_eq_zero_iff, ← flagsKept, ← paddingKept, cleared, front,
    headerSize, flagWord, imageSize, drop_header_append header body headerLong]
  conv => lhs; rhs; rw [parts]
  simp only [List.append_assoc, List.append_cancel_left_eq]
  constructor
  · intro equal
    rcases List.append_inj equal (by simp) with ⟨flagsEqual, rest⟩
    exact ⟨flagsEqual, List.append_cancel_right (List.append_cancel_left rest)⟩
  · rintro ⟨flagsEqual, paddingEqual⟩
    rw [flagsEqual, ← paddingEqual]
    rfl

structure IsWrittenAgain (buffer : Bytes) : Prop where
  read : (∃ envelope, (decode buffer).outcome = .ok envelope) ↔
    28 ≤ buffer.length ∧ 28 ≤ headerSizeIn buffer ∧ headerSizeIn buffer ≤ buffer.length ∧
      imageSizeIn buffer = buffer.length
  written : ∀ envelope, (decode buffer).outcome = .ok envelope →
    envelope.encode.outcome =
      if (flagWordIn buffer).testBit 18 = true ∧ (flagWordIn buffer).testBit 16 = false then
        .error .resetWithoutPersistence
      else
        .ok (cleared buffer)
  unchanged : ∀ envelope, (decode buffer).outcome = .ok envelope →
    (cleared buffer = buffer ↔
      (∀ bit, 19 ≤ bit → (flagWordIn buffer).testBit bit = false) ∧
        ∀ position, 28 ≤ position → position < headerSizeIn buffer →
          buffer[position]? = some 0)

theorem isReadBack_and_isWrittenAgain :
    (∀ envelope : Envelope, envelope.IsReadBack) ∧ ∀ buffer, IsWrittenAgain buffer :=
  ⟨isReadBack, fun _ => {
    read := exists_outcome_decode_eq_ok_iff
    written := fun _ => outcome_encode_of_outcome_decode
    unchanged := fun _ => cleared_eq_iff }⟩

/-- Two bytes of padding and a reserved flag bit are read and not written again. -/
example :
    let buffer (flags padding : Bytes) : Bytes :=
      Guid.zero.bytes ++ [30, 0, 0, 0] ++ flags ++ [31, 0, 0, 0] ++ padding ++ [9]
    cleared (buffer [5, 0, 1, 128] [7, 8]) = buffer [5, 0, 1, 0] [0, 0] := by decide

end Envelope

end FirmwareCapsule
