import FirmwareCapsule.Bytes.Basic

namespace FirmwareCapsule

/-! Numbers as byte strings. Header words are written least significant byte
first; key material is written most significant byte first. Either way a byte
string of a given length and the numbers in the range of that length correspond
one to one. -/

def byteRange : (width : Nat) → Nat
  | 0 => 1
  | width + 1 => 256 * byteRange width

def littleEndianValue : Bytes → Nat
  | [] => 0
  | byte :: rest => byte.toNat + 256 * littleEndianValue rest

def littleEndian : (width : Nat) → (value : Nat) → Bytes
  | 0, _ => []
  | width + 1, value => UInt8.ofNat value :: littleEndian width (value / 256)

def bigEndianValue (bytes : Bytes) : Nat :=
  littleEndianValue bytes.reverse

def bigEndian (width value : Nat) : Bytes :=
  (littleEndian width value).reverse

example : littleEndian 4 0x12345678 = [0x78, 0x56, 0x34, 0x12] := rfl
example : bigEndianValue [0x01, 0x00] = 256 := rfl

theorem byteRange_pos (width : Nat) : 0 < byteRange width := by
  induction width with
  | zero => decide
  | succ width induction => exact Nat.mul_pos (by decide) induction

@[simp] theorem length_littleEndian (width value : Nat) :
    (littleEndian width value).length = width := by
  induction width generalizing value with
  | zero => rfl
  | succ width induction => simp [littleEndian, induction]

@[simp] theorem length_bigEndian (width value : Nat) :
    (bigEndian width value).length = width := by
  simp [bigEndian]

theorem bigEndian_succ (width value : Nat) :
    bigEndian (width + 1) value = bigEndian width (value / 256) ++ [UInt8.ofNat value] :=
  List.reverse_cons

theorem littleEndianValue_lt (bytes : Bytes) :
    littleEndianValue bytes < byteRange bytes.length := by
  induction bytes with
  | nil => decide
  | cons byte rest induction =>
      have byteBound := byte.toNat_lt
      simp only [littleEndianValue, List.length_cons, byteRange]
      omega

theorem littleEndianValue_littleEndian (width value : Nat) :
    littleEndianValue (littleEndian width value) = value % byteRange width := by
  induction width generalizing value with
  | zero => simp [littleEndian, littleEndianValue, byteRange, Nat.mod_one]
  | succ width induction =>
      have split : value % (256 * byteRange width) =
          value % 256 + 256 * (value / 256 % byteRange width) := Nat.mod_mul
      simp only [littleEndian, littleEndianValue, induction, UInt8.toNat_ofNat', byteRange]
      exact split.symm

@[simp] theorem littleEndian_littleEndianValue (bytes : Bytes) :
    littleEndian bytes.length (littleEndianValue bytes) = bytes := by
  induction bytes with
  | nil => rfl
  | cons byte rest induction =>
      have byteBound := byte.toNat_lt
      have lowByte : UInt8.ofNat (byte.toNat + 256 * littleEndianValue rest) = byte := by
        apply UInt8.toNat_inj.mp
        rw [UInt8.toNat_ofNat']
        omega
      have highBytes : (byte.toNat + 256 * littleEndianValue rest) / 256 =
          littleEndianValue rest := by omega
      simp only [littleEndianValue, List.length_cons, littleEndian, lowByte, highBytes, induction]

theorem littleEndian_mod (width value : Nat) :
    littleEndian width (value % byteRange width) = littleEndian width value := by
  have digits := littleEndian_littleEndianValue (littleEndian width value)
  rwa [length_littleEndian, littleEndianValue_littleEndian] at digits

theorem littleEndian_inj {width left right : Nat} (leftFits : left < byteRange width)
    (rightFits : right < byteRange width) :
    littleEndian width left = littleEndian width right ↔ left = right := by
  constructor
  · intro equal
    have values := congrArg littleEndianValue equal
    rwa [littleEndianValue_littleEndian, littleEndianValue_littleEndian,
      Nat.mod_eq_of_lt leftFits, Nat.mod_eq_of_lt rightFits] at values
  · exact congrArg _

theorem littleEndianValue_append (low high : Bytes) :
    littleEndianValue (low ++ high) =
      littleEndianValue low + byteRange low.length * littleEndianValue high := by
  induction low with
  | nil => simp [littleEndianValue, byteRange]
  | cons byte rest induction =>
      simp only [List.cons_append, littleEndianValue, induction, List.length_cons, byteRange,
        Nat.mul_add, Nat.add_assoc, Nat.mul_assoc]

theorem bigEndianValue_bigEndian (width value : Nat) :
    bigEndianValue (bigEndian width value) = value % byteRange width := by
  simp [bigEndianValue, bigEndian, littleEndianValue_littleEndian]

@[simp] theorem bigEndian_bigEndianValue (bytes : Bytes) :
    bigEndian bytes.length (bigEndianValue bytes) = bytes := by
  have reversed := littleEndian_littleEndianValue bytes.reverse
  rw [List.length_reverse] at reversed
  simp [bigEndian, bigEndianValue, reversed]

theorem exists_block_bigEndian (width number : Nat) :
    ∃ block : Block width, block.bytes = bigEndian width number :=
  ⟨⟨bigEndian width number, length_bigEndian width number⟩, rfl⟩

theorem bigEndianValue_inj {left right : Bytes} (sizes : left.length = right.length)
    (values : bigEndianValue left = bigEndianValue right) : left = right := by
  rw [← bigEndian_bigEndianValue left, sizes, values, bigEndian_bigEndianValue]

theorem Block.eq_of_bigEndianValue {size : Nat} {left right : Block size}
    (values : bigEndianValue left.bytes = bigEndianValue right.bytes) : left = right := by
  apply Block.ext
  apply bigEndianValue_inj
  · rw [left.length_bytes, right.length_bytes]
  · exact values

theorem bigEndianValue_lt (bytes : Bytes) : bigEndianValue bytes < byteRange bytes.length := by
  have bound := littleEndianValue_lt bytes.reverse
  rwa [List.length_reverse] at bound

/-! ## Leading zeros -/

@[simp] theorem bigEndianValue_zero_cons (bytes : Bytes) :
    bigEndianValue (0 :: bytes) = bigEndianValue bytes := by
  rw [bigEndianValue, List.reverse_cons, littleEndianValue_append]
  simp [littleEndianValue, bigEndianValue]

theorem bigEndianValue_replicate_zero_append (count : Nat) (bytes : Bytes) :
    bigEndianValue (List.replicate count 0 ++ bytes) = bigEndianValue bytes := by
  induction count with
  | zero => rfl
  | succ count induction =>
      rw [List.replicate_succ, List.cons_append, bigEndianValue_zero_cons, induction]

theorem bigEndianValue_dropWhile_zero (bytes : Bytes) :
    bigEndianValue (bytes.dropWhile (· = 0)) = bigEndianValue bytes := by
  induction bytes with
  | nil => rfl
  | cons byte rest induction =>
      by_cases zero : byte = 0
      · rw [zero, List.dropWhile_cons_of_pos (by simp), bigEndianValue_zero_cons, induction]
      · rw [List.dropWhile_cons_of_neg (by simpa using zero)]

theorem bigEndianValue_cons (byte : UInt8) (bytes : Bytes) :
    bigEndianValue (byte :: bytes) =
      bigEndianValue bytes + byteRange bytes.length * byte.toNat := by
  rw [bigEndianValue, List.reverse_cons, littleEndianValue_append, List.length_reverse]
  simp only [littleEndianValue, Nat.mul_zero, Nat.add_zero]
  rfl

end FirmwareCapsule
