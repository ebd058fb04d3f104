import FirmwareCapsule.Bytes.Number

namespace FirmwareCapsule

/-! Fixed layouts. A `Layout` says how the values of a type lie in a block of
bytes, and is a one-to-one correspondence by construction: nothing that is
written is lost, and every block of the right size is the form of one value.
Records are laid out by putting layouts side by side. -/

structure Layout (α : Type) where
  width : Nat
  write : α → Block width
  read : Block width → α
  read_write : ∀ value, read (write value) = value
  write_read : ∀ block, write (read block) = block

namespace Layout

variable {α β : Type}

def encode (layout : Layout α) (value : α) : Bytes :=
  (layout.write value).bytes

@[simp] theorem length_encode (layout : Layout α) (value : α) :
    (layout.encode value).length = layout.width :=
  (layout.write value).length_bytes

def take? (layout : Layout α) (bytes : Bytes) : Option (α × Bytes) :=
  (Block.ofBytes? layout.width (bytes.take layout.width)).map fun block =>
    (layout.read block, bytes.drop layout.width)

theorem take?_eq_some_iff (layout : Layout α) {bytes rest : Bytes} {value : α} :
    layout.take? bytes = some (value, rest) ↔ bytes = layout.encode value ++ rest := by
  constructor
  · intro taken
    obtain ⟨block, found, equal⟩ := Option.map_eq_some_iff.mp taken
    rw [Block.ofBytes?_eq_some_iff] at found
    cases equal
    rw [encode, layout.write_read, found, List.take_append_drop]
  · intro equal
    subst equal
    have head : (layout.encode value ++ rest).take layout.width = (layout.write value).bytes :=
      List.take_left' (layout.length_encode value)
    have tail : (layout.encode value ++ rest).drop layout.width = rest :=
      List.drop_left' (layout.length_encode value)
    rw [take?, head, tail, Block.ofBytes?_bytes]
    simp [layout.read_write]

@[simp] theorem take?_encode_append (layout : Layout α) (value : α) (rest : Bytes) :
    layout.take? (layout.encode value ++ rest) = some (value, rest) :=
  layout.take?_eq_some_iff.mpr rfl

theorem take?_eq_none_iff (layout : Layout α) {bytes : Bytes} :
    layout.take? bytes = none ↔ bytes.length < layout.width := by
  rw [take?, Option.map_eq_none_iff, Block.ofBytes?_eq_none_iff, List.length_take]
  omega

theorem exists_encode_append (layout : Layout α) {bytes : Bytes}
    (long : layout.width ≤ bytes.length) : ∃ value rest, bytes = layout.encode value ++ rest := by
  cases taken : layout.take? bytes with
  | none =>
      rw [take?_eq_none_iff] at taken
      exact absurd long (Nat.not_le.mpr taken)
  | some parts => exact ⟨parts.1, parts.2, layout.take?_eq_some_iff.mp taken⟩

theorem encode_injective (layout : Layout α) {left right : α}
    (equal : layout.encode left = layout.encode right) : left = right := by
  rw [← layout.read_write left, ← layout.read_write right]
  exact congrArg layout.read (Block.ext equal)

def pair (left : Layout α) (right : Layout β) : Layout (α × β) where
  width := left.width + right.width
  write value := (left.write value.1).append (right.write value.2)
  read block := (left.read block.left, right.read block.right)
  read_write value := by simp [left.read_write, right.read_write]
  write_read block := by simp [left.write_read, right.write_read]

def equivalent (layout : Layout α) (forward : α → β) (backward : β → α)
    (backward_forward : ∀ value, backward (forward value) = value)
    (forward_backward : ∀ value, forward (backward value) = value) : Layout β where
  width := layout.width
  write value := layout.write (backward value)
  read block := forward (layout.read block)
  read_write value := by rw [layout.read_write, forward_backward]
  write_read block := by rw [backward_forward, layout.write_read]

@[simp] theorem width_pair (left : Layout α) (right : Layout β) :
    (left.pair right).width = left.width + right.width := rfl

@[simp] theorem encode_pair (left : Layout α) (right : Layout β) (value : α × β) :
    (left.pair right).encode value = left.encode value.1 ++ right.encode value.2 := rfl

/-! ## Basic layouts -/

def block (size : Nat) : Layout (Block size) where
  width := size
  write value := value
  read value := value
  read_write _ := rfl
  write_read _ := rfl

def word (size : Nat) (toNat : α → Nat) (ofNat : Nat → α)
    (ofNat_toNat : ∀ value, ofNat (toNat value) = value)
    (toNat_ofNat : ∀ number, toNat (ofNat number) = number % byteRange size)
    (toNat_lt : ∀ value, toNat value < byteRange size) : Layout α where
  width := size
  write value := ⟨littleEndian size (toNat value), length_littleEndian size _⟩
  read block := ofNat (littleEndianValue block.bytes)
  read_write value := by
    rw [littleEndianValue_littleEndian, Nat.mod_eq_of_lt (toNat_lt value), ofNat_toNat]
  write_read block := by
    have bound := littleEndianValue_lt block.bytes
    have digits := littleEndian_littleEndianValue block.bytes
    rw [block.length_bytes] at bound digits
    apply Block.ext
    simp only [toNat_ofNat, Nat.mod_eq_of_lt bound, digits]

def byte : Layout UInt8 :=
  word 1 UInt8.toNat UInt8.ofNat (fun _ => UInt8.ofNat_toNat)
    (fun _ => UInt8.toNat_ofNat') UInt8.toNat_lt

def word16 : Layout UInt16 :=
  word 2 UInt16.toNat UInt16.ofNat (fun _ => UInt16.ofNat_toNat)
    (fun _ => UInt16.toNat_ofNat') UInt16.toNat_lt

def word32 : Layout UInt32 :=
  word 4 UInt32.toNat UInt32.ofNat (fun _ => UInt32.ofNat_toNat)
    (fun _ => UInt32.toNat_ofNat') UInt32.toNat_lt

def word64 : Layout UInt64 :=
  word 8 UInt64.toNat UInt64.ofNat (fun _ => UInt64.ofNat_toNat)
    (fun _ => UInt64.toNat_ofNat') UInt64.toNat_lt

theorem encode_byte (value : UInt8) : byte.encode value = [value] := by
  show [UInt8.ofNat value.toNat] = [value]
  rw [UInt8.ofNat_toNat]

theorem encode_word16 (value : UInt16) :
    word16.encode value = littleEndian 2 value.toNat := rfl

theorem encode_word32 (value : UInt32) :
    word32.encode value = littleEndian 4 value.toNat := rfl

theorem encode_word64 (value : UInt64) :
    word64.encode value = littleEndian 8 value.toNat := rfl

theorem encode_word16_ofNat (number : Nat) :
    word16.encode (UInt16.ofNat number) = littleEndian 2 number := by
  rw [encode_word16, UInt16.toNat_ofNat']
  exact littleEndian_mod 2 number

theorem encode_word32_ofNat (number : Nat) :
    word32.encode (UInt32.ofNat number) = littleEndian 4 number := by
  rw [encode_word32, UInt32.toNat_ofNat']
  exact littleEndian_mod 4 number

example : word16.encode 0x0EF1 = [0xF1, 0x0E] := rfl
example : word32.take? [1, 0, 0, 0, 9] = some (1, [9]) := rfl

end Layout

end FirmwareCapsule
