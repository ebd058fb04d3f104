import FirmwareCapsule.Bytes.Layout

namespace FirmwareCapsule

/-! GUIDs. A GUID is the sixteen bytes by which headers carry it, whatever the
byte order of the words around it. -/

structure Guid where
  block : Block 16
deriving DecidableEq

namespace Guid

def bytes (guid : Guid) : Bytes :=
  guid.block.bytes

@[simp] theorem length_bytes (guid : Guid) : guid.bytes.length = 16 :=
  guid.block.length_bytes

@[ext] theorem ext {left right : Guid} (equal : left.bytes = right.bytes) : left = right := by
  cases left
  cases right
  exact congrArg Guid.mk (Block.ext equal)

/-- A GUID from the five groups of its text. The first three are words, least
significant byte first; the last two are bytes in the order of the text. -/
def ofGroups (first : UInt32) (second third fourth : UInt16) (last : Nat) : Guid :=
  ⟨⟨littleEndian 4 first.toNat ++ littleEndian 2 second.toNat ++ littleEndian 2 third.toNat ++
      bigEndian 2 fourth.toNat ++ bigEndian 6 last, by simp⟩⟩

def zero : Guid :=
  ⟨Block.zero 16⟩

def layout : Layout Guid :=
  (Layout.block 16).equivalent Guid.mk Guid.block (fun _ => rfl) (fun _ => rfl)

@[simp] theorem width_layout : layout.width = 16 := rfl

@[simp] theorem encode_layout (guid : Guid) : layout.encode guid = guid.bytes := rfl

example : (ofGroups 0x6dcbd5ed 0xe82d 0x4c44 0xbda1 0x7194199ad92a).bytes =
    [0xed, 0xd5, 0xcb, 0x6d, 0x2d, 0xe8, 0x44, 0x4c, 0xbd, 0xa1, 0x71, 0x94, 0x19, 0x9a,
      0xd9, 0x2a] := by decide

/-! ## GUIDs inside a buffer -/

def readAt? (buffer : Bytes) (offset : Nat) : Option (Guid × Nat) :=
  (layout.take? (buffer.drop offset)).map fun taken => (taken.1, offset + 16)

def writeAt? (guid : Guid) (buffer : Bytes) (offset : Nat) : Option (Bytes × Nat) :=
  if offset + 16 ≤ buffer.length then
    some (buffer.take offset ++ guid.bytes ++ buffer.drop (offset + 16), offset + 16)
  else
    none

end Guid

end FirmwareCapsule
