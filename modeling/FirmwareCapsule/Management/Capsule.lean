import FirmwareCapsule.Management.Item

namespace FirmwareCapsule.Management

/-! Firmware management capsules: a list of offsets and the items they point at.
Embedded drivers come first and are passed over; the payload items follow them,
and each ends where the next begins. Any number of items can be read, but only
one can be staged for writing. -/

structure Capsule where
  /-- The number of embedded drivers, as read. -/
  driverCount : UInt16
  /-- Where the drivers and items start, as read or as last written. -/
  itemOffsets : List UInt64
  items : List Item
deriving DecidableEq

namespace Capsule

structure Header where
  version : UInt32
  driverCount : UInt16
  itemCount : UInt16
deriving DecidableEq

def Header.layout : Layout Header :=
  (Layout.word32.pair (Layout.word16.pair Layout.word16)).equivalent
    (fun fields => ⟨fields.1, fields.2.1, fields.2.2⟩)
    (fun header => (header.version, header.driverCount, header.itemCount))
    (fun _ => rfl) (fun _ => rfl)

@[simp] theorem width_headerLayout : Header.layout.width = 8 := rfl

def headerVersion : UInt32 := 1

def listEnd (count : Nat) : Nat :=
  8 + 8 * count

def empty : Capsule :=
  ⟨0, [], []⟩

def addPayload (capsule : Capsule) (imageType : Guid) (payload : Bytes)
    (hardwareInstance : UInt64) : Logged Capsule :=
  if capsule.items.isEmpty then
    pure { capsule with items := [.ofPayload imageType payload hardwareInstance] }
  else
    Logged.reject .management "FMP capsule already holds a payload" .secondPayload

def item (capsule : Capsule) (index : Nat) : Logged Item :=
  match capsule.items[index]? with
  | some item => pure item
  | none =>
      let count := capsule.items.length
      Logged.reject .management
        s!"FMP image index {Text.decimal index} out of range, capsule has {Text.decimal count} items"
        .noSuchImage

/-! ## Writing -/

def offsetsFrom (start : Nat) : List Bytes → List UInt64
  | [] => []
  | item :: rest => UInt64.ofNat start :: offsetsFrom (start + item.length) rest

def encodeOffsets (offsets : List UInt64) : Bytes :=
  offsets.flatMap Layout.word64.encode

/-- Write a capsule. Drivers are never written; the capsule that is left behind
describes the bytes that were. -/
def encode (capsule : Capsule) : Logged (Bytes × Capsule) := do
  if capsule.items.isEmpty then
    Logged.reject .management "FMP capsule has no payload" .noPayload
  else
    let items ← Traced.ofExcept (capsule.items.mapM Item.encode)
    if items.length ≥ UInt16.size then
      Traced.refuse .payloadTooLarge
    else
      let offsets := offsetsFrom (listEnd items.length) items
      let header : Header := ⟨headerVersion, 0, UInt16.ofNat items.length⟩
      let bytes := Header.layout.encode header ++ (encodeOffsets offsets ++ items.flatten)
      Logged.debug .management
        s!"FMP capsule header wraps {Text.decimal items.length} item(s), {Text.hex bytes.length} bytes"
      return (bytes, { capsule with driverCount := 0, itemOffsets := offsets })

/-! ## Reading -/

def takeOffsetsAfter? (taken : List UInt64) : (count : Nat) → Bytes → Option (List UInt64 × Bytes)
  | 0, bytes => some (taken.reverse, bytes)
  | count + 1, bytes =>
      match Layout.word64.take? bytes with
      | some (offset, rest) => takeOffsetsAfter? (offset :: taken) count rest
      | none => none

def takeOffsets? (count : Nat) (bytes : Bytes) : Option (List UInt64 × Bytes) :=
  takeOffsetsAfter? [] count bytes

def misplaced? (size : Nat) : (lowest : Nat) → List UInt64 → Option UInt64
  | _, [] => none
  | lowest, offset :: rest =>
      if lowest ≤ offset.toNat ∧ offset.toNat < size then
        misplaced? size (offset.toNat + 1) rest
      else
        some offset

/-- The parts of a buffer that start at the given offsets. Each ends where the
next one starts, and the last at the end of the buffer. -/
def partsAt (buffer : Bytes) : List UInt64 → List Bytes
  | [] => []
  | [start] => [buffer.drop start.toNat]
  | start :: next :: rest =>
      (buffer.drop start.toNat).take (next.toNat - start.toNat) ::
        partsAt buffer (next :: rest)

def decode (buffer : Bytes) : Logged Capsule := do
  let (header, rest) ← Traced.require .fieldCutShort (Header.layout.take? buffer)
  if header.version ≠ headerVersion then
    Logged.reject .management
      s!"unsupported FMP capsule header version {Text.hex header.version.toNat}"
      .malformedCapsule
  else if header.itemCount = 0 then
    Logged.reject .management "FMP capsule has no payload items" .malformedCapsule
  else
    let drivers := header.driverCount.toNat
    let count := drivers + header.itemCount.toNat
    let (offsets, _) ← Traced.require .fieldCutShort (takeOffsets? count rest)
    match misplaced? buffer.length (listEnd count) offsets with
    | some offset =>
        Logged.reject .management
          s!"invalid FMP item offset {Text.hex offset.toNat} in {Text.hex buffer.length} byte capsule"
          .malformedCapsule
    | none =>
        let items ← (partsAt buffer (offsets.drop drivers)).mapM Item.decode
        Logged.debug .management
          s!"FMP capsule holds {Text.decimal drivers} driver(s) and {Text.decimal header.itemCount.toNat} payload(s)"
        return ⟨header.driverCount, offsets, items⟩

def report (capsule : Capsule) : String :=
  let field name value := Text.field 58 ("EFI_FIRMWARE_MANAGEMENT_CAPSULE_HEADER." ++ name) value
  let offsetFields := capsule.itemOffsets.zipIdx.map fun (offset, index) =>
    field s!"ItemOffsetList[{Text.decimal index}]" (Text.upperHex 16 offset.toNat)
  field "Version" (Text.upperHex 8 headerVersion.toNat) ++
    field "EmbeddedDriverCount" (Text.upperHex 8 capsule.driverCount.toNat) ++
    field "PayloadItemCount" (Text.upperHex 8 capsule.items.length) ++
    String.join offsetFields ++
    String.join (capsule.items.map Item.report)

end Capsule

end FirmwareCapsule.Management
