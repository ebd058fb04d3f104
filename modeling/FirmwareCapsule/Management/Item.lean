import FirmwareCapsule.Guid.Text
import FirmwareCapsule.Text.Report
import FirmwareCapsule.Traced

namespace FirmwareCapsule.Management

/-! Payload items of a firmware management capsule: a header that says which
image of which device is updated, the update image, and vendor code behind it.
The header comes in versions, and later versions have more fields. -/

structure Item where
  version : UInt32
  imageType : Guid
  /-- Which image of the device is updated, counting from one. -/
  index : UInt8
  /-- The device that is updated, zero for any. Not in version 1. -/
  hardwareInstance : UInt64
  /-- Only from version 3 on. -/
  capsuleSupport : UInt64
  payload : Bytes
  vendorCode : Bytes
deriving DecidableEq

namespace Item

structure Fields where
  imageType : Guid
  index : UInt8
  reserved : Block 3
  imageSize : UInt32
  vendorCodeSize : UInt32
deriving DecidableEq

def Fields.layout : Layout Fields :=
  (Guid.layout.pair (Layout.byte.pair ((Layout.block 3).pair
    (Layout.word32.pair Layout.word32)))).equivalent
    (fun fields =>
      ⟨fields.1, fields.2.1, fields.2.2.1, fields.2.2.2.1, fields.2.2.2.2⟩)
    (fun fields =>
      (fields.imageType, fields.index, fields.reserved, fields.imageSize,
        fields.vendorCodeSize))
    (fun _ => rfl) (fun _ => rfl)

@[simp] theorem width_fieldsLayout : Fields.layout.width = 28 := rfl

def headerSize (version : UInt32) : Nat :=
  if version ≤ 1 then 32 else if version = 2 then 40 else 48

def ofPayload (imageType : Guid) (payload : Bytes) (hardwareInstance : UInt64) : Item where
  version := 2
  imageType
  index := 1
  hardwareInstance
  capsuleSupport := 0
  payload
  vendorCode := []

def optionalWord (present : Bool) (value : UInt64) : Bytes :=
  if present then Layout.word64.encode value else []

def takeOptionalWord? (present : Bool) (bytes : Bytes) : Option (UInt64 × Bytes) :=
  if present then Layout.word64.take? bytes else some (0, bytes)

def toBytes (item : Item) : Bytes :=
  Layout.word32.encode item.version ++
    (Fields.layout.encode
      ⟨item.imageType, item.index, .zero 3, UInt32.ofNat item.payload.length,
        UInt32.ofNat item.vendorCode.length⟩ ++
      (optionalWord (2 ≤ item.version) item.hardwareInstance ++
        (optionalWord (3 ≤ item.version) item.capsuleSupport ++
          (item.payload ++ item.vendorCode))))

def encode (item : Item) : Except Fault Bytes :=
  if item.payload.length < UInt32.size ∧ item.vendorCode.length < UInt32.size then
    .ok item.toBytes
  else
    .error .payloadTooLarge

def decode (bytes : Bytes) : Logged Item := do
  let (version, rest) ← Traced.require .fieldCutShort (Layout.word32.take? bytes)
  if version < 1 then
    Logged.reject .management
      s!"FMP image header version {Text.hex version.toNat} is invalid" .malformedCapsule
  else
    let (fields, rest) ← Traced.require .fieldCutShort (Fields.layout.take? rest)
    let (hardwareInstance, rest) ←
      Traced.require .fieldCutShort (takeOptionalWord? (2 ≤ version) rest)
    let (capsuleSupport, rest) ←
      Traced.require .fieldCutShort (takeOptionalWord? (3 ≤ version) rest)
    let declared := headerSize version + fields.imageSize.toNat + fields.vendorCodeSize.toNat
    if fields.index < 1 then
      Logged.reject .management "FMP image index must start at 1" .malformedCapsule
    else if declared ≠ bytes.length then
      Logged.reject .management
        s!"FMP image item declares {Text.hex declared} bytes, item is {Text.hex bytes.length} bytes"
        (.sizeMismatch declared bytes.length)
    else
      return {
        version
        imageType := fields.imageType
        index := fields.index
        hardwareInstance
        capsuleSupport
        payload := rest.take fields.imageSize.toNat
        vendorCode := rest.drop fields.imageSize.toNat }

def report (item : Item) : String :=
  let named name value := Text.field 68 name value
  let field name value := named ("EFI_FIRMWARE_MANAGEMENT_CAPSULE_IMAGE_HEADER." ++ name) value
  field "Version" (Text.upperHex 8 item.version.toNat) ++
    field "UpdateImageTypeId" item.imageType.toText ++
    field "UpdateImageIndex" (Text.upperHex 8 item.index.toNat) ++
    field "UpdateImageSize" (Text.upperHex 8 item.payload.length) ++
    field "UpdateVendorCodeSize" (Text.upperHex 8 item.vendorCode.length) ++
    (if 2 ≤ item.version then
      field "UpdateHardwareInstance" (Text.upperHex 16 item.hardwareInstance.toNat)
    else "") ++
    (if 3 ≤ item.version then
      field "ImageCapsuleSupport" (Text.upperHex 16 item.capsuleSupport.toNat)
    else "") ++
    named "sizeof (Payload)" (Text.upperHex 8 item.payload.length) ++
    named "sizeof (VendorCodeBytes)" (Text.upperHex 8 item.vendorCode.length)

end Item

end FirmwareCapsule.Management
