import FirmwareCapsule.Envelope.Flags
import FirmwareCapsule.Guid.Text
import FirmwareCapsule.Text.Report
import FirmwareCapsule.Traced

namespace FirmwareCapsule

/-! The envelope of a capsule: the header that firmware reads first, and the
content behind it. The header may be longer than its fields; the content always
starts where the header says that it ends. -/

structure Envelope where
  /-- The format of the content. -/
  capsuleGuid : Guid
  headerSize : UInt32
  oemFlags : UInt16
  persistAcrossReset : Bool
  populateSystemTable : Bool
  initiateReset : Bool
  payload : Bytes
deriving DecidableEq

namespace Envelope

def managementGuid : Guid :=
  .ofGroups 0x6dcbd5ed 0xe82d 0x4c44 0xbda1 0x7194199ad92a

structure Header where
  capsuleGuid : Guid
  headerSize : UInt32
  flags : UInt32
  imageSize : UInt32
deriving DecidableEq

def Header.layout : Layout Header :=
  (Guid.layout.pair (Layout.word32.pair (Layout.word32.pair Layout.word32))).equivalent
    (fun fields => ⟨fields.1, fields.2.1, fields.2.2.1, fields.2.2.2⟩)
    (fun header => (header.capsuleGuid, header.headerSize, header.flags, header.imageSize))
    (fun _ => rfl) (fun _ => rfl)

def fieldsSize : Nat := 28

@[simp] theorem width_headerLayout : Header.layout.width = fieldsSize := rfl

def ofPayload (capsuleGuid : Guid) (payload : Bytes) : Envelope where
  capsuleGuid
  headerSize := 28
  oemFlags := 0
  persistAcrossReset := false
  populateSystemTable := false
  initiateReset := false
  payload

def flags (envelope : Envelope) : Flags :=
  .compose envelope.oemFlags envelope.persistAcrossReset envelope.populateSystemTable
    envelope.initiateReset

def imageSize (envelope : Envelope) : Nat :=
  envelope.headerSize.toNat + envelope.payload.length

def toBytes (envelope : Envelope) : Bytes :=
  Header.layout.encode
      ⟨envelope.capsuleGuid, envelope.headerSize, envelope.flags.bits,
        UInt32.ofNat envelope.imageSize⟩ ++
    (List.replicate (envelope.headerSize.toNat - fieldsSize) 0 ++ envelope.payload)

/-- Write an envelope. Without persistence a reset would lose the capsule, so
that combination is refused; an unpopulated system table loses nothing, so that
one is only warned about. -/
def encode (envelope : Envelope) : Logged Bytes := do
  if envelope.initiateReset && !envelope.persistAcrossReset then
    Logged.reject .envelope
      "CAPSULE_FLAGS_INITIATE_RESET requires CAPSULE_FLAGS_PERSIST_ACROSS_RESET"
      .resetWithoutPersistence
  else
    if envelope.populateSystemTable && !envelope.persistAcrossReset then
      Logged.warn .envelope
        "CAPSULE_FLAGS_POPULATE_SYSTEM_TABLE set without CAPSULE_FLAGS_PERSIST_ACROSS_RESET"
    if envelope.headerSize.toNat < fieldsSize then
      Logged.reject .envelope
        s!"capsule header size {Text.hex envelope.headerSize.toNat} is below {Text.hex fieldsSize}"
        .malformedCapsule
    else if envelope.imageSize ≥ UInt32.size then
      Logged.reject .envelope
        s!"capsule of {Text.hex envelope.imageSize} bytes does not fit CapsuleImageSize"
        .payloadTooLarge
    else
      Logged.debug .envelope
        s!"UEFI capsule header wraps {Text.hex envelope.payload.length} payload bytes"
      return envelope.toBytes

def ofHeader (header : Header) (payload : Bytes) : Envelope where
  capsuleGuid := header.capsuleGuid
  headerSize := header.headerSize
  oemFlags := (Flags.mk header.flags).oemBits
  persistAcrossReset := (Flags.mk header.flags).contains .persistAcrossReset
  populateSystemTable := (Flags.mk header.flags).contains .populateSystemTable
  initiateReset := (Flags.mk header.flags).contains .initiateReset
  payload

def decode (buffer : Bytes) : Logged Envelope := do
  match Header.layout.take? buffer with
  | none =>
      Logged.reject .envelope
        s!"{Text.hex buffer.length} bytes is too small for a capsule header" .headerCutShort
  | some (header, _) =>
      let headerSize := header.headerSize.toNat
      if headerSize < fieldsSize then
        Logged.reject .envelope
          s!"capsule header size {Text.hex headerSize} is below {Text.hex fieldsSize}"
          .malformedCapsule
      else if buffer.length < headerSize then
        Logged.reject .envelope
          s!"capsule header size {Text.hex headerSize} exceeds {Text.hex buffer.length} byte buffer"
          .headerCutShort
      else if header.imageSize.toNat ≠ buffer.length then
        Logged.reject .envelope
          s!"CapsuleImageSize {Text.hex header.imageSize.toNat} does not match {Text.hex buffer.length} byte buffer"
          (.sizeMismatch header.imageSize.toNat buffer.length)
      else
        let reserved := (Flags.mk header.flags).reserved
        if reserved ≠ 0 then
          Logged.warn .envelope
            s!"ignoring reserved capsule flag bits {Text.markedHex 8 reserved.toNat}"
        Logged.debug .envelope
          s!"UEFI capsule header {header.capsuleGuid.toText} holds {Text.hex (buffer.length - headerSize)} payload bytes"
        return ofHeader header (buffer.drop headerSize)

def report (envelope : Envelope) : String :=
  let field := Text.field 35
  let mark (chosen : Bool) name := if chosen then "  " ++ name ++ "\n" else ""
  field "EFI_CAPSULE_HEADER.CapsuleGuid" envelope.capsuleGuid.toText ++
    field "EFI_CAPSULE_HEADER.HeaderSize" (Text.upperHex 8 envelope.headerSize.toNat) ++
    field "EFI_CAPSULE_HEADER.Flags" (Text.upperHex 8 envelope.flags.bits.toNat) ++
    field "  OEM Flags" (Text.upperHex 4 envelope.oemFlags.toNat) ++
    mark envelope.persistAcrossReset "CAPSULE_FLAGS_PERSIST_ACROSS_RESET" ++
    mark envelope.populateSystemTable "CAPSULE_FLAGS_POPULATE_SYSTEM_TABLE" ++
    mark envelope.initiateReset "CAPSULE_FLAGS_INITIATE_RESET" ++
    field "EFI_CAPSULE_HEADER.CapsuleImageSize" (Text.upperHex 8 envelope.imageSize) ++
    field "sizeof (Payload)" (Text.upperHex 8 envelope.payload.length)

end Envelope

end FirmwareCapsule
