import FirmwareCapsule.Certificate

namespace FirmwareCapsule

/-! Authenticated images: an image behind the header that binds it to a
monotonic count and a certificate block. The header is a firmware certificate of
the `WIN_CERTIFICATE` family. The image is whatever follows it, so this layer
alone cannot tell whether the image is complete. Reading does not verify the
signature. -/

structure AuthenticatedImage where
  /-- The count that guards against going back to an older image. -/
  monotonicCount : UInt64
  certificate : Certificate
  payload : Bytes
deriving DecidableEq

namespace AuthenticatedImage

structure Header where
  monotonicCount : UInt64
  /-- The size of the certificate: everything of the header behind the count. -/
  length : UInt32
  revision : UInt16
  format : UInt16
  certificateType : Guid
deriving DecidableEq

def Header.layout : Layout Header :=
  (Layout.word64.pair (Layout.word32.pair (Layout.word16.pair
    (Layout.word16.pair Guid.layout)))).equivalent
    (fun fields =>
      ⟨fields.1, fields.2.1, fields.2.2.1, fields.2.2.2.1, fields.2.2.2.2⟩)
    (fun header =>
      (header.monotonicCount, header.length, header.revision, header.format,
        header.certificateType))
    (fun _ => rfl) (fun _ => rfl)

def headerSize : Nat := 32

@[simp] theorem width_headerLayout : Header.layout.width = headerSize := rfl

def lengthOverhead : Nat := 24

def supportedRevision : UInt16 := 0x0200

def guidFormat : UInt16 := 0x0EF1

def rsa2048Sha256Type : Guid :=
  .ofGroups 0xa7717414 0xc616 0x4977 0x9420 0x844712a735bf

def certificateLength : UInt32 := 552

def Header.ofCount (monotonicCount : UInt64) : Header :=
  ⟨monotonicCount, certificateLength, supportedRevision, guidFormat, rsa2048Sha256Type⟩

def toBytes (image : AuthenticatedImage) : Bytes :=
  Header.layout.encode (.ofCount image.monotonicCount) ++
    (image.certificate.encode ++ image.payload)

theorem length_toBytes (image : AuthenticatedImage) :
    image.toBytes.length = headerSize + Certificate.size + image.payload.length := by
  simp [toBytes, Nat.add_assoc]

def encode (image : AuthenticatedImage) : Logged Bytes := do
  Logged.debug .authentication
    s!"FMP auth header wraps {Text.hex image.payload.length} payload bytes"
  return image.toBytes

/-- Read an authenticated image. The kind of certificate is settled before any
size, so that a foreign certificate is never reported as a size problem. -/
def decode (buffer : Bytes) : Logged AuthenticatedImage := do
  let (header, body) ← Traced.require .fieldCutShort (Header.layout.take? buffer)
  if header.revision ≠ supportedRevision ∨ header.format ≠ guidFormat then
    let foundRevision := Text.markedHex 4 header.revision.toNat
    let foundFormat := Text.markedHex 4 header.format.toNat
    Logged.reject .authentication
      s!"unsupported WIN_CERTIFICATE revision {foundRevision} type {foundFormat}"
      .foreignCertificateFormat
  else if header.certificateType ≠ rsa2048Sha256Type then
    Logged.reject .authentication
      s!"unsupported certificate type {header.certificateType.toText}"
      .foreignCertificateType
  else if header.length.toNat < lengthOverhead then
    Traced.refuse .certificateCutShort
  else
    let dataSize := header.length.toNat - lengthOverhead
    if headerSize + dataSize > buffer.length then
      Logged.reject .authentication
        s!"certificate data ends at {Text.hex (headerSize + dataSize)}, buffer is {Text.hex buffer.length} bytes"
        .certificateCutShort
    else
      let certificate ← Certificate.decode (body.take dataSize)
      if dataSize ≠ Certificate.size then
        Traced.refuse (.sizeMismatch Certificate.size dataSize)
      else
        return ⟨header.monotonicCount, certificate, body.drop dataSize⟩

def report (image : AuthenticatedImage) : String :=
  let field name value := Text.field 63 ("EFI_FIRMWARE_IMAGE_AUTHENTICATION." ++ name) value
  field "MonotonicCount" (Text.upperHex 16 image.monotonicCount.toNat) ++
    field "AuthInfo.Hdr.dwLength" (Text.upperHex 8 certificateLength.toNat) ++
    field "AuthInfo.Hdr.wRevision" (Text.upperHex 4 supportedRevision.toNat) ++
    field "AuthInfo.Hdr.wCertificateType" (Text.upperHex 4 guidFormat.toNat) ++
    field "AuthInfo.CertType" rsa2048Sha256Type.toText ++
    Text.field 63 "sizeof (Payload)" (Text.upperHex 8 image.payload.length) ++
    image.certificate.report

end AuthenticatedImage

end FirmwareCapsule
