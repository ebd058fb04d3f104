import FirmwareCapsule.Guid.Text
import FirmwareCapsule.Text.Report
import FirmwareCapsule.Traced

namespace FirmwareCapsule

/-! The certificate block of RSA-2048 with SHA-256: which hash was signed, the
public modulus, and the detached signature. The public exponent has no place in
it. -/

structure Certificate where
  hashType : Guid
  /-- The modulus, most significant byte first. -/
  publicKey : Block 256
  signature : Block 256
deriving DecidableEq

namespace Certificate

def sha256HashType : Guid :=
  .ofGroups 0x51aa59de 0xfdf2 0x4ea3 0xbc63 0x875fb7842ee9

def layout : Layout Certificate :=
  (Guid.layout.pair ((Layout.block 256).pair (Layout.block 256))).equivalent
    (fun fields => ⟨fields.1, fields.2.1, fields.2.2⟩)
    (fun certificate => (certificate.hashType, certificate.publicKey, certificate.signature))
    (fun _ => rfl) (fun _ => rfl)

def size : Nat := 528

@[simp] theorem width_layout : layout.width = size := rfl

def ofBytes? (hashType : Guid) (publicKey signature : Bytes) : Except Fault Certificate :=
  match Block.ofBytes? 256 publicKey, Block.ofBytes? 256 signature with
  | some publicKey, some signature => .ok ⟨hashType, publicKey, signature⟩
  | none, _ => .error (.certificateFieldSize publicKey.length)
  | some _, none => .error (.certificateFieldSize signature.length)

theorem ofBytes?_of_sizes {publicKey signature : Bytes} (hashType : Guid)
    (keySize : publicKey.length = 256) (signatureSize : signature.length = 256) :
    ofBytes? hashType publicKey signature =
      .ok ⟨hashType, ⟨publicKey, keySize⟩, ⟨signature, signatureSize⟩⟩ := by
  rw [ofBytes?, Block.ofBytes?, Block.ofBytes?, dif_pos keySize, dif_pos signatureSize]

def encode (certificate : Certificate) : Bytes :=
  layout.encode certificate

theorem encode_eq (certificate : Certificate) :
    certificate.encode = certificate.hashType.bytes ++
      (certificate.publicKey.bytes ++ certificate.signature.bytes) := rfl

@[simp] theorem length_encode (certificate : Certificate) : certificate.encode.length = size :=
  layout.length_encode certificate

def decode (buffer : Bytes) : Logged Certificate :=
  match layout.take? buffer with
  | some (certificate, _) => pure certificate
  | none =>
      Logged.reject .certificate
        s!"certificate block needs {Text.hex size} bytes, only {Text.hex buffer.length} available"
        .certificateCutShort

/-! ## Reports -/

def preview (bytes : Bytes) : String :=
  if bytes.length ≤ 16 then
    Text.upperHexOfBytes bytes
  else
    Text.upperHexOfBytes (bytes.take 8) ++ "..." ++
      Text.upperHexOfBytes (bytes.drop (bytes.length - 8)) ++
      s!" ({Text.hex bytes.length} bytes)"

def report (certificate : Certificate) : String :=
  let field name value := Text.field 40 ("EFI_CERT_BLOCK_RSA_2048_SHA256." ++ name) value
  field "HashType" certificate.hashType.toText ++
    field "PublicKey" (preview certificate.publicKey.bytes) ++
    field "Signature" (preview certificate.signature.bytes)

def summary (certificate : Certificate) : String :=
  "CertBlockRsa2048Sha256 \x7b hash_type: " ++ certificate.hashType.toText ++
    ", public_key: \"" ++ preview certificate.publicKey.bytes ++
    "\", signature: \"" ++ preview certificate.signature.bytes ++ "\" \x7d"

end Certificate

end FirmwareCapsule
