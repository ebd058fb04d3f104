import FirmwareCapsule.Text.Digits

namespace FirmwareCapsule

/-! Why an operation on a capsule is refused, what the user is told, and which
firmware status stands for it. -/

inductive Fault where
  | fieldCutShort
  | certificateCutShort
  | headerCutShort
  | sizeMismatch (declared found : Nat)
  | malformedCapsule
  | foreignCertificateFormat
  | foreignCertificateType
  /-- A reset is asked for without the capsule persisting across it. -/
  | resetWithoutPersistence
  | secondPayload
  | noPayload
  | noSuchImage
  /-- A public key or signature does not have 256 bytes. -/
  | certificateFieldSize (found : Nat)
  /-- A size does not fit its 32-bit field. -/
  | payloadTooLarge
  | signingFailed
  | unusableKey
deriving DecidableEq, Repr

namespace Fault

def message : Fault → String
  | fieldCutShort => "buffer too short for fixed-size field"
  | certificateCutShort => "buffer too short for RSA2048/SHA256 certificate block"
  | headerCutShort => "buffer too short for UEFI capsule header"
  | sizeMismatch declared found =>
      s!"size mismatch: header declares {Text.hex declared} bytes, found {Text.hex found}"
  | malformedCapsule => "malformed FMP capsule"
  | foreignCertificateFormat => "unsupported WIN_CERTIFICATE format"
  | foreignCertificateType => "unsupported certificate type GUID"
  | resetWithoutPersistence => "InitiateReset requires PersistAcrossReset"
  | secondPayload => "only one payload per capsule is supported"
  | noPayload => "no payload added to FMP capsule"
  | noSuchImage => "FMP capsule image index out of range"
  | certificateFieldSize found =>
      s!"expected 256 bytes of certificate data, found {Text.decimal found}"
  | payloadTooLarge => "payload too large for capsule"
  | signingFailed => "can not sign payload"
  | unusableKey => "private key unreadable or invalid"

example : (sizeMismatch 0x20 0x1c).message =
    "size mismatch: header declares 0x20 bytes, found 0x1c" := rfl

def unlessRefused {α : Type} (value : α) : List Fault → Except Fault α
  | [] => .ok value
  | first :: _ => .error first

theorem unlessRefused_eq_ok_iff {α : Type} {value result : α} {reasons : List Fault} :
    unlessRefused value reasons = .ok result ↔ reasons = [] ∧ result = value := by
  cases reasons with
  | nil => simp [unlessRefused, eq_comm]
  | cons first others => simp [unlessRefused]

theorem unlessRefused_eq_error_iff {α : Type} {value : α} {reasons : List Fault}
    {fault : Fault} : unlessRefused value reasons = .error fault ↔ reasons.head? = some fault := by
  cases reasons with
  | nil => simp [unlessRefused]
  | cons first others => simp [unlessRefused]

end Fault

inductive Status where
  | invalidParameter
  | unsupported
  | badBufferSize
  | volumeCorrupted
  | securityViolation
deriving DecidableEq, Repr

/-- The status word. The top bit marks a status as an error. -/
def Status.code : Status → UInt64
  | invalidParameter => 0x8000000000000002
  | unsupported => 0x8000000000000003
  | badBufferSize => 0x8000000000000004
  | volumeCorrupted => 0x800000000000000A
  | securityViolation => 0x800000000000001A

/-- Whatever is wrong with the bytes of a capsule is corruption; a capsule that
is sound but foreign is unsupported; a request that cannot be met is an invalid
parameter. -/
def Fault.status : Fault → Status
  | fieldCutShort | certificateCutShort | headerCutShort | sizeMismatch _ _
  | malformedCapsule => .volumeCorrupted
  | foreignCertificateFormat | foreignCertificateType => .unsupported
  | resetWithoutPersistence | secondPayload | noPayload | noSuchImage
  | certificateFieldSize _ => .invalidParameter
  | payloadTooLarge => .badBufferSize
  | signingFailed | unusableKey => .securityViolation

end FirmwareCapsule
