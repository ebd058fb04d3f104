import FirmwareCapsule.AuthenticatedImage
import FirmwareCapsule.Envelope.Basic
import FirmwareCapsule.Management.Capsule
import FirmwareCapsule.Signing.Basic

namespace FirmwareCapsule

/-! Assembling a signed capsule around a payload, from the inside out. -/

structure Assembly where
  capsuleGuid : Guid
  imageType : Guid
  hardwareInstance : UInt64
  monotonicCount : UInt64
  oemFlags : UInt16
  persistAcrossReset : Bool
  initiateReset : Bool
deriving DecidableEq

namespace Assembly

def ofImageType (imageType : Guid) : Assembly where
  capsuleGuid := Envelope.managementGuid
  imageType
  hardwareInstance := 0
  monotonicCount := 0
  oemFlags := 0
  persistAcrossReset := false
  initiateReset := false

inductive Choice where
  | capsuleGuid (guid : Guid)
  | hardwareInstance (number : UInt64)
  | monotonicCount (count : UInt64)
  | oemFlags (flags : UInt16)
  | persistAcrossReset (chosen : Bool)
  | initiateReset (chosen : Bool)
deriving DecidableEq

def choose (assembly : Assembly) : Choice → Assembly
  | .capsuleGuid guid => { assembly with capsuleGuid := guid }
  | .hardwareInstance number => { assembly with hardwareInstance := number }
  | .monotonicCount count => { assembly with monotonicCount := count }
  | .oemFlags flags => { assembly with oemFlags := flags }
  | .persistAcrossReset chosen => { assembly with persistAcrossReset := chosen }
  | .initiateReset chosen => { assembly with initiateReset := chosen }

def chooseAll (assembly : Assembly) (choices : List Choice) : Assembly :=
  choices.foldl choose assembly

def envelope (assembly : Assembly) (content : Bytes) : Envelope :=
  { Envelope.ofPayload assembly.capsuleGuid content with
    oemFlags := assembly.oemFlags
    persistAcrossReset := assembly.persistAcrossReset
    initiateReset := assembly.initiateReset }

def encode (assembly : Assembly) (payload : Bytes) (signer : Signing.Signer) :
    Signing.Action Bytes := do
  let certificate ← Signing.signPayload signer payload assembly.monotonicCount
  let image : AuthenticatedImage := ⟨assembly.monotonicCount, certificate, payload⟩
  Logged.info .assembly image.report
  let imageBytes ← image.encode
  let staged ←
    Management.Capsule.empty.addPayload assembly.imageType imageBytes assembly.hardwareInstance
  let (content, management) ← staged.encode
  Logged.info .assembly management.report
  let envelope := assembly.envelope content
  let capsule ← envelope.encode
  Logged.info .assembly envelope.report
  return capsule

end Assembly

end FirmwareCapsule
