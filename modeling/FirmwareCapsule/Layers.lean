import FirmwareCapsule.AuthenticatedImage
import FirmwareCapsule.Envelope.Basic
import FirmwareCapsule.Management.Capsule

namespace FirmwareCapsule

/-! The layers of a capsule: an envelope, the firmware management capsule in it,
and the authenticated image that its first item holds. -/

structure Layers where
  envelope : Envelope
  management : Management.Capsule
  image : AuthenticatedImage
deriving DecidableEq

namespace Layers

def decode (buffer : Bytes) : Logged Layers := do
  let envelope ← Envelope.decode buffer
  if envelope.capsuleGuid ≠ Envelope.managementGuid then
    Logged.warn .assembly
      s!"capsule GUID {envelope.capsuleGuid.toText} is not the FMP capsule id"
  let management ← Management.Capsule.decode envelope.payload
  let item ← management.item 0
  let image ← AuthenticatedImage.decode item.payload
  return ⟨envelope, management, image⟩

def payload (layers : Layers) : Bytes :=
  layers.image.payload

def report (layers : Layers) : String :=
  "========\n" ++ layers.envelope.report ++ "--------\n" ++ layers.management.report ++
    "--------\n" ++ layers.image.report ++ "========\n"

end Layers

end FirmwareCapsule
