import FirmwareCapsule.Layers
import FirmwareCapsule.Proofs.AuthenticatedImage
import FirmwareCapsule.Proofs.Envelope.Form
import FirmwareCapsule.Proofs.Management.Writing

namespace FirmwareCapsule.Layers

/-! Reading all layers, layer by layer. -/

def decodeContent (envelope : Envelope) : Logged Layers := do
  let management ← Management.Capsule.decode envelope.payload
  let item ← management.item 0
  let image ← AuthenticatedImage.decode item.payload
  return ⟨envelope, management, image⟩

theorem outcome_decode (buffer : Bytes) :
    (decode buffer).outcome = (Envelope.decode buffer >>= decodeContent).outcome := by
  rw [decode, Traced.outcome_bind, Traced.outcome_bind]
  cases (Envelope.decode buffer).outcome with
  | error fault => rfl
  | ok envelope =>
      simp only [apply_ite Traced.outcome, Logged.outcome_warn_bind, ite_self]
      rfl

theorem outcome_decode_eq_ok_iff {buffer : Bytes} {layers : Layers} :
    (decode buffer).outcome = .ok layers ↔
      (Envelope.decode buffer).outcome = .ok layers.envelope ∧
      (Management.Capsule.decode layers.envelope.payload).outcome = .ok layers.management ∧
      ∃ item, layers.management.items[0]? = some item ∧
        (AuthenticatedImage.decode item.payload).outcome = .ok layers.image := by
  rw [outcome_decode]
  constructor
  · intro accepted
    rcases Traced.outcome_bind_eq_ok_iff.mp accepted with ⟨envelope, opened, accepted⟩
    rcases Traced.outcome_bind_eq_ok_iff.mp accepted with ⟨management, managed, accepted⟩
    rcases Traced.outcome_bind_eq_ok_iff.mp accepted with ⟨item, first, accepted⟩
    rcases Traced.outcome_bind_eq_ok_iff.mp accepted with ⟨image, authenticated, accepted⟩
    cases accepted
    refine ⟨opened, managed, item, ?_, authenticated⟩
    rw [Management.Capsule.item] at first
    split at first
    · rename_i found
      cases first
      exact found
    · cases first
  · intro layered
    rcases layered with ⟨opened, managed, item, first, authenticated⟩
    have chosen : (layers.management.item 0).outcome = .ok item := by
      rw [Management.Capsule.item, first]
      rfl
    rw [Traced.outcome_bind_of_ok opened, decodeContent, Traced.outcome_bind_of_ok managed,
      Traced.outcome_bind_of_ok chosen, Traced.outcome_bind_of_ok authenticated]
    rfl

theorem outcome_decode_toBytes {envelope : Envelope} {management : Management.Capsule}
    {item : Management.Item} {image : AuthenticatedImage}
    (headerLong : Envelope.fieldsSize ≤ envelope.headerSize.toNat)
    (fits : envelope.imageSize < UInt32.size) (content : envelope.payload = management.writtenBytes)
    (writable : management.Writable) (wellFormed : ∀ item ∈ management.items, item.WellFormed)
    (first : management.items[0]? = some item)
    (nested : item.payload = image.toBytes) :
    (decode envelope.toBytes).outcome = .ok ⟨envelope, management.written, image⟩ := by
  apply outcome_decode_eq_ok_iff.mpr
  refine ⟨Envelope.outcome_decode_toBytes headerLong fits, ?_, item, first, ?_⟩
  · rw [content]
    exact writable.outcome_decode_writtenBytes wellFormed
  · rw [nested]
    exact image.outcome_decode_toBytes

end FirmwareCapsule.Layers
