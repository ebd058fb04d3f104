import FirmwareCapsule.Proofs.Assembly
import FirmwareCapsule.Proofs.Envelope.Length

namespace FirmwareCapsule.Layers

/-! Capsules of a wrong length. Where the declared size of the envelope is made to
fit, the capsule inside still tells, since its last item says where it ends. The
image at the core would not: it takes whatever there is. -/

theorem outcome_decode_of_envelope {buffer : Bytes} {fault : Fault}
    (refused : (Envelope.decode buffer).outcome = .error fault) :
    (decode buffer).outcome = .error fault := by
  rw [outcome_decode, Traced.outcome_bind_of_error refused]

theorem outcome_decode_of_management {buffer : Bytes} {envelope : Envelope} {fault : Fault}
    (opened : (Envelope.decode buffer).outcome = .ok envelope)
    (refused : (Management.Capsule.decode envelope.payload).outcome = .error fault) :
    (decode buffer).outcome = .error fault := by
  rw [outcome_decode, Traced.outcome_bind_of_ok opened, decodeContent,
    Traced.outcome_bind_of_error refused]

theorem outcome_decode_take {buffer : Bytes} {layers : Layers} {size : Nat}
    (accepted : (decode buffer).outcome = .ok layers) (shorter : size < buffer.length) :
    (decode (buffer.take size)).outcome =
      if size < layers.envelope.headerSize.toNat then
        .error .headerCutShort
      else
        .error (.sizeMismatch buffer.length size) := by
  have refused :=
    Envelope.outcome_decode_take (outcome_decode_eq_ok_iff.mp accepted).1 shorter
  split at refused
  · rename_i headerCut
    rw [outcome_decode_of_envelope refused, if_pos headerCut]
  · rename_i headerWhole
    rw [outcome_decode_of_envelope refused, if_neg headerWhole]

/-- What is cut off would follow the last item of what is left. -/
theorem refused_management_take {content : Bytes} {capsule : Management.Capsule} {size : Nat}
    (managed : (Management.Capsule.decode content).outcome = .ok capsule)
    (shorter : size < content.length) :
    ∃ fault, (Management.Capsule.decode (content.take size)).outcome = .error fault := by
  cases outcome : (Management.Capsule.decode (content.take size)).outcome with
  | error fault => exact ⟨fault, rfl⟩
  | ok cut =>
      rcases Management.Capsule.last_of_outcome_decode outcome with ⟨last, _, isLast, _, _⟩
      have missing : content.drop size ≠ [] := by
        rw [← List.length_pos_iff, List.length_drop]
        exact Nat.sub_pos_of_lt shorter
      have refused := Management.Capsule.outcome_decode_append outcome isLast missing
      rw [List.take_append_drop, managed] at refused
      cases refused

theorem refused_withDeclaredSize_take {buffer : Bytes} {layers : Layers} {size : Nat}
    (accepted : (decode buffer).outcome = .ok layers) (long : 28 ≤ size)
    (shorter : size < buffer.length) :
    ∃ fault, (decode (Envelope.withDeclaredSize (buffer.take size))).outcome = .error fault := by
  rcases outcome_decode_eq_ok_iff.mp accepted with ⟨opened, managed, _⟩
  have reopened := Envelope.outcome_decode_withDeclaredSize_take opened long shorter
  split at reopened
  · exact ⟨_, outcome_decode_of_envelope reopened⟩
  · rename_i headerWhole
    have contentShorter :
        size - layers.envelope.headerSize.toNat < layers.envelope.payload.length := by
      rw [Envelope.length_payload_of_outcome_decode opened]
      omega
    rcases refused_management_take managed contentShorter with ⟨fault, refused⟩
    exact ⟨fault, outcome_decode_of_management reopened refused⟩

/-- A buffer of layers that is refused at every other length, also where its envelope
is made to declare that length. -/
structure OnlyWhole (buffer : Bytes) (layers : Layers) : Prop where
  cut : ∀ size < buffer.length,
    (decode (buffer.take size)).outcome =
      if size < layers.envelope.headerSize.toNat then
        .error .headerCutShort
      else
        .error (.sizeMismatch buffer.length size)
  cutAndDeclared : ∀ size < buffer.length, 28 ≤ size →
    ∃ fault, (decode (Envelope.withDeclaredSize (buffer.take size))).outcome = .error fault
  /-- The last item is found to be longer than it declares. -/
  extendedAndDeclared : ∃ last start, layers.management.items.getLast? = some last ∧
    layers.management.itemOffsets.getLast? = some start ∧
    start.toNat + last.toBytes.length = layers.envelope.payload.length ∧
    ∀ more ≠ [], buffer.length + more.length < UInt32.size →
      (decode (Envelope.withDeclaredSize (buffer ++ more))).outcome =
        .error (.sizeMismatch last.toBytes.length (last.toBytes.length + more.length))

theorem onlyWhole_of_outcome_decode {buffer : Bytes} {layers : Layers}
    (accepted : (decode buffer).outcome = .ok layers) : OnlyWhole buffer layers := by
  rcases outcome_decode_eq_ok_iff.mp accepted with ⟨opened, managed, _⟩
  rcases Management.Capsule.last_of_outcome_decode managed with
    ⟨last, start, isLast, lastStart, ends⟩
  refine ⟨fun size shorter => outcome_decode_take accepted shorter,
    fun size shorter long => refused_withDeclaredSize_take accepted long shorter,
    last, start, isLast, lastStart, ends, ?_⟩
  intro more present fits
  apply outcome_decode_of_management (Envelope.outcome_decode_withDeclaredSize_append opened fits)
  exact Management.Capsule.outcome_decode_append managed isLast present

theorem onlyWhole_of_three_assembled_bytes :
    let layers := (Assembly.ofImageType .zero).layers ⟨.zero, .zero 256, .zero 256⟩ [7, 8, 9]
    (decode layers.envelope.toBytes).outcome = .ok layers ∧
    OnlyWhole layers.envelope.toBytes layers := by
  intro layers
  have accepted : (decode layers.envelope.toBytes).outcome = .ok layers :=
    Assembly.outcome_decode_layers (by decide : 3 + 644 < UInt32.size)
  exact ⟨accepted, onlyWhole_of_outcome_decode accepted⟩

end FirmwareCapsule.Layers
