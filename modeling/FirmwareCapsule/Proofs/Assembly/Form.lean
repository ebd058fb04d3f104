import FirmwareCapsule.Proofs.Assembly
import FirmwareCapsule.Proofs.Envelope.Rewriting
import FirmwareCapsule.Proofs.Management.Format

namespace FirmwareCapsule.Assembly

/-! The form of assembled capsules, byte by byte, and the reasons not to assemble one. -/

def flagWord (assembly : Assembly) : Nat :=
  assembly.oemFlags.toNat + (if assembly.persistAcrossReset then 0x10000 else 0) +
    (if assembly.initiateReset then 0x40000 else 0)

def form (assembly : Assembly) (certificate : Certificate) (payload : Bytes) : Bytes :=
  assembly.capsuleGuid.bytes ++ littleEndian 4 28 ++ littleEndian 4 assembly.flagWord ++
    littleEndian 4 (payload.length + 644) ++
  (littleEndian 4 1 ++ littleEndian 2 0 ++ littleEndian 2 1 ++ littleEndian 8 16) ++
  (littleEndian 4 2 ++ assembly.imageType.bytes ++ [1] ++ [0, 0, 0] ++
    littleEndian 4 (payload.length + 560) ++ littleEndian 4 0 ++
    littleEndian 8 assembly.hardwareInstance.toNat) ++
  (littleEndian 8 assembly.monotonicCount.toNat ++ littleEndian 4 552 ++
    littleEndian 2 0x0200 ++ littleEndian 2 0x0EF1 ++
    [0x14, 0x74, 0x71, 0xA7, 0x16, 0xC6, 0x77, 0x49,
      0x94, 0x20, 0x84, 0x47, 0x12, 0xA7, 0x35, 0xBF]) ++
  (certificate.hashType.bytes ++ certificate.publicKey.bytes ++ certificate.signature.bytes) ++
  payload

theorem toBytes_image (assembly : Assembly) (certificate : Certificate) (payload : Bytes) :
    AuthenticatedImage.toBytes ⟨assembly.monotonicCount, certificate, payload⟩ =
      littleEndian 8 assembly.monotonicCount.toNat ++ littleEndian 4 552 ++
        littleEndian 2 0x0200 ++ littleEndian 2 0x0EF1 ++
        [0x14, 0x74, 0x71, 0xA7, 0x16, 0xC6, 0x77, 0x49,
          0x94, 0x20, 0x84, 0x47, 0x12, 0xA7, 0x35, 0xBF] ++
        (certificate.hashType.bytes ++ certificate.publicKey.bytes ++
          certificate.signature.bytes) ++ payload := by
  simp only [AuthenticatedImage.toBytes, Certificate.encode_eq, List.append_assoc]
  rfl

theorem toBytes_item (assembly : Assembly) (certificate : Certificate) (payload : Bytes) :
    (assembly.item certificate payload).toBytes =
      littleEndian 4 2 ++ assembly.imageType.bytes ++ [1] ++ [0, 0, 0] ++
        littleEndian 4 (payload.length + 560) ++ littleEndian 4 0 ++
        littleEndian 8 assembly.hardwareInstance.toNat ++
        AuthenticatedImage.toBytes ⟨assembly.monotonicCount, certificate, payload⟩ := by
  have hasInstance : 2 ≤ (assembly.item certificate payload).version :=
    (by decide : (2 : UInt32) ≤ 2)
  have noSupport : ¬ 3 ≤ (assembly.item certificate payload).version :=
    (by decide : ¬ (3 : UInt32) ≤ 2)
  rw [Management.Item.toBytes_eq_form, Management.Item.form, length_payload_item,
    if_pos hasInstance, if_neg noSupport, List.append_nil]
  exact List.append_nil _

theorem writtenBytes_item (assembly : Assembly) (certificate : Certificate) (payload : Bytes) :
    Management.Capsule.writtenBytes ⟨0, [16], [assembly.item certificate payload]⟩ =
      littleEndian 4 1 ++ littleEndian 2 0 ++ littleEndian 2 1 ++ littleEndian 8 16 ++
        (assembly.item certificate payload).toBytes := by
  rw [Management.Capsule.writtenBytes, Management.Capsule.front_eq_littleEndian, List.map_cons,
    List.map_nil, List.flatten_singleton]
  rfl

theorem toBytes_layers (assembly : Assembly) (certificate : Certificate) (payload : Bytes) :
    (assembly.layers certificate payload).envelope.toBytes =
      assembly.form certificate payload := by
  have size := imageSize_layers assembly certificate payload
  have flags : (assembly.layers certificate payload).envelope.flags.bits.toNat =
      assembly.flagWord :=
    Flags.toNat_bits_compose assembly.oemFlags assembly.persistAcrossReset false
      assembly.initiateReset
  have content : (assembly.layers certificate payload).envelope.payload =
      Management.Capsule.writtenBytes ⟨0, [16], [assembly.item certificate payload]⟩ := rfl
  have declared : littleEndian 4 (UInt32.ofNat (payload.length + 644)).toNat =
      littleEndian 4 (payload.length + 644) :=
    Layout.encode_word32_ofNat _
  rw [Envelope.toBytes, Envelope.encode_headerLayout, flags, size, declared, content,
    writtenBytes_item, toBytes_item, toBytes_image, form]
  simp only [List.append_assoc]
  rfl

/-! ## Reasons not to assemble -/

def refusals (assembly : Assembly) (payload : Bytes) (signed : Except Fault Certificate) :
    List Fault :=
  (match signed with
    | .ok _ => []
    | .error _ => [.signingFailed]) ++
  (if 2 ^ 32 ≤ payload.length + 560 then [.payloadTooLarge] else []) ++
  (if assembly.initiateReset = true ∧ assembly.persistAcrossReset = false then
    [.resetWithoutPersistence] else []) ++
  (if 2 ^ 32 ≤ payload.length + 644 then [.payloadTooLarge] else [])

variable {assembly : Assembly} {payload : Bytes} {signer : Signing.Signer}
  {certificate : Certificate}

theorem refusals_envelope (assembly : Assembly) (certificate : Certificate) (payload : Bytes) :
    (assembly.layers certificate payload).envelope.refusals =
      (if assembly.initiateReset = true ∧ assembly.persistAcrossReset = false then
        [.resetWithoutPersistence] else []) ++
      (if 2 ^ 32 ≤ payload.length + 644 then [.payloadTooLarge] else []) := by
  have size : 28 + (assembly.layers certificate payload).envelope.payload.length =
      payload.length + 644 := imageSize_layers assembly certificate payload
  change _ ++ [] ++ (if 2 ^ 32 ≤ 28 + (assembly.layers certificate payload).envelope.payload.length
    then _ else _) = _
  rw [size, List.append_nil]
  rfl

theorem outcome_encode_of_signed
    (signed : (Signing.signPayload signer payload assembly.monotonicCount).outcome =
      .ok certificate) :
    (assembly.encode payload signer).outcome =
      Fault.unlessRefused (assembly.form certificate payload)
        (assembly.refusals payload (.ok certificate)) := by
  have wordRange : UInt32.size = 2 ^ 32 := rfl
  rw [outcome_encode signed, Envelope.outcome_encode_eq_refusals, toBytes_layers, refusals,
    List.append_assoc, ← refusals_envelope assembly certificate payload, wordRange]
  by_cases itemFits : payload.length + 560 < 2 ^ 32
  · rw [if_pos itemFits, if_neg (Nat.not_le.mpr itemFits)]
    rfl
  · rw [if_neg itemFits, if_pos (Nat.not_lt.mp itemFits)]
    rfl

/-- A payload that fits the envelope fits the item in it as well. -/
theorem refusals_eq_nil_iff {signed : Except Fault Certificate} :
    assembly.refusals payload signed = [] ↔
      (∃ certificate, signed = .ok certificate) ∧
        (assembly.initiateReset = true → assembly.persistAcrossReset = true) ∧
        payload.length + 644 < 2 ^ 32 := by
  have itemFits : payload.length + 644 < 2 ^ 32 → payload.length + 560 < 2 ^ 32 := by
    omega
  simp only [refusals, List.append_eq_nil_iff, ite_eq_right_iff, List.cons_ne_nil, imp_false,
    Nat.not_le, not_and, Bool.not_eq_false]
  cases signed with
  | error fault => simp
  | ok certificate =>
      simp only [true_and, Except.ok.injEq, exists_eq', and_congr_left_iff, and_iff_right_iff_imp]
      exact fun size _ => itemFits size

/-- An assembly whose flags go together is never refused for its flags. -/
theorem outcome_encode_ne_resetWithoutPersistence
    (kept : assembly.initiateReset = true → assembly.persistAcrossReset = true)
    (payload : Bytes) (signer : Signing.Signer) :
    (assembly.encode payload signer).outcome ≠ .error .resetWithoutPersistence := by
  intro refused
  cases signed : (Signing.signPayload signer payload assembly.monotonicCount).outcome with
  | error fault =>
      rw [encode, Traced.outcome_bind_of_error signed,
        Signing.eq_signingFailed_of_outcome_signPayload signed] at refused
      cases refused
  | ok certificate =>
      have consistent :
          ¬ (assembly.initiateReset = true ∧ assembly.persistAcrossReset = false) := by
        rintro ⟨initiate, lost⟩
        rw [kept initiate] at lost
        cases lost
      rw [outcome_encode_of_signed signed, Fault.unlessRefused_eq_error_iff, refusals,
        if_neg consistent] at refused
      split at refused
      · cases refused
      · split at refused
        · cases refused
        · cases refused

theorem persistAcrossReset_of_outcome_encode {bytes : Bytes}
    (built : (assembly.encode payload signer).outcome = .ok bytes)
    (initiate : assembly.initiateReset = true) : assembly.persistAcrossReset = true := by
  rcases exists_layers_of_outcome_encode built with ⟨certificate, signed, _⟩
  rw [outcome_encode_of_signed signed, Fault.unlessRefused_eq_ok_iff, refusals_eq_nil_iff] at built
  exact built.1.2.1 initiate

structure IsAssembled (assembly : Assembly) (payload : Bytes) (signer : Signing.Signer) :
    Prop where
  written : ∀ bytes, (assembly.encode payload signer).outcome = .ok bytes ↔
    ∃ certificate,
      (Signing.signPayload signer payload assembly.monotonicCount).outcome = .ok certificate ∧
      (assembly.initiateReset = true → assembly.persistAcrossReset = true) ∧
      payload.length + 644 < 2 ^ 32 ∧ bytes = assembly.form certificate payload
  refused : ∀ fault, (assembly.encode payload signer).outcome = .error fault ↔
    (assembly.refusals payload
      (Signing.signPayload signer payload assembly.monotonicCount).outcome).head? = some fault

theorem isAssembled (assembly : Assembly) (payload : Bytes) (signer : Signing.Signer) :
    assembly.IsAssembled payload signer := by
  rcases signed : (Signing.signPayload signer payload assembly.monotonicCount).outcome with
    fault | certificate
  · have ending := Signing.eq_signingFailed_of_outcome_signPayload signed
    have outcome : (assembly.encode payload signer).outcome = .error fault := by
      rw [encode, Traced.outcome_bind_of_error signed]
    constructor
    · rw [outcome, signed]
      simp
    · rw [outcome, signed, ending]
      simp [refusals]
  · have outcome := outcome_encode_of_signed signed
    constructor
    · intro bytes
      rw [outcome, Fault.unlessRefused_eq_ok_iff, refusals_eq_nil_iff, signed]
      constructor
      · rintro ⟨⟨_, kept, size⟩, bytes_eq⟩
        exact ⟨certificate, rfl, kept, size, bytes_eq⟩
      · rintro ⟨other, same, kept, size, bytes_eq⟩
        cases same
        exact ⟨⟨⟨certificate, rfl⟩, kept, size⟩, bytes_eq⟩
    · intro fault
      rw [outcome, Fault.unlessRefused_eq_error_iff, signed]

end FirmwareCapsule.Assembly
