import FirmwareCapsule.Assembly
import FirmwareCapsule.Proofs.Layers.Form
import FirmwareCapsule.Proofs.Management.Run
import FirmwareCapsule.Proofs.Signing

namespace FirmwareCapsule.Assembly

/-! What is assembled is read back: every choice, everything that is fixed, the
answers of the signer, and the payload. -/

/-! ## Choices -/

namespace Choice

def capsuleGuid? : Choice → Option Guid
  | capsuleGuid guid => some guid
  | _ => none

def hardwareInstance? : Choice → Option UInt64
  | hardwareInstance number => some number
  | _ => none

def monotonicCount? : Choice → Option UInt64
  | monotonicCount count => some count
  | _ => none

def oemFlags? : Choice → Option UInt16
  | oemFlags flags => some flags
  | _ => none

def persistAcrossReset? : Choice → Option Bool
  | persistAcrossReset chosen => some chosen
  | _ => none

def initiateReset? : Choice → Option Bool
  | initiateReset chosen => some chosen
  | _ => none

def lastOr {α : Type} (value? : Choice → Option α) (otherwise : α) (choices : List Choice) : α :=
  (choices.filterMap value?).getLastD otherwise

theorem lastOr_cons {α : Type} (value? : Choice → Option α) (otherwise : α) (choice : Choice)
    (choices : List Choice) :
    lastOr value? otherwise (choice :: choices) =
      lastOr value? ((value? choice).getD otherwise) choices := by
  rw [lastOr, lastOr]
  cases made : value? choice with
  | none => rw [List.filterMap_cons_none made, Option.getD_none]
  | some value => rw [List.filterMap_cons_some made, Option.getD_some, List.getLastD_cons]

end Choice

theorem chooseAll_eq (assembly : Assembly) (choices : List Choice) :
    assembly.chooseAll choices =
      { capsuleGuid := Choice.lastOr Choice.capsuleGuid? assembly.capsuleGuid choices
        imageType := assembly.imageType
        hardwareInstance :=
          Choice.lastOr Choice.hardwareInstance? assembly.hardwareInstance choices
        monotonicCount := Choice.lastOr Choice.monotonicCount? assembly.monotonicCount choices
        oemFlags := Choice.lastOr Choice.oemFlags? assembly.oemFlags choices
        persistAcrossReset :=
          Choice.lastOr Choice.persistAcrossReset? assembly.persistAcrossReset choices
        initiateReset := Choice.lastOr Choice.initiateReset? assembly.initiateReset choices } := by
  induction choices generalizing assembly with
  | nil => rfl
  | cons choice choices induction =>
      rw [chooseAll, List.foldl_cons, ← chooseAll, induction]
      simp only [Choice.lastOr_cons]
      cases choice <;> rfl

/-! ## Layers -/

def item (assembly : Assembly) (certificate : Certificate) (payload : Bytes) : Management.Item :=
  .ofPayload assembly.imageType
    (AuthenticatedImage.toBytes ⟨assembly.monotonicCount, certificate, payload⟩)
    assembly.hardwareInstance

def layers (assembly : Assembly) (certificate : Certificate) (payload : Bytes) : Layers where
  envelope := assembly.envelope
    (Management.Capsule.writtenBytes ⟨0, [16], [assembly.item certificate payload]⟩)
  management := ⟨0, [16], [assembly.item certificate payload]⟩
  image := ⟨assembly.monotonicCount, certificate, payload⟩

variable {assembly : Assembly} {payload : Bytes} {certificate : Certificate}

theorem length_payload_item (assembly : Assembly) (certificate : Certificate) (payload : Bytes) :
    (assembly.item certificate payload).payload.length = payload.length + 560 := by
  change (AuthenticatedImage.toBytes ⟨assembly.monotonicCount, certificate, payload⟩).length = _
  rw [AuthenticatedImage.length_toBytes]
  exact Nat.add_comm 560 payload.length

theorem length_toBytes_item (assembly : Assembly) (certificate : Certificate)
    (payload : Bytes) :
    (assembly.item certificate payload).toBytes.length = payload.length + 600 := by
  rw [Management.Item.toBytes_eq_form, Management.Item.length_form, length_payload_item]
  change 40 + (payload.length + 560) + 0 = payload.length + 600
  omega

theorem imageSize_layers (assembly : Assembly) (certificate : Certificate) (payload : Bytes) :
    (assembly.layers certificate payload).envelope.imageSize = payload.length + 644 := by
  change 28 + (Management.Capsule.writtenBytes
    ⟨0, [16], [assembly.item certificate payload]⟩).length = payload.length + 644
  rw [Management.Capsule.length_writtenBytes, List.map_cons, List.map_nil, List.flatten_singleton,
    length_toBytes_item]
  change 28 + (16 + (payload.length + 600)) = payload.length + 644
  omega

theorem wellFormed_item (fits : payload.length + 560 < UInt32.size) :
    (assembly.item certificate payload).WellFormed := by
  rw [← length_payload_item assembly certificate payload] at fits
  exact Management.Capsule.wellFormed_ofPayload assembly.imageType assembly.hardwareInstance fits

theorem writable_item (fits : payload.length + 560 < UInt32.size) (offsets : List UInt64) :
    Management.Capsule.Writable ⟨0, offsets, [assembly.item certificate payload]⟩ where
  staged := List.cons_ne_nil _ _
  count := (by decide : 1 < UInt16.size)
  fits := by
    intro item member
    rw [List.mem_singleton.mp member]
    exact (wellFormed_item fits).toFits

/-- What assembling ends in once the payload is signed. The item has to fit its size
field before the flags are looked at. -/
theorem outcome_encode {signer : Signing.Signer}
    (signed : (Signing.signPayload signer payload assembly.monotonicCount).outcome =
      .ok certificate) :
    (assembly.encode payload signer).outcome =
      if payload.length + 560 < UInt32.size then
        (assembly.layers certificate payload).envelope.encode.outcome
      else
        .error .payloadTooLarge := by
  have staged : (Management.Capsule.empty.addPayload assembly.imageType
      (AuthenticatedImage.toBytes ⟨assembly.monotonicCount, certificate, payload⟩)
      assembly.hardwareInstance).outcome =
        .ok ⟨0, [], [assembly.item certificate payload]⟩ := rfl
  rw [encode]
  rw [Traced.outcome_bind_of_ok signed, Signing.outcome_lift_bind_of_ok rfl,
    Signing.outcome_lift_bind_of_ok rfl, Signing.outcome_lift_bind_of_ok staged]
  split
  · rename_i fits
    have written :
        (Management.Capsule.encode ⟨0, [], [assembly.item certificate payload]⟩).outcome =
          .ok ((assembly.layers certificate payload).envelope.payload,
            (assembly.layers certificate payload).management) :=
      (writable_item fits []).outcome_encode
    rw [Signing.outcome_lift_bind_of_ok written]
    dsimp only
    rw [Signing.outcome_lift_bind_of_ok rfl]
    change Traced.outcome (liftM (assembly.layers certificate payload).envelope.encode >>= _) = _
    cases last : (assembly.layers certificate payload).envelope.encode.outcome with
    | error fault => exact Signing.outcome_lift_bind_of_error last _
    | ok bytes =>
        rw [Signing.outcome_lift_bind_of_ok last]
        rfl
  · rename_i large
    rw [← length_payload_item assembly certificate payload] at large
    exact Signing.outcome_lift_bind_of_error
      (Management.Capsule.outcome_encode_of_large rfl large) _

theorem outcome_encode_of_size {signer : Signing.Signer}
    (signed : (Signing.signPayload signer payload assembly.monotonicCount).outcome =
      .ok certificate)
    (kept : assembly.initiateReset = true → assembly.persistAcrossReset = true)
    (size : payload.length + 644 < UInt32.size) :
    (assembly.encode payload signer).outcome =
      .ok (assembly.layers certificate payload).envelope.toBytes := by
  have flags : ¬ (assembly.initiateReset && !assembly.persistAcrossReset) = true := by
    cases initiate : assembly.initiateReset with
    | false => simp
    | true => simp [kept initiate]
  have headerLong : ¬ (assembly.layers certificate payload).envelope.headerSize.toNat <
      Envelope.fieldsSize :=
    Nat.lt_irrefl 28
  have itemFits : payload.length + 560 < UInt32.size := by
    omega
  have sizeFits : ¬ payload.length + 644 ≥ UInt32.size := Nat.not_le.mpr size
  rw [outcome_encode signed, if_pos itemFits, Envelope.outcome_encode, imageSize_layers,
    if_neg headerLong, if_neg sizeFits]
  exact if_neg flags

theorem outcome_decode_layers (size : payload.length + 644 < UInt32.size) :
    (Layers.decode (assembly.layers certificate payload).envelope.toBytes).outcome =
      .ok (assembly.layers certificate payload) := by
  have itemFits : payload.length + 560 < UInt32.size := by
    omega
  have wellFormed : ∀ item ∈ (assembly.layers certificate payload).management.items,
      item.WellFormed := by
    intro item member
    rw [List.mem_singleton.mp member]
    exact wellFormed_item itemFits
  have headerLong :
      Envelope.fieldsSize ≤ (assembly.layers certificate payload).envelope.headerSize.toNat :=
    Nat.le_refl 28
  have fits : (assembly.layers certificate payload).envelope.imageSize < UInt32.size := by
    rw [imageSize_layers]
    exact size
  exact Layers.outcome_decode_toBytes headerLong fits rfl (writable_item itemFits [16]) wellFormed
    rfl rfl

theorem exists_layers_of_outcome_encode {signer : Signing.Signer} {bytes : Bytes}
    (built : (assembly.encode payload signer).outcome = .ok bytes) :
    ∃ certificate,
      (Signing.signPayload signer payload assembly.monotonicCount).outcome = .ok certificate ∧
      (Layers.decode bytes).outcome = .ok (assembly.layers certificate payload) := by
  cases signed : (Signing.signPayload signer payload assembly.monotonicCount).outcome with
  | error fault =>
      rw [encode, Traced.outcome_bind_of_error signed] at built
      cases built
  | ok certificate =>
      refine ⟨certificate, rfl, ?_⟩
      rw [outcome_encode signed] at built
      split at built
      · rw [Envelope.outcome_encode, imageSize_layers] at built
        split at built
        · cases built
        split at built
        · cases built
        split at built
        · cases built
        rename_i size
        cases built
        exact outcome_decode_layers (Nat.not_le.mp size)
      · cases built

/-! ## Reading back -/

structure ReadsBack (imageType : Guid) (choices : List Choice) (payload : Bytes)
    (signer : Signing.Signer) (layers : Layers) : Prop where
  capsuleGuid : layers.envelope.capsuleGuid =
    Choice.lastOr Choice.capsuleGuid? Envelope.managementGuid choices
  headerSize : layers.envelope.headerSize = 28
  oemFlags : layers.envelope.oemFlags = Choice.lastOr Choice.oemFlags? 0 choices
  persistAcrossReset : layers.envelope.persistAcrossReset =
    Choice.lastOr Choice.persistAcrossReset? false choices
  populateSystemTable : layers.envelope.populateSystemTable = false
  initiateReset : layers.envelope.initiateReset =
    Choice.lastOr Choice.initiateReset? false choices
  driverCount : layers.management.driverCount = 0
  itemOffsets : layers.management.itemOffsets = [16]
  items : layers.management.items =
    [{ version := 2
       imageType
       index := 1
       hardwareInstance := Choice.lastOr Choice.hardwareInstance? 0 choices
       capsuleSupport := 0
       payload := layers.image.toBytes
       vendorCode := [] }]
  monotonicCount : layers.image.monotonicCount = Choice.lastOr Choice.monotonicCount? 0 choices
  hashType : layers.image.certificate.hashType = Certificate.sha256HashType
  publicKey : ∃ modulus, (signer.answer .publicModulus).outcome = .ok modulus ∧
    bigEndianValue layers.image.certificate.publicKey.bytes = bigEndianValue modulus
  signature : (signer.answer (.signature
      (Signing.signedBlob payload (Choice.lastOr Choice.monotonicCount? 0 choices)))).outcome =
    .ok layers.image.certificate.signature.bytes
  payload : layers.payload = payload

theorem assembled_is_read_back (imageType : Guid) (choices : List Choice) (payload : Bytes)
    (signer : Signing.Signer) {bytes : Bytes}
    (built : (((ofImageType imageType).chooseAll choices).encode payload signer).outcome =
      .ok bytes) :
    ∃ layers, (Layers.decode bytes).outcome = .ok layers ∧
      ReadsBack imageType choices payload signer layers := by
  rw [chooseAll_eq] at built
  rcases exists_layers_of_outcome_encode built with ⟨certificate, signed, accepted⟩
  rcases Signing.outcome_signPayload_eq_ok_iff.mp signed with
    ⟨hashType, ⟨modulus, modulusGiven, normalized⟩, signatureGiven⟩
  refine ⟨_, accepted, ?_⟩
  exact {
    capsuleGuid := rfl
    headerSize := rfl
    oemFlags := rfl
    persistAcrossReset := rfl
    populateSystemTable := rfl
    initiateReset := rfl
    driverCount := rfl
    itemOffsets := rfl
    items := rfl
    monotonicCount := rfl
    hashType := hashType
    publicKey := ⟨modulus, modulusGiven, Signing.bigEndianValue_of_normalizeModulus? normalized⟩
    signature := signatureGiven
    payload := rfl }

theorem assembled_is_read_back_with_repeated_choices :
    let choices : List Choice := [.oemFlags 1, .persistAcrossReset true, .oemFlags 2]
    let signer := Signing.Signer.constant (.ok [0, 5]) (.ok (Block.zero 256).bytes)
    ∃ bytes,
      (((ofImageType .zero).chooseAll choices).encode [7, 8, 9] signer).outcome = .ok bytes ∧
      ∃ layers, (Layers.decode bytes).outcome = .ok layers ∧
        ReadsBack .zero choices [7, 8, 9] signer layers := by
  intro choices signer
  have keySize : (List.replicate 255 0 ++ [5] : Bytes).length = 256 := by
    rw [List.length_append, List.length_replicate, List.length_singleton]
  have normalized :
      Signing.normalizeModulus? [0, 5] = some ⟨List.replicate 255 0 ++ [5], keySize⟩ :=
    Block.ofBytes?_eq_some_iff.mpr rfl
  have signed : (Signing.signPayload signer [7, 8, 9] 0).outcome =
      .ok ⟨Certificate.sha256HashType, ⟨List.replicate 255 0 ++ [5], keySize⟩, .zero 256⟩ :=
    Signing.outcome_signPayload_eq_ok_iff.mpr ⟨rfl, ⟨[0, 5], rfl, normalized⟩, rfl⟩
  have built : (((ofImageType .zero).chooseAll choices).encode [7, 8, 9] signer).outcome = _ :=
    outcome_encode_of_size signed (fun initiate => nomatch initiate)
      (by decide : 3 + 644 < UInt32.size)
  exact ⟨_, built, assembled_is_read_back .zero choices [7, 8, 9] signer built⟩

end FirmwareCapsule.Assembly
