import FirmwareCapsule.Proofs.Assembly
import FirmwareCapsule.Proofs.Signing.Requests

namespace FirmwareCapsule.Assembly

/-! What a signer is asked while a capsule is assembled: for its modulus, and then for one
signature. What it signs is what is read back from the capsule, and no other payload or
count goes with it. -/

/-! ## Building -/

variable {assembly : Assembly} {payload data : Bytes} {signer : Signing.Signer}

/-- Everything that is asked for is asked for when the payload is signed. -/
theorem exists_next_of_encode (assembly : Assembly) (payload : Bytes) (signer : Signing.Signer) :
    ∃ next : Certificate → Signing.Action Bytes,
      assembly.encode payload signer =
        Signing.signPayload signer payload assembly.monotonicCount >>= next ∧
      ∀ certificate, Signing.OnlyLogs (next certificate) := by
  refine ⟨_, rfl, fun certificate => ?_⟩
  -- Three layers are written and reported on, the item is staged in between.
  iterate 6
    refine Signing.onlyLogs_lift_bind _ fun _ => ?_
  exact Signing.onlyLogs_lift_bind _ fun _ => Signing.onlyLogs_pure _

theorem asksToSign_encode {modulus : Bytes} {publicKey : Block 256}
    (given : (signer.answer .publicModulus).outcome = .ok modulus)
    (normalized : Signing.normalizeModulus? modulus = some publicKey) :
    Signing.AsksToSign signer (Signing.signedBlob payload assembly.monotonicCount)
      (assembly.encode payload signer).events := by
  rcases exists_next_of_encode assembly payload signer with ⟨next, encode_eq, onlyLogs⟩
  rw [encode_eq]
  exact (Signing.asksToSign_signPayload given normalized).bind fun certificate _ =>
    onlyLogs certificate

/-- However a build ends, nothing but its payload with its count was to be signed. -/
theorem eq_signedBlob_of_asksToSign
    (asks : Signing.AsksToSign signer data (assembly.encode payload signer).events) :
    data = Signing.signedBlob payload assembly.monotonicCount := by
  by_cases suitable : ∃ modulus publicKey, (signer.answer .publicModulus).outcome = .ok modulus ∧
      Signing.normalizeModulus? modulus = some publicKey
  · rcases suitable with ⟨modulus, publicKey, given, normalized⟩
    exact asks.data_eq (asksToSign_encode given normalized)
  · rcases exists_next_of_encode assembly payload signer with ⟨next, encode_eq, onlyLogs⟩
    have unsuitable : ∀ modulus, (signer.answer .publicModulus).outcome = .ok modulus →
        Signing.normalizeModulus? modulus = none := by
      intro modulus given
      apply Option.eq_none_iff_forall_ne_some.mpr
      intro publicKey normalized
      exact suitable ⟨modulus, publicKey, given, normalized⟩
    have asksForModulus :
        Signing.AsksForModulus signer (assembly.encode payload signer).events := by
      rw [encode_eq]
      exact (Signing.asksForModulus_signPayload unsuitable).bind fun certificate _ =>
        onlyLogs certificate
    exact absurd asks asksForModulus.not_asksToSign

structure SignsWhatIsRead (assembly : Assembly) (payload : Bytes) (signer : Signing.Signer) :
    Prop where
  asks : ∀ bytes, (assembly.encode payload signer).outcome = .ok bytes →
    ∃ layers, (Layers.decode bytes).outcome = .ok layers ∧
      Signing.AsksToSign signer
        (Signing.signedBlob layers.payload layers.image.monotonicCount)
        (assembly.encode payload signer).events
  /-- The other build may use another signer, and neither of the two has to end well. -/
  binds : ∀ (other : Assembly) (otherPayload : Bytes) (otherSigner : Signing.Signer) (data : Bytes),
    Signing.AsksToSign signer data (assembly.encode payload signer).events →
    Signing.AsksToSign otherSigner data (other.encode otherPayload otherSigner).events →
    payload = otherPayload ∧ assembly.monotonicCount = other.monotonicCount

theorem signsWhatIsRead (assembly : Assembly) (payload : Bytes) (signer : Signing.Signer) :
    SignsWhatIsRead assembly payload signer where
  asks := by
    intro bytes built
    rcases exists_layers_of_outcome_encode built with ⟨certificate, signed, accepted⟩
    rcases Signing.outcome_signPayload_eq_ok_iff.mp signed with
      ⟨_, ⟨modulus, given, normalized⟩, _⟩
    exact ⟨_, accepted, asksToSign_encode given normalized⟩
  binds := by
    intro other otherPayload otherSigner data asks otherAsks
    apply Signing.signedBlob_inj.mp
    rw [← eq_signedBlob_of_asksToSign asks, eq_signedBlob_of_asksToSign otherAsks]

theorem signsWhatIsRead_three_bytes :
    let signer := Signing.Signer.constant (.ok (Block.zero 256).bytes) (.ok (Block.zero 256).bytes)
    let build := { ofImageType .zero with monotonicCount := 0x102 }.encode [7, 8, 9] signer
    ∃ bytes, build.outcome = .ok bytes ∧ ∃ layers, (Layers.decode bytes).outcome = .ok layers ∧
      Signing.requestsOf build.events =
        [.publicModulus,
          .signature (Signing.signedBlob layers.payload layers.image.monotonicCount)] ∧
      Signing.requestsOf build.events =
        [.publicModulus, .signature [7, 8, 9, 2, 1, 0, 0, 0, 0, 0, 0]] := by
  intro signer build
  have signed : (Signing.signPayload signer [7, 8, 9] 0x102).outcome =
      .ok ⟨Certificate.sha256HashType, .zero 256, .zero 256⟩ :=
    Signing.outcome_signPayload_eq_ok_iff.mpr
      ⟨rfl, ⟨_, rfl, Signing.normalizeModulus?_bytes _⟩, rfl⟩
  have built : build.outcome = _ :=
    outcome_encode_of_size signed (fun initiate => nomatch initiate)
      (by decide : 3 + 644 < UInt32.size)
  have answers : ∀ request, Signing.requestsOf (signer.answer request).events = [] := by
    intro request
    cases request <;> rfl
  rcases (signsWhatIsRead _ [7, 8, 9] signer).asks _ built with ⟨layers, accepted, asks⟩
  have requests := asks.requestsOf_eq answers
  refine ⟨_, built, layers, accepted, requests, ?_⟩
  rw [requests, eq_signedBlob_of_asksToSign asks]
  rfl

end FirmwareCapsule.Assembly
