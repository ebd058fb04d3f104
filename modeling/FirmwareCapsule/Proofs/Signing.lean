import FirmwareCapsule.Signing.Basic
import Mathlib.Algebra.Group.Nat.Defs

namespace FirmwareCapsule

/-! What signing asks of a signer, and what it makes of the answers. -/

/-! ## Sizes of numbers -/

theorem byteRange_eq_two_pow (width : Nat) : byteRange width = 2 ^ (8 * width) := by
  induction width with
  | zero => rfl
  | succ width induction =>
      rw [byteRange, induction, Nat.mul_succ, Nat.pow_add, Nat.mul_comm]

theorem byteRange_of_bits {width bits : Nat} (size : 8 * width = bits) :
    byteRange width = 2 ^ bits := by
  rw [byteRange_eq_two_pow, size]

theorem mul_byteRange_of_bits {factor extra width bits : Nat} (power : factor = 2 ^ extra)
    (size : extra + 8 * width = bits) : factor * byteRange width = 2 ^ bits := by
  rw [byteRange_eq_two_pow, power, ← Nat.pow_add, size]

theorem length_dropWhile_zero_le_iff {bytes : Bytes} {width : Nat} :
    (bytes.dropWhile (· = 0)).length ≤ width ↔ bigEndianValue bytes < byteRange width := by
  induction bytes with
  | nil =>
      rw [byteRange_eq_two_pow]
      exact iff_of_true (Nat.zero_le width) (Nat.two_pow_pos _)
  | cons byte rest induction =>
      by_cases zero : byte = 0
      · rw [zero, List.dropWhile_cons_of_pos (by simp), bigEndianValue_zero_cons, induction]
      · have positive : 0 < byte.toNat :=
          Nat.pos_of_ne_zero fun none => zero (UInt8.toNat_inj.mp none)
        have above : byteRange rest.length ≤ bigEndianValue (byte :: rest) := by
          rw [bigEndianValue_cons]
          exact Nat.le_trans (Nat.le_mul_of_pos_right _ positive) (Nat.le_add_left _ _)
        have below := bigEndianValue_lt (byte :: rest)
        rw [List.dropWhile_cons_of_neg (by simpa using zero)]
        rw [byteRange_eq_two_pow] at above below ⊢
        constructor
        · intro short
          exact Nat.lt_of_lt_of_le below (Nat.pow_le_pow_right (by decide) (by omega))
        · intro small
          have places := (Nat.pow_lt_pow_iff_right (by decide)).mp
            (Nat.lt_of_le_of_lt above small)
          rw [List.length_cons]
          omega

namespace Signing

/-! ## Answers -/

theorem outcome_lift_bind_of_ok {α β : Type} {operation : Logged α} {value : α}
    (done : operation.outcome = .ok value) (next : α → Action β) :
    ((liftM operation : Action α) >>= next).outcome = (next value).outcome := by
  have lifted : (liftM operation : Action α).outcome = .ok value := done
  exact Traced.outcome_bind_of_ok lifted next

theorem outcome_lift_bind_of_error {α β : Type} {operation : Logged α} {fault : Fault}
    (refused : operation.outcome = .error fault) (next : α → Action β) :
    ((liftM operation : Action α) >>= next).outcome = .error fault := by
  have lifted : (liftM operation : Action α).outcome = .error fault := refused
  exact Traced.outcome_bind_of_error lifted next

@[simp] theorem outcome_ask (signer : Signer) (request : Request) :
    (signer.ask request).outcome = (signer.answer request).outcome :=
  Traced.outcome_bind_of_ok rfl _

theorem bigEndianValue_of_normalizeModulus? {modulus : Bytes} {key : Block 256}
    (normalized : normalizeModulus? modulus = some key) :
    bigEndianValue key.bytes = bigEndianValue modulus := by
  rw [normalizeModulus?, Block.ofBytes?_eq_some_iff] at normalized
  rw [normalized, bigEndianValue_replicate_zero_append, bigEndianValue_dropWhile_zero]

theorem normalizeModulus?_bytes (key : Block 256) : normalizeModulus? key.bytes = some key := by
  have shorter : (key.bytes.dropWhile (· = 0)).length ≤ 256 :=
    Nat.le_trans (List.dropWhile_sublist _).length_le (Nat.le_of_eq key.length_bytes)
  rw [normalizeModulus?, Block.ofBytes?_eq_some_iff]
  apply bigEndianValue_inj
  · rw [List.length_append, List.length_replicate, key.length_bytes]
    omega
  · rw [bigEndianValue_replicate_zero_append, bigEndianValue_dropWhile_zero]

theorem normalizeModulus?_eq_some_iff {modulus : Bytes} {key : Block 256} :
    normalizeModulus? modulus = some key ↔
      bigEndianValue modulus < 2 ^ 2048 ∧ key.bytes = bigEndian 256 (bigEndianValue modulus) := by
  have range : byteRange 256 = 2 ^ 2048 := byteRange_of_bits rfl
  rw [← range]
  constructor
  · intro normalized
    have value := bigEndianValue_of_normalizeModulus? normalized
    have bound := bigEndianValue_lt key.bytes
    have digits := bigEndian_bigEndianValue key.bytes
    rw [key.length_bytes, value] at bound digits
    exact ⟨bound, digits.symm⟩
  · rintro ⟨small, key_eq⟩
    have short := length_dropWhile_zero_le_iff.mpr small
    rw [normalizeModulus?, Block.ofBytes?_eq_some_iff, key_eq]
    apply bigEndianValue_inj
    · rw [List.length_append, List.length_replicate, length_bigEndian]
      omega
    · rw [bigEndianValue_replicate_zero_append, bigEndianValue_dropWhile_zero,
        bigEndianValue_bigEndian, Nat.mod_eq_of_lt small]

theorem outcome_signPayload_eq_ok_iff {signer : Signer} {payload : Bytes} {count : UInt64}
    {certificate : Certificate} :
    (signPayload signer payload count).outcome = .ok certificate ↔
      certificate.hashType = Certificate.sha256HashType ∧
      (∃ modulus, (signer.answer .publicModulus).outcome = .ok modulus ∧
        normalizeModulus? modulus = some certificate.publicKey) ∧
      (signer.answer (.signature (signedBlob payload count))).outcome =
        .ok certificate.signature.bytes := by
  have asked {request : Request} {text : Fault → String} {answer : Bytes} :
      ((signer.ask request).recover fun fault =>
        reject .signing (text fault) .signingFailed).outcome = .ok answer ↔
      (signer.answer request).outcome = .ok answer := by
    rw [← outcome_ask]
    exact Traced.outcome_recover_eq_ok_iff fun reason => ⟨.signingFailed, rfl⟩
  constructor
  · intro signed
    rw [signPayload] at signed
    rcases Traced.outcome_bind_eq_ok_iff.mp signed with ⟨modulus, modulusGiven, signed⟩
    rw [asked] at modulusGiven
    split at signed
    · cases signed
    rename_i publicKey normalized
    rcases Traced.outcome_bind_eq_ok_iff.mp signed with ⟨signature, signatureGiven, signed⟩
    rw [asked] at signatureGiven
    split at signed
    · cases signed
    rename_i signatureSize
    rw [Traced.outcome_bind_of_ok rfl, Traced.outcome_ofExcept,
      Certificate.ofBytes?_of_sizes _ publicKey.length_bytes (Decidable.not_not.mp signatureSize)] at signed
    cases signed
    exact ⟨rfl, ⟨modulus, modulusGiven, normalized⟩, signatureGiven⟩
  · intro answered
    rcases answered with ⟨sha256, ⟨modulus, modulusGiven, normalized⟩, signatureGiven⟩
    rw [← asked] at modulusGiven signatureGiven
    rw [signPayload]
    rw [Traced.outcome_bind_of_ok modulusGiven, normalized]
    dsimp only
    have signatureSize := certificate.signature.length_bytes
    rw [Traced.outcome_bind_of_ok signatureGiven, if_neg (Decidable.not_not.mpr signatureSize),
      Traced.outcome_bind_of_ok rfl, Traced.outcome_ofExcept,
      Certificate.ofBytes?_of_sizes _ certificate.publicKey.length_bytes signatureSize, ← sha256]

theorem eq_signingFailed_of_outcome_signPayload {signer : Signer} {payload : Bytes}
    {count : UInt64} {fault : Fault}
    (refused : (signPayload signer payload count).outcome = .error fault) :
    fault = .signingFailed := by
  have asked {request : Request} {text : Fault → String} {other : Fault}
      (unanswered : ((signer.ask request).recover fun reason =>
        reject .signing (text reason) .signingFailed).outcome = .error other) :
      other = .signingFailed :=
    Traced.eq_of_outcome_recover (fun _ => rfl) unanswered
  rw [signPayload] at refused
  rcases Traced.outcome_bind_eq_error_iff.mp refused with noModulus | ⟨modulus, _, refused⟩
  · exact asked noModulus
  split at refused
  · exact (Except.error.inj refused).symm
  rename_i publicKey _
  rcases Traced.outcome_bind_eq_error_iff.mp refused with noSignature | ⟨signature, _, refused⟩
  · exact asked noSignature
  split at refused
  · exact (Except.error.inj refused).symm
  -- Both sizes are right by now, and the block is not refused for one of them.
  rename_i signatureSize
  rw [Traced.outcome_bind_of_ok rfl, Traced.outcome_ofExcept,
    Certificate.ofBytes?_of_sizes _ publicKey.length_bytes (Decidable.not_not.mp signatureSize)] at refused
  cases refused

end Signing

end FirmwareCapsule
