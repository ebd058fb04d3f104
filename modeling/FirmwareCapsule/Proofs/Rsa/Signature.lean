import FirmwareCapsule.Proofs.Signing
import FirmwareCapsule.Rsa.Signer

namespace FirmwareCapsule

/-! Signatures of keys that are held in memory. A key signs a number just if its
public exponent undoes its private one there, and nothing is lost when the modulus
and the signature are written as 256 bytes each. -/

theorem add_mul_lt_mul {low width high count : Nat} (lowInside : low < width)
    (highInside : high < count) : low + width * high < width * count :=
  calc
    low + width * high < width + width * high := Nat.add_lt_add_right lowInside _
    _ = width * (high + 1) := by rw [Nat.mul_succ, Nat.add_comm]
    _ ≤ width * count := Nat.mul_le_mul_left _ highInside

namespace Rsa

theorem powerMod_lt {modulus : Nat} (positive : 0 < modulus) (base exponent : Nat) :
    powerMod modulus base exponent < modulus := by
  rw [powerMod_eq]
  exact Nat.mod_lt _ positive

namespace PrivateKey

variable {key : PrivateKey}

theorem primes_of_isConsistent (consistent : key.isConsistent = true) :
    1 < key.firstPrime ∧ 1 < key.secondPrime ∧
      key.firstPrime * key.secondPrime = key.modulus := by
  simp only [isConsistent, Bool.and_eq_true, decide_eq_true_eq] at consistent
  exact ⟨consistent.1.1.1.1.2, consistent.1.1.1.2, consistent.1.1.2⟩

theorem modulus_lt_byteRange (key : PrivateKey) : key.modulus < byteRange key.size := by
  rw [byteRange_eq_two_pow, size]
  exact Nat.lt_of_lt_of_le Nat.lt_log2_self (Nat.pow_le_pow_right (by decide) (by omega))

theorem length_modulusBytes (key : PrivateKey) : key.modulusBytes.length = key.size :=
  length_bigEndian key.size key.modulus

theorem bigEndianValue_modulusBytes (key : PrivateKey) :
    bigEndianValue key.modulusBytes = key.modulus := by
  rw [modulusBytes, bigEndianValue_bigEndian, Nat.mod_eq_of_lt key.modulus_lt_byteRange]

theorem modulus_ne_zero (consistent : key.isConsistent = true) : key.modulus ≠ 0 := by
  rcases primes_of_isConsistent consistent with ⟨firstLarge, secondLarge, product⟩
  rw [← product]
  exact Nat.mul_ne_zero (Nat.ne_zero_of_lt firstLarge) (Nat.ne_zero_of_lt secondLarge)

theorem size_eq_iff {width : Nat} (consistent : key.isConsistent = true) :
    key.size = width + 1 ↔
      byteRange width ≤ key.modulus ∧ key.modulus < byteRange (width + 1) := by
  have nonzero := modulus_ne_zero consistent
  rw [byteRange_eq_two_pow, byteRange_eq_two_pow, ← Nat.le_log2 nonzero, ← Nat.log2_lt nonzero,
    size]
  omega

theorem privatePower_lt (consistent : key.isConsistent = true) (message : Nat) :
    key.privatePower message < key.modulus := by
  rcases primes_of_isConsistent consistent with ⟨firstLarge, secondLarge, product⟩
  have firstPositive : 0 < key.firstPrime := Nat.lt_of_succ_lt firstLarge
  have secondPositive : 0 < key.secondPrime := Nat.lt_of_succ_lt secondLarge
  rw [privatePower]
  split
  · rename_i inverse _
    rw [← product, Nat.mul_comm key.firstPrime]
    exact add_mul_lt_mul (powerMod_lt secondPositive message _) (Nat.mod_lt _ firstPositive)
  · exact powerMod_lt (product ▸ Nat.mul_pos firstPositive secondPositive) message _

/-- A key signs what its public exponent takes back to the padded message. -/
theorem signature?_eq_some_iff {data signature : Bytes} :
    key.signature? data = some signature ↔
      powerMod key.modulus (key.privatePower (bigEndianValue (encodedMessage key.size data)))
          key.publicExponent = bigEndianValue (encodedMessage key.size data) ∧
        signature = bigEndian key.size
          (key.privatePower (bigEndianValue (encodedMessage key.size data))) := by
  rw [signature?, privatePower?]
  generalize bigEndianValue (encodedMessage key.size data) = message
  split
  · rename_i undone
    simp [undone, eq_comm]
  · rename_i kept
    simp [kept]

end PrivateKey

namespace SigningKey

variable {key : SigningKey} {payload : Bytes} {count : UInt64}

def message (payload : Bytes) (count : UInt64) : Nat :=
  bigEndianValue (encodedMessage 256 (Signing.signedBlob payload count))

theorem bigEndianValue_bigEndian_of_lt {number : Nat} (small : number < key.key.modulus) :
    bigEndianValue (bigEndian 256 number) = number := by
  have range := key.key.modulus_lt_byteRange
  rw [key.size_eq] at range
  rw [bigEndianValue_bigEndian, Nat.mod_eq_of_lt (Nat.lt_trans small range)]

theorem outcome_answer_signature_eq_ok_iff {data signature : Bytes} :
    (key.signer.answer (.signature data)).outcome = .ok signature ↔
      key.key.signature? data = some signature := by
  rw [signer]
  dsimp only
  cases key.key.signature? data with
  | some found => simp
  | none => simp [Signing.reject]

theorem values_of_outcome_signPayload {certificate : Certificate}
    (signed : (Signing.signPayload key.signer payload count).outcome = .ok certificate) :
    bigEndianValue certificate.publicKey.bytes = key.key.modulus ∧
      bigEndianValue certificate.signature.bytes = key.key.privatePower (message payload count) ∧
      powerMod key.key.modulus (key.key.privatePower (message payload count))
        key.key.publicExponent = message payload count := by
  rcases Signing.outcome_signPayload_eq_ok_iff.mp signed with
    ⟨_, ⟨modulus, modulusGiven, normalized⟩, signatureGiven⟩
  rw [outcome_answer_signature_eq_ok_iff, PrivateKey.signature?_eq_some_iff, key.size_eq]
    at signatureGiven
  rcases signatureGiven with ⟨undone, signature_eq⟩
  have modulus_eq : modulus = key.key.modulusBytes := (Except.ok.inj modulusGiven).symm
  refine ⟨?_, ?_, undone⟩
  · rw [Signing.bigEndianValue_of_normalizeModulus? normalized, modulus_eq,
      PrivateKey.bigEndianValue_modulusBytes]
  · rw [signature_eq]
    exact bigEndianValue_bigEndian_of_lt (PrivateKey.privatePower_lt key.consistent _)

theorem exists_certificate_iff :
    (∃ certificate, (Signing.signPayload key.signer payload count).outcome = .ok certificate) ↔
      powerMod key.key.modulus (key.key.privatePower (message payload count))
        key.key.publicExponent = message payload count := by
  constructor
  · rintro ⟨certificate, signed⟩
    exact (values_of_outcome_signPayload signed).2.2
  · intro undone
    rcases exists_block_bigEndian 256 key.key.modulus with ⟨publicKey, publicKey_eq⟩
    rcases exists_block_bigEndian 256 (key.key.privatePower (message payload count)) with
      ⟨signature, signature_eq⟩
    refine ⟨⟨Certificate.sha256HashType, publicKey, signature⟩,
      Signing.outcome_signPayload_eq_ok_iff.mpr ⟨rfl,
        ⟨publicKey.bytes, ?_, Signing.normalizeModulus?_bytes publicKey⟩, ?_⟩⟩
    · have given : (key.signer.answer .publicModulus).outcome = .ok key.key.modulusBytes := rfl
      rw [given, PrivateKey.modulusBytes, key.size_eq, publicKey_eq]
    · rw [outcome_answer_signature_eq_ok_iff, PrivateKey.signature?_eq_some_iff, key.size_eq]
      exact ⟨undone, signature_eq⟩

end SigningKey

end Rsa

end FirmwareCapsule
