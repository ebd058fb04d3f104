import FirmwareCapsule.Proofs.Signing

namespace FirmwareCapsule.Signing

/-! Moduli as public keys. Every modulus that 256 bytes have room for makes the one key that
stands for the same number, and no other modulus makes a key. So moduli of one number make one
key, however many zeros stand in front of them. -/

variable {modulus other : Bytes} {key otherKey : Block 256}

theorem normalizeModulus?_eq_none_iff :
    normalizeModulus? modulus = none ↔ 2 ^ 2048 ≤ bigEndianValue modulus := by
  constructor
  · intro refused
    apply Nat.not_lt.mp
    intro small
    rcases exists_block_bigEndian 256 (bigEndianValue modulus) with ⟨key, key_eq⟩
    rw [normalizeModulus?_eq_some_iff.mpr ⟨small, key_eq⟩] at refused
    cases refused
  · intro large
    apply Option.eq_none_iff_forall_ne_some.mpr
    intro key normalized
    exact Nat.not_lt.mpr large (normalizeModulus?_eq_some_iff.mp normalized).1

theorem normalizeModulus?_congr (values : bigEndianValue modulus = bigEndianValue other) :
    normalizeModulus? modulus = normalizeModulus? other := by
  apply Option.ext
  intro key
  rw [normalizeModulus?_eq_some_iff, normalizeModulus?_eq_some_iff, values]

theorem eq_iff_of_normalizeModulus? (normalized : normalizeModulus? modulus = some key)
    (otherNormalized : normalizeModulus? other = some otherKey) :
    key = otherKey ↔ bigEndianValue modulus = bigEndianValue other := by
  rw [← bigEndianValue_of_normalizeModulus? normalized,
    ← bigEndianValue_of_normalizeModulus? otherNormalized]
  constructor
  · intro same
    rw [same]
  · exact Block.eq_of_bigEndianValue

structure KeepsNumber (modulus : Bytes) : Prop where
  refused : normalizeModulus? modulus = none ↔ 2 ^ 2048 ≤ bigEndianValue modulus
  taken : bigEndianValue modulus < 2 ^ 2048 →
    ∃ key, normalizeModulus? modulus = some key ∧
      bigEndianValue key.bytes = bigEndianValue modulus ∧
      ∀ other : Block 256, bigEndianValue other.bytes = bigEndianValue modulus → other = key
  leadingZeros : ∀ count,
    normalizeModulus? (List.replicate count 0 ++ modulus) = normalizeModulus? modulus
  same : ∀ other key otherKey, normalizeModulus? modulus = some key →
    normalizeModulus? other = some otherKey →
      (key = otherKey ↔ bigEndianValue modulus = bigEndianValue other)

theorem keepsNumber (modulus : Bytes) : KeepsNumber modulus where
  refused := normalizeModulus?_eq_none_iff
  taken := by
    intro small
    rcases exists_block_bigEndian 256 (bigEndianValue modulus) with ⟨key, key_eq⟩
    have normalized := normalizeModulus?_eq_some_iff.mpr ⟨small, key_eq⟩
    have value := bigEndianValue_of_normalizeModulus? normalized
    refine ⟨key, normalized, value, ?_⟩
    intro other otherValue
    exact Block.eq_of_bigEndianValue (otherValue.trans value.symm)
  leadingZeros := fun count =>
    normalizeModulus?_congr (bigEndianValue_replicate_zero_append count modulus)
  same := fun _ _ _ => eq_iff_of_normalizeModulus?

end FirmwareCapsule.Signing
