import FirmwareCapsule.Proofs.Rsa.Signature
import Mathlib.FieldTheory.Finite.Basic

namespace FirmwareCapsule.Rsa

/-! The exponents of a key undo each other. Where the modulus is the product of two
different primes, the private power is the same whether it is taken prime by prime or
modulo the modulus, and the public exponent takes it back to the message. So a key of
that kind signs every payload. -/

theorem pow_modEq_of_dvd {prime larger smaller : Nat} (isPrime : prime.Prime)
    (turns : prime - 1 ∣ larger - smaller) (ordered : smaller ≤ larger)
    (positive : 0 < smaller) (base : Nat) : base ^ larger ≡ base ^ smaller [MOD prime] := by
  rw [← Int.natCast_modEq_iff, Nat.cast_pow, Nat.cast_pow]
  exact Int.ModEq.pow_eq_pow isPrime turns ordered positive base

section

variable {prime publicExponent privateExponent : Nat}

/-- Exponents may be reduced where they undo each other: none of them becomes zero. -/
theorem powerMod_mod_modEq (isPrime : prime.Prime)
    (inverse : publicExponent * privateExponent % (prime - 1) = 1) (message : Nat) :
    powerMod prime message (privateExponent % (prime - 1)) ≡
      message ^ privateExponent [MOD prime] := by
  have positive : 0 < privateExponent % (prime - 1) := by
    apply Nat.pos_of_ne_zero
    intro zero
    rw [Nat.mul_mod, zero, Nat.mul_zero, Nat.zero_mod] at inverse
    cases inverse
  have reduced := pow_modEq_of_dvd isPrime (Nat.dvd_sub_mod privateExponent)
    (Nat.mod_le privateExponent (prime - 1)) positive message
  rw [powerMod_eq]
  exact (Nat.mod_modEq _ _).trans reduced.symm

theorem pow_pow_modEq (isPrime : prime.Prime)
    (inverse : publicExponent * privateExponent % (prime - 1) = 1) (message : Nat) :
    (message ^ privateExponent) ^ publicExponent ≡ message [MOD prime] := by
  have turns : prime - 1 ∣ publicExponent * privateExponent - 1 := by
    conv => rhs; rhs; rw [← inverse]
    exact Nat.dvd_sub_mod _
  have positive : 1 ≤ publicExponent * privateExponent := by
    apply Nat.pos_of_ne_zero
    intro zero
    rw [zero, Nat.zero_mod] at inverse
    cases inverse
  have undone := pow_modEq_of_dvd isPrime turns positive Nat.one_pos message
  rwa [Nat.mul_comm, Nat.pow_mul, Nat.pow_one] at undone

end

theorem combined_modEq {first second left right inverse : Nat} (positive : 0 < first)
    (inverted : second % first * inverse ≡ 1 [MOD first]) :
    right + second * ((left + first - right % first) * inverse % first) ≡ left [MOD first] := by
  have below : right % first ≤ left + first :=
    Nat.le_trans (Nat.le_of_lt (Nat.mod_lt right positive)) (Nat.le_add_left first left)
  generalize difference_eq : left + first - right % first = difference
  have scaled : second * (difference * inverse % first) ≡ difference [MOD first] :=
    calc
      second * (difference * inverse % first)
          ≡ second % first * (difference * inverse) [MOD first] :=
            (Nat.mod_modEq second first).symm.mul (Nat.mod_modEq _ first)
      _ = difference * (second % first * inverse) := by ring
      _ ≡ difference * 1 [MOD first] := inverted.mul_left difference
      _ = difference := Nat.mul_one difference
  calc
    right + second * (difference * inverse % first)
        ≡ right % first + difference [MOD first] := (Nat.mod_modEq right first).symm.add scaled
    _ = left + first := by omega
    _ ≡ left [MOD first] := Nat.add_modEq_right

namespace PrivateKey

variable {key : PrivateKey}

theorem exponents_of_isConsistent (consistent : key.isConsistent = true) :
    key.publicExponent * key.privateExponent % (key.firstPrime - 1) = 1 ∧
      key.publicExponent * key.privateExponent % (key.secondPrime - 1) = 1 := by
  simp only [isConsistent, Bool.and_eq_true, decide_eq_true_eq] at consistent
  exact ⟨consistent.1.2, consistent.2⟩

structure IsGenuine (key : PrivateKey) : Prop where
  consistent : key.isConsistent = true
  firstPrime : key.firstPrime.Prime
  secondPrime : key.secondPrime.Prime
  different : key.firstPrime ≠ key.secondPrime

theorem IsGenuine.coprime (genuine : key.IsGenuine) : key.firstPrime.Coprime key.secondPrime :=
  (Nat.coprime_primes genuine.firstPrime genuine.secondPrime).mpr genuine.different

theorem IsGenuine.modEq_modulus_iff (genuine : key.IsGenuine) {left right : Nat} :
    left ≡ right [MOD key.modulus] ↔
      left ≡ right [MOD key.firstPrime] ∧ left ≡ right [MOD key.secondPrime] := by
  rw [← (primes_of_isConsistent genuine.consistent).2.2]
  exact (Nat.modEq_and_modEq_iff_modEq_mul genuine.coprime).symm

theorem IsGenuine.privatePower_modEq (genuine : key.IsGenuine) (message : Nat) :
    key.privatePower message ≡ message ^ key.privateExponent [MOD key.modulus] := by
  rcases exponents_of_isConsistent genuine.consistent with ⟨firstInverse, secondInverse⟩
  rw [privatePower]
  split
  · rename_i inverse found
    rcases of_inverse?_eq_some genuine.firstPrime.pos found with ⟨_, turns, product⟩
    have inverted : key.secondPrime % key.firstPrime * inverse ≡ 1 [MOD key.firstPrime] := by
      rw [product]
      exact Nat.add_modulus_mul_modEq_iff.mpr rfl
    rw [genuine.modEq_modulus_iff]
    constructor
    · exact (combined_modEq genuine.firstPrime.pos inverted).trans
        (powerMod_mod_modEq genuine.firstPrime firstInverse message)
    · exact (Nat.add_modulus_mul_modEq_iff.mpr rfl).trans
        (powerMod_mod_modEq genuine.secondPrime secondInverse message)
  · rw [powerMod_eq]
    exact Nat.mod_modEq _ _

theorem IsGenuine.powerMod_privatePower (genuine : key.IsGenuine) {message : Nat}
    (small : message < key.modulus) :
    powerMod key.modulus (key.privatePower message) key.publicExponent = message := by
  rcases exponents_of_isConsistent genuine.consistent with ⟨firstInverse, secondInverse⟩
  have undone : (message ^ key.privateExponent) ^ key.publicExponent ≡ message
      [MOD key.modulus] := by
    rw [genuine.modEq_modulus_iff]
    exact ⟨pow_pow_modEq genuine.firstPrime firstInverse message,
      pow_pow_modEq genuine.secondPrime secondInverse message⟩
  rw [powerMod_eq]
  exact Nat.mod_eq_of_modEq (((genuine.privatePower_modEq message).pow _).trans undone) small

end PrivateKey

namespace SigningKey

/-- A padded message starts with a zero byte, so it is below the modulus. -/
theorem message_lt_modulus (key : SigningKey) (payload : Bytes) (count : UInt64) :
    message payload count < key.key.modulus := by
  have padded : ∃ rest, encodedMessage 256 (Signing.signedBlob payload count) = 0 :: rest :=
    ⟨_, rfl⟩
  rcases padded with ⟨rest, message_eq⟩
  have size := length_encodedMessage (by decide : 54 ≤ 256) (Signing.signedBlob payload count)
  rw [message_eq, List.length_cons] at size
  have below := bigEndianValue_lt rest
  rw [Nat.succ.inj size] at below
  rw [message, message_eq, bigEndianValue_zero_cons]
  exact Nat.lt_of_lt_of_le below ((PrivateKey.size_eq_iff key.consistent).mp key.size_eq).1

theorem exists_certificate_of_isGenuine {key : SigningKey} (genuine : key.key.IsGenuine)
    (payload : Bytes) (count : UInt64) :
    ∃ certificate, (Signing.signPayload key.signer payload count).outcome = .ok certificate :=
  exists_certificate_iff.mpr
    (genuine.powerMod_privatePower (key.message_lt_modulus payload count))

end SigningKey

end FirmwareCapsule.Rsa
