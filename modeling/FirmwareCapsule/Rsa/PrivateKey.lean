import FirmwareCapsule.Bytes.Number

namespace FirmwareCapsule.Rsa

/-! RSA private keys with two primes. -/

def powerMod (modulus base exponent : Nat) : Nat :=
  if exponent = 0 then
    1 % modulus
  else
    let half := powerMod modulus (base * base % modulus) (exponent / 2)
    if exponent % 2 = 1 then half * base % modulus else half
termination_by exponent
decreasing_by omega

theorem powerMod_eq (modulus base exponent : Nat) :
    powerMod modulus base exponent = Nat.pow base exponent % modulus := by
  induction exponent using Nat.strongRecOn generalizing base with
  | ind exponent induction =>
      unfold powerMod
      split
      · rename_i zero
        simp [zero]
      · rename_i nonzero
        have half := induction (exponent / 2) (by omega) (base * base % modulus)
        have squared : Nat.pow (base * base % modulus) (exponent / 2) % modulus =
            Nat.pow base (2 * (exponent / 2)) % modulus := by
          simp only [Nat.pow_eq]
          rw [← Nat.pow_mod, Nat.pow_mul, Nat.pow_two]
        simp only [half, squared]
        split
        · rename_i odd
          have whole : exponent = 2 * (exponent / 2) + 1 := by omega
          have raised : Nat.pow base exponent = Nat.pow base (2 * (exponent / 2)) * base := by
            conv => lhs; rw [whole]
            rfl
          rw [raised, Nat.mod_mul_mod]
        · rename_i even
          have whole : exponent = 2 * (exponent / 2) := by omega
          conv => rhs; rw [whole]

/-- The number that takes `value` to one modulo `modulus`, if there is one. It is
found by Euclid's algorithm, from the number that takes the remainder of
`modulus` to one modulo `value`. -/
def inverse? (modulus value : Nat) : Option Nat :=
  if value = 0 then none
  else if value = 1 then some 1
  else (inverse? value (modulus % value)).map fun lower =>
    (1 + modulus * (value - lower)) / value
termination_by value
decreasing_by exact Nat.mod_lt _ (by omega)

theorem of_inverse?_eq_some {modulus value inverse : Nat} (positive : 0 < modulus)
    (found : inverse? modulus value = some inverse) :
    inverse ≤ modulus ∧ ∃ turns, value * inverse = 1 + modulus * turns := by
  induction value using Nat.strongRecOn generalizing modulus inverse with
  | ind value induction =>
      unfold inverse? at found
      split at found
      · contradiction
      · split at found
        · rename_i one
          obtain rfl := Option.some.inj found
          exact ⟨positive, 0, by simp [one]⟩
        · obtain ⟨lower, foundLower, rfl⟩ := Option.map_eq_some_iff.1 found
          obtain ⟨bound, turns, product⟩ :=
            induction (modulus % value) (Nat.mod_lt _ (by omega)) (by omega) foundLower
          have division := Nat.div_add_mod modulus value
          have whole : modulus * lower = 1 + value * (modulus / value * lower + turns) := by
            conv => lhs; rw [← division]
            rw [Nat.add_mul, product, Nat.mul_assoc, Nat.mul_add]
            omega
          have parts : modulus * (value - lower) + modulus * lower = value * modulus := by
            rw [← Nat.mul_add, Nat.sub_add_cancel bound, Nat.mul_comm]
          constructor
          · apply Nat.le_of_lt_succ
            apply Nat.div_lt_of_lt_mul
            rw [Nat.mul_succ]
            omega
          · refine ⟨value - lower, Nat.mul_div_cancel' ?_⟩
            exact (Nat.dvd_add_right (Nat.dvd_mul_right value
              (modulus / value * lower + turns))).1 ⟨modulus, by omega⟩

example : inverse? 7 3 = some 5 := by decide +kernel
example : inverse? 9 3 = none := by decide +kernel

structure PrivateKey where
  modulus : Nat
  publicExponent : Nat
  privateExponent : Nat
  firstPrime : Nat
  secondPrime : Nat
deriving DecidableEq

namespace PrivateKey

def leastExponent : Nat := 2

def greatestExponent : Nat := 2 * UInt32.size - 1

/-- The parts of a key belong together: the modulus is the product of the
primes, and the exponents undo each other modulo each prime less one. That the
primes are prime is not checked, only that the modulus is odd. -/
def isConsistent (key : PrivateKey) : Bool :=
  let exponents := key.publicExponent * key.privateExponent
  leastExponent ≤ key.publicExponent && key.publicExponent ≤ greatestExponent &&
    key.modulus % 2 = 1 && 1 < key.firstPrime && 1 < key.secondPrime &&
    key.firstPrime * key.secondPrime = key.modulus &&
    exponents % (key.firstPrime - 1) = 1 && exponents % (key.secondPrime - 1) = 1

def size (key : PrivateKey) : Nat :=
  (Nat.log2 key.modulus + 8) / 8

def modulusBytes (key : PrivateKey) : Bytes :=
  bigEndian key.size key.modulus

/-- `message` to the power of the private exponent, from its powers modulo each
prime. That takes an inverse of the second prime; without one, as when both
primes are the same, the power is taken modulo the modulus. The two ways agree
where the primes are prime. -/
def privatePower (key : PrivateKey) (message : Nat) : Nat :=
  match inverse? key.firstPrime (key.secondPrime % key.firstPrime) with
  | some inverse =>
      let reduced (prime : Nat) := powerMod prime message (key.privateExponent % (prime - 1))
      let first := reduced key.firstPrime
      let second := reduced key.secondPrime
      let difference := first + key.firstPrime - second % key.firstPrime
      second + key.secondPrime * (difference * inverse % key.firstPrime)
  | none => powerMod key.modulus message key.privateExponent

def privatePower? (key : PrivateKey) (message : Nat) : Option Nat :=
  let result := key.privatePower message
  if powerMod key.modulus result key.publicExponent = message then some result else none

end PrivateKey

end FirmwareCapsule.Rsa
