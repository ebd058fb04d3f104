import FirmwareCapsule.Text.Blank
import FirmwareCapsule.Text.Digits

namespace FirmwareCapsule.Text

/-! Digits as they are written, and as they are read in either case. -/

def upperDigit (value : Nat) : Char :=
  value.digitChar.toUpper

variable {character : Char} {value : Nat}

def IsDigit (base value : Nat) (character : Char) : Prop :=
  value < base ∧ (character = value.digitChar ∨ character = value.digitChar.toUpper)

theorem decimalDigit?_eq_some_iff :
    decimalDigit? character = some value ↔ IsDigit 10 value character := by
  constructor
  · intro found
    rw [decimalDigit?] at found
    split at found
    · next decimal =>
      cases found
      obtain ⟨distance, near, rfl⟩ := exists_distance decimal
      clear decimal
      revert distance
      unfold IsDigit
      decide
    · cases found
  · rintro ⟨bounded, rfl | rfl⟩
    · revert value
      decide
    · revert value
      decide

theorem hexDigit?_upperDigit (bounded : value < 16) : hexDigit? (upperDigit value) = some value :=
  hexDigit?_eq_some_iff.mpr ⟨bounded, .inr rfl⟩

theorem toUpper_of_hexDigit? (found : hexDigit? character = some value) :
    character.toUpper = upperDigit value := by
  rcases hexDigit?_eq_some_iff.mp found with ⟨bounded, rfl | rfl⟩
  · rfl
  · clear found
    revert value
    decide

theorem toUpper_eq_self_or (character : Char) :
    character.toUpper = character ∨
      ∃ distance < 26, character = Char.ofNat ('a'.toNat + distance) := by
  by_cases lower : 'a' ≤ character ∧ character ≤ 'z'
  · exact .inr (exists_distance lower)
  · exact .inl (dif_neg lower)

@[simp] theorem hexDigit?_toUpper (character : Char) :
    hexDigit? character.toUpper = hexDigit? character := by
  rcases toUpper_eq_self_or character with same | ⟨distance, near, rfl⟩
  · rw [same]
  · revert distance
    decide

theorem isBlank_of_hexDigit? (found : hexDigit? character = some value) :
    isBlank character = false := by
  rcases hexDigit?_eq_some_iff.mp found with ⟨bounded, rfl | rfl⟩
  · clear found
    revert value
    decide
  · clear found
    revert value
    decide

theorem toList_upperHex_byte (byte : UInt8) :
    (upperHex 2 byte.toNat).toList =
      [upperDigit (byte.toNat / 16), upperDigit (byte.toNat % 16)] := by
  have bound := byte.toNat_lt
  rw [upperHex, String.toList_ofList]
  by_cases small : byte.toNat < 16
  · have noHigh : byte.toNat / 16 = 0 := Nat.div_eq_of_lt small
    rw [Nat.toDigits_of_lt_base small, noHigh, Nat.mod_eq_of_lt small]
    rfl
  · have high : byte.toNat / 16 < 16 := by omega
    rw [Nat.toDigits_of_base_le (by decide) (Nat.not_lt.mp small), Nat.toDigits_of_lt_base high]
    rfl

end FirmwareCapsule.Text
