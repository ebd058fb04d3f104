namespace FirmwareCapsule.Text

/-! Numbers as text. Addresses and sizes are hexadecimal, counts are decimal;
both are written with the fewest digits unless a column width asks for leading
zeros. -/

def zeroPadded (width : Nat) (digits : List Char) : List Char :=
  List.replicate (width - digits.length) '0' ++ digits

def decimal (value : Nat) : String :=
  String.ofList (Nat.toDigits 10 value)

def upperHex (width value : Nat) : String :=
  String.ofList (zeroPadded width ((Nat.toDigits 16 value).map Char.toUpper))

def markedHex (width value : Nat) : String :=
  "0x" ++ String.ofList (zeroPadded width (Nat.toDigits 16 value))

def hex (value : Nat) : String :=
  markedHex 1 value

example : upperHex 8 0xBEEF = "0000BEEF" := rfl
example : markedHex 4 0x200 = "0x0200" := rfl
example : hex 528 = "0x210" := rfl

def hexDigit? (character : Char) : Option Nat :=
  if '0' ≤ character ∧ character ≤ '9' then
    some (character.toNat - '0'.toNat)
  else if 'a' ≤ character ∧ character ≤ 'f' then
    some (character.toNat - 'a'.toNat + 10)
  else if 'A' ≤ character ∧ character ≤ 'F' then
    some (character.toNat - 'A'.toNat + 10)
  else
    none

theorem exists_distance {start stop character : Char}
    (inside : start ≤ character ∧ character ≤ stop) :
    ∃ distance < stop.toNat + 1 - start.toNat, character = Char.ofNat (start.toNat + distance) := by
  have low : start.toNat ≤ character.toNat := inside.1
  have high : character.toNat ≤ stop.toNat := inside.2
  refine ⟨character.toNat - start.toNat, by omega, ?_⟩
  rw [Nat.add_sub_cancel' low, Char.ofNat_toNat]

theorem hexDigit?_eq_some_iff {character : Char} {value : Nat} :
    hexDigit? character = some value ↔
      value < 16 ∧ (character = value.digitChar ∨ character = value.digitChar.toUpper) := by
  constructor
  · intro found
    rw [hexDigit?] at found
    split at found
    · next decimal =>
      cases found
      obtain ⟨distance, near, rfl⟩ := exists_distance decimal
      clear decimal
      revert distance
      decide
    split at found
    · next noDecimal lower =>
      cases found
      obtain ⟨distance, near, rfl⟩ := exists_distance lower
      clear noDecimal lower
      revert distance
      decide
    split at found
    · next noDecimal noLower upper =>
      cases found
      obtain ⟨distance, near, rfl⟩ := exists_distance upper
      clear noDecimal noLower upper
      revert distance
      decide
    · cases found
  · rintro ⟨bounded, rfl | rfl⟩
    · revert value
      decide
    · revert value
      decide

def decimalDigit? (character : Char) : Option Nat :=
  if '0' ≤ character ∧ character ≤ '9' then
    some (character.toNat - '0'.toNat)
  else
    none

def upperHexOfBytes (bytes : List UInt8) : String :=
  String.join (bytes.map fun byte => upperHex 2 byte.toNat)

end FirmwareCapsule.Text
