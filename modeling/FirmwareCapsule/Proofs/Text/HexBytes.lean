import FirmwareCapsule.Bytes.Number
import FirmwareCapsule.Proofs.Text.Digits
import FirmwareCapsule.Text.HexBytes
import FirmwareCapsule.Text.Utf8

namespace FirmwareCapsule.Text

/-! Bytes that are spelled by digits, and numbers whose digits spell their bytes. A digit takes
one byte of UTF-8 and every other character holds a byte that is no digit, so that the bytes of
a text are read as digits just if its characters are digits. -/

variable {character : Char} {value : Nat} {digits others : List Char} {bytes more : Bytes}

inductive Spells : List Char → Bytes → Prop
  | nil : Spells [] []
  | cons {high low : Char} {byte : UInt8} {digits : List Char} {bytes : Bytes}
      (first : hexDigit? high = some (byte.toNat / 16))
      (second : hexDigit? low = some (byte.toNat % 16)) (rest : Spells digits bytes) :
      Spells (high :: low :: digits) (byte :: bytes)

namespace Spells

theorem length_eq (spells : Spells digits bytes) : digits.length = 2 * bytes.length := by
  induction spells with
  | nil => rfl
  | cons _ _ _ induction =>
    simp only [List.length_cons, induction]
    omega

theorem exists_hexDigit? (spells : Spells digits bytes) :
    ∀ character ∈ digits, ∃ value, hexDigit? character = some value := by
  induction spells with
  | nil => exact fun _ => nofun
  | cons first second _ induction =>
    intro character member
    rcases List.mem_cons.mp member with rfl | member
    · exact ⟨_, first⟩
    · rcases List.mem_cons.mp member with rfl | member
      · exact ⟨_, second⟩
      · exact induction character member

theorem append (spells : Spells digits bytes) (spellsMore : Spells others more) :
    Spells (digits ++ others) (bytes ++ more) := by
  induction spells with
  | nil => exact spellsMore
  | cons first second _ induction => exact .cons first second induction

end Spells

theorem spells_pair {high low : Char} {upper lower : Nat} (first : hexDigit? high = some upper)
    (second : hexDigit? low = some lower) :
    Spells [high, low] [UInt8.ofNat (16 * upper + lower)] := by
  have upperBound := (hexDigit?_eq_some_iff.mp first).1
  have lowerBound := (hexDigit?_eq_some_iff.mp second).1
  have number : (UInt8.ofNat (16 * upper + lower)).toNat = 16 * upper + lower := by
    rw [UInt8.toNat_ofNat']
    omega
  refine .cons ?_ ?_ .nil
  · rw [number, first]
    congr 1
    omega
  · rw [number, second]
    congr 1
    omega

theorem exists_spells : ∀ {digits : List Char},
    (∀ character ∈ digits, ∃ value, hexDigit? character = some value) →
      digits.length % 2 = 0 → ∃ bytes, Spells digits bytes
  | [], _, _ => ⟨[], .nil⟩
  | [_], _, even => absurd even Nat.one_ne_zero
  | high :: low :: digits, known, even => by
    rcases known high List.mem_cons_self with ⟨upper, first⟩
    rcases known low (List.mem_cons_of_mem _ List.mem_cons_self) with ⟨lower, second⟩
    have restKnown : ∀ character ∈ digits, ∃ value, hexDigit? character = some value :=
      fun character member =>
        known character (List.mem_cons_of_mem _ (List.mem_cons_of_mem _ member))
    have restEven : digits.length % 2 = 0 := by
      rw [List.length_cons, List.length_cons] at even
      omega
    rcases exists_spells restKnown restEven with ⟨bytes, spells⟩
    exact ⟨_, (spells_pair first second).append spells⟩

/-! ## The bytes of digits -/

theorem toNat_lt_of_hexDigit? (found : hexDigit? character = some value) :
    character.toNat < 128 := by
  rcases hexDigit?_eq_some_iff.mp found with ⟨bounded, rfl | rfl⟩
  · clear found
    revert value
    decide
  · clear found
    revert value
    decide

theorem utf8EncodeChar_of_lt (narrow : character.toNat < 128) :
    String.utf8EncodeChar character = [UInt8.ofNat character.toNat] :=
  if_pos (Nat.le_of_lt_succ narrow)

theorem hexDigitOfByte?_ofNat (narrow : character.toNat < 128) :
    hexDigitOfByte? (UInt8.ofNat character.toNat) = hexDigit? character := by
  have small : character.toNat % 256 = character.toNat := Nat.mod_eq_of_lt (by omega)
  rw [hexDigitOfByte?, UInt8.toNat_ofNat', small, Char.ofNat_toNat]

theorem hexDigitOfByte?_of_le {byte : UInt8} (wide : 128 ≤ byte.toNat) :
    hexDigitOfByte? byte = none := by
  have foreign : ∀ number < 2 ^ 8, 128 ≤ number → hexDigit? (Char.ofNat number) = none := by
    decide +kernel
  exact foreign _ byte.toNat_lt wide

/-- What takes several bytes ends in one that continues it. -/
theorem exists_mem_utf8EncodeChar (wide : 128 ≤ character.toNat) :
    ∃ byte ∈ String.utf8EncodeChar character, 128 ≤ byte.toNat := by
  have last : 128 ≤ (UInt8.ofNat (character.toNat % 64 + 128)).toNat := by
    rw [UInt8.toNat_ofNat']
    omega
  refine ⟨_, ?_, last⟩
  rw [String.utf8EncodeChar]
  split
  · next narrow => exact absurd wide (Nat.not_le.mpr (Nat.lt_succ_of_le narrow))
  · split
    · exact List.mem_of_getLast? rfl
    · split
      · exact List.mem_of_getLast? rfl
      · exact List.mem_of_getLast? rfl

theorem exists_hexDigit?_iff :
    (∃ value, hexDigit? character = some value) ↔
      ∀ byte ∈ String.utf8EncodeChar character, (hexDigitOfByte? byte).isSome = true := by
  rw [← Option.isSome_iff_exists]
  rcases Nat.lt_or_ge character.toNat 128 with narrow | wide
  · rw [utf8EncodeChar_of_lt narrow, List.forall_mem_singleton, hexDigitOfByte?_ofNat narrow]
  · constructor
    · intro known
      rcases Option.isSome_iff_exists.mp known with ⟨value, found⟩
      exact absurd wide (Nat.not_le.mpr (toNat_lt_of_hexDigit? found))
    · intro known
      rcases exists_mem_utf8EncodeChar wide with ⟨byte, member, large⟩
      have found := known byte member
      rw [hexDigitOfByte?_of_le large] at found
      cases found

theorem utf8_cons_of_hexDigit? (found : hexDigit? character = some value) :
    utf8 (character :: digits) = UInt8.ofNat character.toNat :: utf8 digits := by
  rw [utf8, List.flatMap_cons, utf8EncodeChar_of_lt (toNat_lt_of_hexDigit? found)]
  rfl

theorem length_utf8_of_hexDigit?
    (known : ∀ character ∈ digits, ∃ value, hexDigit? character = some value) :
    (utf8 digits).length = digits.length := by
  induction digits with
  | nil => rfl
  | cons character digits induction =>
    rcases known character List.mem_cons_self with ⟨value, found⟩
    rw [utf8_cons_of_hexDigit? found, List.length_cons, List.length_cons,
      induction fun other member => known other (List.mem_cons_of_mem _ member)]

theorem joinHexDigits_utf8 (spells : Spells digits bytes) :
    joinHexDigits (utf8 digits) = bytes := by
  induction spells with
  | nil => rfl
  | @cons high low byte digits bytes first second _ induction =>
    have byte_eq : UInt8.ofNat (16 * (byte.toNat / 16) + byte.toNat % 16) = byte := by
      rw [Nat.div_add_mod, UInt8.ofNat_toNat]
    rw [utf8_cons_of_hexDigit? first, utf8_cons_of_hexDigit? second, joinHexDigits,
      hexDigitOfByte?_ofNat (toNat_lt_of_hexDigit? first),
      hexDigitOfByte?_ofNat (toNat_lt_of_hexDigit? second), first, second]
    dsimp only
    rw [byte_eq, induction]

/-! ## What is read -/

/-- A row is read if it holds an even number of bytes, and digits only. -/
theorem ofHexDigits_eq_ok_iff {row : Bytes} :
    ofHexDigits row = .ok bytes ↔
      row.length % 2 = 0 ∧ (∀ byte ∈ row, (hexDigitOfByte? byte).isSome = true) ∧
        joinHexDigits row = bytes := by
  rw [ofHexDigits]
  split
  · next odd =>
    constructor
    · exact nofun
    · rintro ⟨even, -⟩
      omega
  · next notOdd =>
    have even : row.length % 2 = 0 := by omega
    dsimp only
    cases found : row.find? fun byte => (hexDigitOfByte? byte).isNone with
    | none =>
      have noneForeign : ∀ byte ∈ row, (hexDigitOfByte? byte).isNone = false := fun byte member =>
        Bool.eq_false_iff.mpr (List.find?_eq_none.mp found byte member)
      have known : ∀ byte ∈ row, (hexDigitOfByte? byte).isSome = true := fun byte member =>
        Option.isNone_eq_false_iff.mp (noneForeign byte member)
      rw [List.findIdx?_eq_none_iff.mpr noneForeign]
      constructor
      · exact fun done => ⟨even, known, Except.ok.inj done⟩
      · rintro ⟨-, -, rfl⟩
        rfl
    | some byte =>
      have foreign := List.find?_some found
      have member := List.mem_of_find?_eq_some found
      constructor
      · intro done
        cases place : row.findIdx? fun byte => (hexDigitOfByte? byte).isNone with
        | none =>
          have digit := List.findIdx?_eq_none_iff.mp place byte member
          rw [foreign] at digit
          cases digit
        | some position =>
          rw [place] at done
          cases done
      · rintro ⟨-, known, -⟩
        have digit := known byte member
        rw [Option.isNone_iff_eq_none.mp foreign] at digit
        cases digit

theorem ofHexDigits_utf8_eq_ok_iff :
    ofHexDigits (utf8 digits) = .ok bytes ↔ Spells digits bytes := by
  rw [ofHexDigits_eq_ok_iff]
  constructor
  · rintro ⟨even, bytesKnown, joined⟩
    have known : ∀ character ∈ digits, ∃ value, hexDigit? character = some value := by
      intro character member
      apply exists_hexDigit?_iff.mpr
      intro byte part
      exact bytesKnown byte (List.mem_flatMap.mpr ⟨character, member, part⟩)
    rw [length_utf8_of_hexDigit? known] at even
    rcases exists_spells known even with ⟨found, spells⟩
    rw [joinHexDigits_utf8 spells] at joined
    exact joined ▸ spells
  · intro spells
    refine ⟨?_, ?_, joinHexDigits_utf8 spells⟩
    · rw [length_utf8_of_hexDigit? spells.exists_hexDigit?, spells.length_eq]
      omega
    · intro byte member
      rcases List.mem_flatMap.mp member with ⟨character, inside, part⟩
      exact exists_hexDigit?_iff.mp (spells.exists_hexDigit? character inside) byte part

/-! ## The digits of a number -/

variable {number width : Nat}

theorem toList_upperHex_one (number : Nat) :
    (upperHex 1 number).toList = (Nat.toDigits 16 number).map Char.toUpper := by
  have written : 1 - (Nat.toDigits 16 number).length = 0 :=
    Nat.sub_eq_zero_of_le Nat.length_toDigits_pos
  rw [upperHex, String.toList_ofList, zeroPadded, List.length_map, written]
  rfl

theorem exists_hexDigit?_of_mem_toDigits :
    ∀ character ∈ Nat.toDigits 16 number, ∃ value, hexDigit? character = some value := by
  induction number using Nat.strongRecOn with
  | ind number induction =>
    have last : number % 16 < 16 := Nat.mod_lt _ (by decide)
    have lastFound : hexDigit? (number % 16).digitChar = some (number % 16) :=
      hexDigit?_eq_some_iff.mpr ⟨last, .inl rfl⟩
    intro character member
    by_cases small : number < 16
    · rw [Nat.toDigits_of_lt_base small, List.mem_singleton] at member
      rw [Nat.mod_eq_of_lt small] at lastFound
      exact ⟨_, member ▸ lastFound⟩
    · rw [Nat.toDigits_of_base_le (by decide) (Nat.not_lt.mp small)] at member
      rcases List.mem_append.mp member with front | back
      · exact induction (number / 16) (by omega) character front
      · exact ⟨_, List.mem_singleton.mp back ▸ lastFound⟩

theorem exists_hexDigit?_of_mem_upperHex :
    ∀ character ∈ (upperHex 1 number).toList, ∃ value, hexDigit? character = some value := by
  rw [toList_upperHex_one]
  intro character member
  rcases List.mem_map.mp member with ⟨digit, inside, rfl⟩
  rw [hexDigit?_toUpper]
  exact exists_hexDigit?_of_mem_toDigits digit inside

theorem toDigits_of_byte_le (large : 256 ≤ number) :
    Nat.toDigits 16 number =
      Nat.toDigits 16 (number / 256) ++
        [(number / 16 % 16).digitChar, (number % 16).digitChar] := by
  have highLarge : 16 ≤ number / 16 := by omega
  rw [Nat.toDigits_of_base_le (by decide) (by omega), Nat.toDigits_of_base_le (by decide) highLarge,
    Nat.div_div_eq_div_mul, List.append_assoc]
  rfl

theorem spells_lastByte (number : Nat) :
    Spells [upperDigit (number / 16 % 16), upperDigit (number % 16)] [UInt8.ofNat number] := by
  have lastByte : UInt8.ofNat (16 * (number / 16 % 16) + number % 16) = UInt8.ofNat number := by
    apply UInt8.toNat_inj.mp
    rw [UInt8.toNat_ofNat', UInt8.toNat_ofNat']
    omega
  rw [← lastByte]
  exact spells_pair (hexDigit?_upperDigit (Nat.mod_lt _ (by decide)))
    (hexDigit?_upperDigit (Nat.mod_lt _ (by decide)))

/-- A number whose first byte takes two digits is written with two digits for each byte. -/
theorem spells_upperHex (first : 16 * byteRange width ≤ number)
    (bound : number < byteRange (width + 1)) :
    Spells (upperHex 1 number).toList (bigEndian (width + 1) number) := by
  rw [toList_upperHex_one]
  -- The induction takes off the last byte; the first one is what is left at the end.
  induction width generalizing number with
  | zero =>
    rw [byteRange] at first
    have high : number / 16 < 16 := by
      rw [byteRange, byteRange] at bound
      omega
    have spells := spells_lastByte number
    rw [Nat.mod_eq_of_lt high] at spells
    rw [Nat.toDigits_of_base_le (by decide) first, Nat.toDigits_of_lt_base high]
    exact spells
  | succ width induction =>
    have positive := byteRange_pos width
    rw [byteRange] at first bound
    rw [toDigits_of_byte_le (by omega), List.map_append, bigEndian_succ]
    exact (induction (by omega) (by omega)).append (spells_lastByte number)

/-- A number whose first byte takes one digit is written with an odd number of digits. -/
theorem length_upperHex_of_lt (first : byteRange width ≤ number)
    (bound : number < 16 * byteRange width) :
    (upperHex 1 number).toList.length = 2 * width + 1 := by
  rw [toList_upperHex_one, List.length_map]
  induction width generalizing number with
  | zero =>
    rw [byteRange] at bound
    rw [Nat.toDigits_of_lt_base (by omega)]
    rfl
  | succ width induction =>
    rw [byteRange] at first bound
    have positive := byteRange_pos width
    rw [toDigits_of_byte_le (by omega), List.length_append, induction (by omega) (by omega)]
    rfl

theorem not_spells_upperHex (first : byteRange width ≤ number)
    (bound : number < 16 * byteRange width) : ¬Spells (upperHex 1 number).toList bytes := by
  intro spells
  have even := spells.length_eq
  rw [length_upperHex_of_lt first bound] at even
  omega

end FirmwareCapsule.Text
