import FirmwareCapsule.Proofs.CommandLine.Numbers
import FirmwareCapsule.Proofs.Text.Digits
import FirmwareCapsule.Proofs.Text.Trimming
import Mathlib.Data.List.Forall2

namespace FirmwareCapsule.CommandLine

/-! Integer arguments. What is read is the number that the digits spell, and it is read just if
it fits; it never comes back as another number. -/

variable {base number other : Nat} {digit? : Char → Option Nat} {mark text digits : List Char}
  {value : String}

def marks : List (List Char × Nat) :=
  [([], 10), ("0x".toList, 16), ("0X".toList, 16)]

def IsInteger (text : List Char) (number : Nat) : Prop :=
  ∃ mark base sign digits values, (mark, base) ∈ marks ∧ (sign = [] ∨ sign = ['+']) ∧
    digits ≠ [] ∧ List.Forall₂ (Text.IsDigit base) values digits ∧
    Nat.ofDigits base values.reverse = number ∧ text = mark ++ (sign ++ digits)

/-! ## Digits of a base -/

theorem IsMark.digit?_eq_some_iff (isMark : IsMark mark base digit?) {character : Char}
    {digit : Nat} : digit? character = some digit ↔ Text.IsDigit base digit character := by
  cases isMark with
  | decimal => exact Text.decimalDigit?_eq_some_iff
  | lower => exact Text.hexDigit?_eq_some_iff
  | upper => exact Text.hexDigit?_eq_some_iff

theorem mem_marks_iff : (mark, base) ∈ marks ↔ ∃ digit?, IsMark mark base digit? := by
  constructor
  · intro member
    simp only [marks, List.mem_cons, List.not_mem_nil, or_false, Prod.mk.injEq] at member
    rcases member with ⟨rfl, rfl⟩ | ⟨rfl, rfl⟩ | ⟨rfl, rfl⟩
    · exact ⟨_, .decimal⟩
    · exact ⟨_, .lower⟩
    · exact ⟨_, .upper⟩
  · rintro ⟨digit?, isMark⟩
    cases isMark <;> decide

theorem map_eq_map_some_iff {values : List Nat} (isMark : IsMark mark base digit?) :
    digits.map digit? = values.map some ↔ List.Forall₂ (Text.IsDigit base) values digits := by
  have same : (fun digit character => some digit = digit? character) = Text.IsDigit base := by
    funext digit character
    exact propext (eq_comm.trans isMark.digit?_eq_some_iff)
  rw [eq_comm, ← List.forall₂_eq_eq_eq, List.forall₂_map_left_iff, List.forall₂_map_right_iff,
    same]

theorem writesNumber_iff_isInteger : WritesNumber text number ↔ IsInteger text number := by
  constructor
  · rintro ⟨mark, base, digit?, sign, digits, isMark, signed, ⟨nonempty, values, read, rfl⟩, rfl⟩
    exact ⟨mark, base, sign, digits, values, mem_marks_iff.mpr ⟨_, isMark⟩, signed, nonempty,
      (map_eq_map_some_iff isMark).mp read, rfl, rfl⟩
  · rintro ⟨mark, base, sign, digits, values, member, signed, nonempty, spelled, rfl, rfl⟩
    rcases mem_marks_iff.mp member with ⟨digit?, isMark⟩
    exact ⟨mark, base, digit?, sign, digits, isMark, signed,
      ⟨nonempty, values, (map_eq_map_some_iff isMark).mpr spelled, rfl⟩, rfl⟩

/-! ## Numbers -/

theorem IsInteger.unique (written : IsInteger text number) (otherWritten : IsInteger text other) :
    number = other := by
  have read := number?_eq_some_iff.mpr (writesNumber_iff_isInteger.mpr written)
  have otherRead := number?_eq_some_iff.mpr (writesNumber_iff_isInteger.mpr otherWritten)
  exact Option.some.inj (read.symm.trans otherRead)

theorem IsInteger.not_mem_minus (written : IsInteger text number) : '-' ∉ text := by
  rcases writesNumber_iff_isInteger.mpr written with
    ⟨mark, base, digit?, sign, digits, isMark, signed, ⟨-, values, read, -⟩, rfl⟩
  have foreign : digit? '-' = none := by
    cases isMark <;> rfl
  have unmarked : '-' ∉ mark := by
    cases isMark <;> decide
  have unsigned : '-' ∉ sign := by
    rcases signed with rfl | rfl <;> decide
  have noDigit : '-' ∉ digits := by
    intro member
    have found : digit? '-' ∈ digits.map digit? := List.mem_map_of_mem member
    rw [read, foreign] at found
    simp at found
  simp only [List.mem_append, not_or]
  exact ⟨unmarked, unsigned, noDigit⟩

/-! ## Reading -/

theorem exists_integer_iff :
    (∃ word, integer value = .ok word ∧ word.toNat = number) ↔
      IsInteger (Text.trim value.toList) number ∧ number < 2 ^ 64 := by
  constructor
  · rintro ⟨word, read, rfl⟩
    exact ⟨writesNumber_iff_isInteger.mp (integer_eq_ok_iff.mp read), word.toNat_lt⟩
  · rintro ⟨written, small⟩
    have word_eq : (UInt64.ofNat number).toNat = number := UInt64.toNat_ofNat_of_lt' small
    refine ⟨UInt64.ofNat number, integer_eq_ok_iff.mpr ?_, word_eq⟩
    rw [word_eq]
    exact writesNumber_iff_isInteger.mpr written

theorem integer_eq_error
    (unwritten : ∀ number < 2 ^ 64, ¬IsInteger (Text.trim value.toList) number) :
    integer value = .error (.notAnInteger (String.ofList (Text.trim value.toList))) := by
  cases outcome : integer value with
  | ok word =>
    rcases exists_integer_iff.mp ⟨word, outcome, rfl⟩ with ⟨written, small⟩
    exact absurd written (unwritten _ small)
  | error fault =>
    rw [integer] at outcome
    split at outcome
    · split at outcome
      · cases outcome
      · exact outcome.symm
    · exact outcome.symm

theorem exists_sixteenBits_iff :
    (∃ word, sixteenBits value = .ok word ∧ word.toNat = number) ↔
      (∃ word, integer value = .ok word ∧ word.toNat = number) ∧ number < 65536 := by
  rw [exists_integer_iff, ← writesNumber_iff_isInteger]
  constructor
  · rintro ⟨word, read, rfl⟩
    exact ⟨⟨sixteenBits_eq_ok_iff.mp read, Nat.lt_trans word.toNat_lt (by decide)⟩, word.toNat_lt⟩
  · rintro ⟨⟨written, -⟩, small⟩
    have word_eq : (UInt16.ofNat number).toNat = number := UInt16.toNat_ofNat_of_lt' small
    refine ⟨UInt16.ofNat number, sixteenBits_eq_ok_iff.mpr ?_, word_eq⟩
    rw [word_eq]
    exact written

structure IsReadAsWritten (value : String) (text : List Char) : Prop where
  trimmed : Text.IsTrimmed text
  padded : Text.IsPadded text value.toList
  read : ∀ number, (∃ word, integer value = .ok word ∧ word.toNat = number) ↔
    IsInteger text number ∧ number < 2 ^ 64
  refused : (∀ number < 2 ^ 64, ¬IsInteger text number) →
    integer value = .error (.notAnInteger (String.ofList text))
  tooLarge : ∀ number, IsInteger text number → 2 ^ 64 ≤ number →
    integer value = .error (.notAnInteger (String.ofList text))
  minus : '-' ∈ value.toList →
    integer value = .error (.notAnInteger (String.ofList text))
  readSixteen : ∀ number, (∃ word, sixteenBits value = .ok word ∧ word.toNat = number) ↔
    (∃ word, integer value = .ok word ∧ word.toNat = number) ∧ number < 65536

theorem isReadAsWritten (value : String) : IsReadAsWritten value (Text.trim value.toList) where
  trimmed := (Text.trim_eq_iff.mp rfl).1
  padded := Text.isPadded_trim value.toList
  read _ := exists_integer_iff
  refused := integer_eq_error
  tooLarge := by
    intro number written large
    apply integer_eq_error
    intro other small otherWritten
    rw [otherWritten.unique written] at small
    exact Nat.not_lt.mpr large small
  minus := by
    intro member
    apply integer_eq_error
    intro number _ written
    have solid : Text.isBlank '-' = false := by decide
    exact written.not_mem_minus (((Text.isPadded_trim value.toList).mem_iff solid).mp member)
  readSixteen _ := exists_sixteenBits_iff

example : integer " 0X+fF\n" = .ok 255 := by decide +kernel
example : integer "18446744073709551616" = .error (.notAnInteger "18446744073709551616") := by
  decide +kernel

end FirmwareCapsule.CommandLine
