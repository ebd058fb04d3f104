import FirmwareCapsule.CommandLine.Value
import FirmwareCapsule.Proofs.Files
import Mathlib.Data.Nat.Digits.Defs

namespace FirmwareCapsule.CommandLine

/-! Numbers as they are written in arguments: a mark of the base, unless it is ten, then at most
a plus sign, and digits. Whatever else is written is no number, and a number that does not fit
its word is refused. -/

variable {base number : Nat} {digit? : Char → Option Nat} {text digits : List Char}

inductive IsMark : List Char → (base : Nat) → (digit? : Char → Option Nat) → Prop
  | decimal : IsMark [] 10 Text.decimalDigit?
  | lower : IsMark ['0', 'x'] 16 Text.hexDigit?
  | upper : IsMark ['0', 'X'] 16 Text.hexDigit?

def AreDigits (base : Nat) (digit? : Char → Option Nat) (digits : List Char) (number : Nat) :
    Prop :=
  digits ≠ [] ∧ ∃ values : List Nat, digits.map digit? = values.map some ∧
    Nat.ofDigits base values.reverse = number

def WritesNumber (text : List Char) (number : Nat) : Prop :=
  ∃ mark base digit? sign digits, IsMark mark base digit? ∧ (sign = [] ∨ sign = ['+']) ∧
    AreDigits base digit? digits number ∧ text = mark ++ (sign ++ digits)

/-! ## Digits -/

theorem mapM_eq_some_iff {values : List Nat} :
    digits.mapM digit? = some values ↔ digits.map digit? = values.map some := by
  induction digits generalizing values with
  | nil => cases values <;> simp
  | cons digit digits induction =>
      cases values with
      | nil => simp [List.mapM_cons, Option.bind_eq_some_iff]
      | cons value values =>
          simp only [List.mapM_cons, Option.bind_eq_bind, Option.bind_eq_some_iff, induction,
            List.map_cons, List.cons.injEq, Option.pure_def, Option.some.injEq]
          constructor
          · rintro ⟨first, found, rest, restFound, rfl, rfl⟩
            exact ⟨found, restFound⟩
          · rintro ⟨found, restFound⟩
            exact ⟨value, found, values, restFound, rfl, rfl⟩

theorem foldl_eq_ofDigits (base : Nat) (values : List Nat) :
    values.foldl (fun number value => base * number + value) 0 =
      Nat.ofDigits base values.reverse := by
  rw [Nat.ofDigits_eq_foldr, List.foldr_reverse]
  simp only [Nat.cast_id, Nat.add_comm]

theorem numberOfDigits?_eq_some_iff :
    numberOfDigits? base digit? digits = some number ↔ AreDigits base digit? digits number := by
  rw [numberOfDigits?, AreDigits]
  cases digits with
  | nil => simp
  | cons digit digits =>
      rw [List.isEmpty_cons, if_neg Bool.false_ne_true, Option.map_eq_some_iff]
      simp only [mapM_eq_some_iff, foldl_eq_ofDigits]
      exact (and_iff_right (List.cons_ne_nil _ _)).symm

theorem AreDigits.ne_of_head (areDigits : AreDigits base digit? digits number) {character : Char}
    (foreign : digit? character = none) {rest : List Char} : digits ≠ character :: rest := by
  rintro rfl
  rcases areDigits.2 with ⟨values, digits_eq, _⟩
  cases values with
  | nil => cases digits_eq
  | cons value values =>
      have first := (List.cons.inj digits_eq).1
      rw [foreign] at first
      cases first

theorem numberWithSign?_eq_some_iff (noSign : digit? '+' = none) :
    numberWithSign? base digit? text = some number ↔
      ∃ sign digits, (sign = [] ∨ sign = ['+']) ∧ AreDigits base digit? digits number ∧
        text = sign ++ digits := by
  constructor
  · intro found
    rw [numberWithSign?.eq_def] at found
    split at found
    · exact ⟨['+'], _, .inr rfl, numberOfDigits?_eq_some_iff.mp found, rfl⟩
    · exact ⟨[], _, .inl rfl, numberOfDigits?_eq_some_iff.mp found, rfl⟩
  · rintro ⟨sign, digits, rfl | rfl, areDigits, rfl⟩
    · rw [numberWithSign?]
      · exact numberOfDigits?_eq_some_iff.mpr areDigits
      · exact fun rest => areDigits.ne_of_head noSign
    · exact numberOfDigits?_eq_some_iff.mpr areDigits

/-! ## Numbers -/

theorem ne_mark_of_areDigits {sign rest : List Char} {letter : Char}
    (areDigits : AreDigits 10 Text.decimalDigit? digits number) (signed : sign = [] ∨ sign = ['+'])
    (noDigit : Text.decimalDigit? letter = none) : sign ++ digits ≠ '0' :: letter :: rest := by
  rcases signed with rfl | rfl
  · rintro rfl
    rcases areDigits.2 with ⟨values, digits_eq, _⟩
    rcases values with _ | ⟨first, _ | ⟨second, values⟩⟩
    · cases digits_eq
    · cases digits_eq
    · have same := (List.cons.inj (List.cons.inj digits_eq).2).1
      rw [noDigit] at same
      cases same
  · exact nofun

theorem number?_eq_some_iff : number? text = some number ↔ WritesNumber text number := by
  constructor
  · intro found
    rw [number?.eq_def] at found
    split at found
    · rcases (numberWithSign?_eq_some_iff rfl).mp found with ⟨sign, digits, signed, areDigits, rfl⟩
      exact ⟨_, _, _, sign, digits, .lower, signed, areDigits, rfl⟩
    · rcases (numberWithSign?_eq_some_iff rfl).mp found with ⟨sign, digits, signed, areDigits, rfl⟩
      exact ⟨_, _, _, sign, digits, .upper, signed, areDigits, rfl⟩
    · rcases (numberWithSign?_eq_some_iff rfl).mp found with ⟨sign, digits, signed, areDigits, rfl⟩
      exact ⟨_, _, _, sign, digits, .decimal, signed, areDigits, rfl⟩
  · rintro ⟨mark, base, digit?, sign, digits, isMark, signed, areDigits, rfl⟩
    cases isMark with
    | decimal =>
        rw [List.nil_append, number?]
        · exact (numberWithSign?_eq_some_iff rfl).mpr ⟨sign, digits, signed, areDigits, rfl⟩
        · exact fun rest => ne_mark_of_areDigits areDigits signed rfl
        · exact fun rest => ne_mark_of_areDigits areDigits signed rfl
    | lower =>
        exact (numberWithSign?_eq_some_iff rfl).mpr ⟨sign, digits, signed, areDigits, rfl⟩
    | upper =>
        exact (numberWithSign?_eq_some_iff rfl).mpr ⟨sign, digits, signed, areDigits, rfl⟩

theorem integer_eq_ok_iff {value : String} {word : UInt64} :
    integer value = .ok word ↔ WritesNumber (Text.trim value.toList) word.toNat := by
  rw [integer, ← number?_eq_some_iff]
  split
  · rename_i found read
    rw [read, Option.some.injEq]
    split
    · rename_i fits
      rw [Except.ok.injEq]
      constructor
      · rintro rfl
        exact (UInt64.toNat_ofNat_of_lt' fits).symm
      · rintro rfl
        exact UInt64.ofNat_toNat
    · rename_i large
      constructor
      · exact nofun
      · rintro rfl
        exact absurd word.toNat_lt large
  · rename_i unread
    rw [unread]
    exact ⟨nofun, nofun⟩

theorem sixteenBits_eq_ok_iff {value : String} {word : UInt16} :
    sixteenBits value = .ok word ↔ WritesNumber (Text.trim value.toList) word.toNat := by
  rw [sixteenBits, except_bind_eq_ok_iff]
  constructor
  · rintro ⟨wide, read, narrowed⟩
    rw [integer_eq_ok_iff] at read
    split at narrowed
    · rename_i fits
      cases narrowed
      rw [UInt16.toNat_ofNat_of_lt' fits]
      exact read
    · cases narrowed
  · intro written
    have fits : word.toNat < UInt64.size := Nat.lt_trans word.toNat_lt (by decide)
    have wide : (UInt64.ofNat word.toNat).toNat = word.toNat := UInt64.toNat_ofNat_of_lt' fits
    refine ⟨UInt64.ofNat word.toNat, integer_eq_ok_iff.mpr (wide.symm ▸ written), ?_⟩
    rw [wide, if_pos word.toNat_lt, UInt16.ofNat_toNat]
    rfl

end FirmwareCapsule.CommandLine
