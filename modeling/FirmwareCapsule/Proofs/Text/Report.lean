import FirmwareCapsule.Proofs.Text.HexBytes
import FirmwareCapsule.Text.Report

namespace FirmwareCapsule.Text

/-! Lines of reports. The value of a field has no newline in it, so it ends where its line
ends, and two reports differ just if one of their lines does. -/

def IsInline (text : String) : Prop :=
  '\n' ∉ text.toList

theorem isInline_append {left right : String} :
    IsInline (left ++ right) ↔ IsInline left ∧ IsInline right := by
  rw [IsInline, String.toList_append, List.mem_append, not_or]
  rfl

theorem append_newline_inj {line other rest otherRest : List Char} (inLine : '\n' ∉ line)
    (otherInLine : '\n' ∉ other) :
    line ++ '\n' :: rest = other ++ '\n' :: otherRest ↔ line = other ∧ rest = otherRest := by
  induction line generalizing other with
  | nil =>
      cases other with
      | nil => simp
      | cons first other =>
          have differs : '\n' ≠ first := fun same => otherInLine (same ▸ List.mem_cons_self)
          simp [differs]
  | cons first line induction =>
      cases other with
      | nil =>
          have differs : first ≠ '\n' := fun same => inLine (same ▸ List.mem_cons_self)
          simp [differs]
      | cons second other =>
          rw [List.cons_append, List.cons_append, List.cons.injEq, List.cons.injEq,
            induction (List.not_mem_of_not_mem_cons inLine)
              (List.not_mem_of_not_mem_cons otherInLine), and_assoc]

theorem field_append_eq_iff {width : Nat} {name value other rest otherRest : String}
    (inLine : IsInline value) (otherInLine : IsInline other) :
    field width name value ++ rest = field width name other ++ otherRest ↔
      value = other ∧ rest = otherRest := by
  have newline : "\n".toList = ['\n'] := rfl
  simp only [field, ← String.toList_inj, String.toList_append, List.append_assoc,
    List.append_cancel_left_eq, newline, List.singleton_append]
  exact append_newline_inj inLine otherInLine

/-! ## Numbers -/

def hexNumber (digits : List Char) : Nat :=
  digits.foldl (fun number digit => 16 * number + (hexDigit? digit).getD 0) 0

theorem hexNumber_concat (digits : List Char) (last : Char) :
    hexNumber (digits ++ [last]) = 16 * hexNumber digits + (hexDigit? last).getD 0 :=
  List.foldl_append

theorem hexNumber_toDigits (number : Nat) : hexNumber (Nat.toDigits 16 number) = number := by
  induction number using Nat.strongRecOn with
  | ind number induction =>
    have last : hexDigit? (number % 16).digitChar = some (number % 16) :=
      hexDigit?_eq_some_iff.mpr ⟨Nat.mod_lt _ (by decide), .inl rfl⟩
    by_cases small : number < 16
    · rw [Nat.mod_eq_of_lt small] at last
      rw [Nat.toDigits_of_lt_base small, ← List.nil_append [number.digitChar], hexNumber_concat,
        last]
      exact Nat.zero_add number
    · rw [Nat.toDigits_of_base_le (by decide) (Nat.not_lt.mp small), hexNumber_concat, last,
        induction (number / 16) (by omega), Option.getD_some]
      omega

theorem hexNumber_map_toUpper (digits : List Char) :
    hexNumber (digits.map Char.toUpper) = hexNumber digits := by
  rw [hexNumber, List.foldl_map]
  simp only [hexDigit?_toUpper]
  rfl

theorem hexNumber_zeroPadded (width : Nat) (digits : List Char) :
    hexNumber (zeroPadded width digits) = hexNumber digits := by
  rw [zeroPadded]
  generalize width - digits.length = count
  induction count with
  | zero => rfl
  | succ count induction => exact induction

theorem upperHex_inj {width number other : Nat} :
    upperHex width number = upperHex width other ↔ number = other := by
  constructor
  · intro same
    have numbers := congrArg (fun text => hexNumber text.toList) same
    simpa only [upperHex, String.toList_ofList, hexNumber_zeroPadded, hexNumber_map_toUpper,
      hexNumber_toDigits] using numbers
  · intro same
    rw [same]

theorem isInline_upperHex (width number : Nat) : IsInline (upperHex width number) := by
  intro member
  rw [upperHex, String.toList_ofList, zeroPadded, List.mem_append] at member
  rcases member with zero | digit
  · cases List.eq_of_mem_replicate zero
  · rcases List.mem_map.mp digit with ⟨character, inside, newline⟩
    rcases exists_hexDigit?_of_mem_toDigits character inside with ⟨value, found⟩
    rw [← hexDigit?_toUpper, newline] at found
    cases found

@[simp] theorem field_upperHex_append_eq_iff {width digits number other : Nat}
    {name rest otherRest : String} :
    field width name (upperHex digits number) ++ rest =
        field width name (upperHex digits other) ++ otherRest ↔
      number = other ∧ rest = otherRest := by
  rw [field_append_eq_iff (isInline_upperHex _ _) (isInline_upperHex _ _), upperHex_inj]

end FirmwareCapsule.Text
