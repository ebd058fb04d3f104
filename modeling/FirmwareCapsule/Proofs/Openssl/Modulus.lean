import FirmwareCapsule.Openssl.Signer
import FirmwareCapsule.Proofs.Text.HexBytes

namespace FirmwareCapsule

/-! The modulus in the output of the `openssl` program. Its line may stand anywhere, and may
be padded with blanks; what is read are the bytes that its value spells. -/

namespace Text

theorem splitAtEquals?_eq_some_iff {line name value : List Char} :
    splitAtEquals? line = some (name, value) ↔ line = name ++ '=' :: value ∧ '=' ∉ name := by
  constructor
  · intro found
    rw [splitAtEquals?] at found
    split at found
    · next first behind dropped =>
      have first_eq : first = '=' := by
        have law := List.head?_dropWhile_not (fun character => decide (character ≠ '=')) line
        rw [dropped] at law
        simpa using law
      rw [first_eq] at dropped
      cases found
      constructor
      · rw [← dropped, List.takeWhile_append_dropWhile]
      · intro member
        have before := List.all_eq_true.mp List.all_takeWhile '=' member
        simp at before
    · cases found
  · rintro ⟨rfl, missing⟩
    have before : ∀ character ∈ name, decide (character ≠ '=') = true :=
      fun character member => decide_eq_true fun same => missing (same ▸ member)
    rw [splitAtEquals?, List.dropWhile_append_of_pos before, List.takeWhile_append_of_pos before]
    simp

end Text

namespace Openssl

variable {text line value digits : List Char} {modulus : Bytes}

def NamesModulus (line value : List Char) : Prop :=
  ∃ name rest, Text.trim line = name ++ '=' :: rest ∧ '=' ∉ name ∧
    Text.trim name = "Modulus".toList ∧ Text.trim rest = value

def HasModulusLine (text value : List Char) : Prop :=
  ∃ before line after, Text.lines text = before ++ line :: after ∧ NamesModulus line value ∧
    ∀ earlier ∈ before, ¬∃ other, NamesModulus earlier other

def ReportsModulus (text : List Char) (modulus : Bytes) : Prop :=
  ∃ digits, HasModulusLine text digits ∧ Text.Spells digits modulus

def modulusValueOn? (line : List Char) : Option (List Char) :=
  match Text.splitAtEquals? (Text.trim line) with
  | some (name, value) =>
      if Text.trim name = "Modulus".toList then some (Text.trim value) else none
  | none => none

theorem modulusValue?_eq_findSome? (text : List Char) :
    modulusValue? text = (Text.lines text).findSome? modulusValueOn? := rfl

theorem modulusValueOn?_eq_some_iff :
    modulusValueOn? line = some value ↔ NamesModulus line value := by
  constructor
  · intro found
    rw [modulusValueOn?] at found
    split at found
    · next name rest parts =>
      rcases Text.splitAtEquals?_eq_some_iff.mp parts with ⟨line_eq, missing⟩
      split at found
      · next named => exact ⟨name, rest, line_eq, missing, named, Option.some.inj found⟩
      · cases found
    · cases found
  · rintro ⟨name, rest, line_eq, missing, named, value_eq⟩
    rw [modulusValueOn?, Text.splitAtEquals?_eq_some_iff.mpr ⟨line_eq, missing⟩]
    dsimp only
    rw [if_pos named, value_eq]

theorem modulusValue?_eq_some_iff :
    modulusValue? text = some value ↔ HasModulusLine text value := by
  rw [modulusValue?_eq_findSome?, List.findSome?_eq_some_iff]
  constructor
  · rintro ⟨before, line, after, lines_eq, found, unnamed⟩
    refine ⟨before, line, after, lines_eq, modulusValueOn?_eq_some_iff.mp found, ?_⟩
    rintro earlier member ⟨other, names⟩
    have none := unnamed earlier member
    rw [modulusValueOn?_eq_some_iff.mpr names] at none
    cases none
  · rintro ⟨before, line, after, lines_eq, names, unnamed⟩
    refine ⟨before, line, after, lines_eq, modulusValueOn?_eq_some_iff.mpr names, ?_⟩
    intro earlier member
    apply Option.eq_none_iff_forall_ne_some.mpr
    intro other found
    exact unnamed earlier member ⟨other, modulusValueOn?_eq_some_iff.mp found⟩

theorem outcome_readModulus_eq_ok_iff :
    (readModulus text).outcome = .ok modulus ↔ ReportsModulus text modulus := by
  constructor
  · intro done
    rw [readModulus] at done
    split at done
    · cases done
    · next digits found =>
      split at done
      · next bytes read =>
        cases done
        exact ⟨digits, modulusValue?_eq_some_iff.mp found,
          Text.ofHexDigits_utf8_eq_ok_iff.mp read⟩
      · cases done
  · rintro ⟨digits, hasLine, spells⟩
    rw [readModulus, modulusValue?_eq_some_iff.mpr hasLine]
    dsimp only
    rw [Text.ofHexDigits_utf8_eq_ok_iff.mpr spells]
    rfl

/-- What reports no modulus is an unusable key, whatever is wrong with it. -/
theorem outcome_readModulus_eq_error_iff {fault : Fault} :
    (readModulus text).outcome = .error fault ↔
      fault = .unusableKey ∧ ¬∃ modulus, ReportsModulus text modulus := by
  have refusal : ∀ other, (readModulus text).outcome = .error other → other = .unusableKey := by
    intro other refused
    rw [readModulus] at refused
    split at refused
    · exact (Except.error.inj refused).symm
    · split at refused
      · cases refused
      · exact (Except.error.inj refused).symm
  constructor
  · intro refused
    refine ⟨refusal fault refused, ?_⟩
    rintro ⟨modulus, reports⟩
    rw [outcome_readModulus_eq_ok_iff.mpr reports] at refused
    cases refused
  · rintro ⟨rfl, unreported⟩
    cases outcome : (readModulus text).outcome with
    | ok modulus => exact absurd ⟨modulus, outcome_readModulus_eq_ok_iff.mp outcome⟩ unreported
    | error other => rw [refusal other outcome]

end Openssl

end FirmwareCapsule
