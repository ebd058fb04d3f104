import FirmwareCapsule.Proofs.Openssl.Modulus
import FirmwareCapsule.Proofs.Text.Trimming
import Mathlib.Data.List.Forall2

namespace FirmwareCapsule

/-! The line of the modulus, as it stands in a text. The first line that names the modulus in
front of its first equals sign decides, whatever lines follow: its value is read if it is made of
pairs of digits, and the key is unusable otherwise. -/

namespace Text

variable {digits value : List Char} {bytes : Bytes}

def halves (bytes : Bytes) : List Nat :=
  bytes.flatMap fun byte => [byte.toNat / 16, byte.toNat % 16]

theorem spells_of_forall₂ (written : List.Forall₂ (IsDigit 16) (halves bytes) digits) :
    Spells digits bytes := by
  induction bytes generalizing digits with
  | nil =>
    cases written
    exact .nil
  | cons byte bytes induction =>
    rcases written with _ | ⟨first, _ | ⟨second, rest⟩⟩
    exact .cons (hexDigit?_eq_some_iff.mpr first) (hexDigit?_eq_some_iff.mpr second)
      (induction rest)

def ArePaired (value : List Char) : Prop :=
  value.length % 2 = 0 ∧ ∀ character ∈ value, ∃ digit, IsDigit 16 digit character

theorem Spells.arePaired (spells : Spells value bytes) : ArePaired value := by
  constructor
  · rw [spells.length_eq, Nat.mul_mod_right]
  · intro character member
    rcases spells.exists_hexDigit? character member with ⟨digit, found⟩
    exact ⟨digit, hexDigit?_eq_some_iff.mp found⟩

theorem Spells.isTrimmed (spells : Spells digits bytes) : IsTrimmed digits := by
  apply isTrimmed_of_not_isBlank
  intro character member
  rcases spells.exists_hexDigit? character member with ⟨digit, found⟩
  exact isBlank_of_hexDigit? found

/-! ## Lines -/

inductive IsLineEnd : List Char → Prop
  | ofText : IsLineEnd []
  | lineFeed (rest : List Char) : IsLineEnd ('\n' :: rest)
  | carriageReturn (rest : List Char) : IsLineEnd ('\r' :: '\n' :: rest)

theorem lines_append {before : List (List Char)}
    (unbroken : ∀ line ∈ before, '\n' ∉ line) (rest : List Char) :
    lines (before.flatMap (· ++ ['\n']) ++ rest) = before ++ lines rest := by
  induction before with
  | nil => rfl
  | cons line before induction =>
    have first := unbroken line List.mem_cons_self
    have others := induction fun other member => unbroken other (List.mem_cons_of_mem _ member)
    rw [List.flatMap_cons, List.append_assoc, List.append_assoc, List.singleton_append, lines,
      List.splitOn_append_cons_self_of_not_mem first]
    exact congrArg (List.cons line) others

/-- A carriage return in front of a line feed is part of the line. -/
theorem exists_lines_append {line ending : List Char} (unbroken : '\n' ∉ line)
    (isEnd : IsLineEnd ending) :
    ∃ last after, lines (line ++ ending) = last :: after ∧ IsPadded line last := by
  cases isEnd with
  | ofText =>
    refine ⟨line, [], ?_, isPadded_self line⟩
    rw [List.append_nil]
    exact List.splitOn_eq_singleton unbroken
  | lineFeed rest =>
    exact ⟨line, lines rest, List.splitOn_append_cons_self_of_not_mem unbroken rest,
      isPadded_self line⟩
  | carriageReturn rest =>
    have stillUnbroken : '\n' ∉ line ++ ['\r'] := by
      rw [List.mem_append, not_or]
      exact ⟨unbroken, by decide⟩
    have blank : ∀ character ∈ ['\r'], isBlank character = true :=
      List.forall_mem_singleton.mpr (by decide)
    refine ⟨line ++ ['\r'], lines rest, ?_, [], ['\r'], nofun, blank, rfl⟩
    rw [List.append_cons]
    exact List.splitOn_append_cons_self_of_not_mem stillUnbroken rest

end Text

namespace Openssl

variable {text line value digits : List Char} {modulus : Bytes}

/-! ## Lines that name a modulus -/

def IsModulusLine (line value : List Char) : Prop :=
  ∃ name rest, line = name ++ '=' :: rest ∧ Text.IsPadded "Modulus".toList name ∧
    Text.IsPadded value rest

theorem not_mem_of_isPadded {name : List Char} (padded : Text.IsPadded "Modulus".toList name) :
    '=' ∉ name := by
  rw [padded.mem_iff (by decide)]
  decide

theorem trim_eq_name_iff {name : List Char} :
    Text.trim name = "Modulus".toList ↔ Text.IsPadded "Modulus".toList name := by
  have solid : ("Modulus".toList.all fun character => !Text.isBlank character) = true := by
    decide
  have trimmed : Text.IsTrimmed "Modulus".toList :=
    Text.isTrimmed_of_not_isBlank fun character member =>
      Bool.not_eq_true' _ ▸ List.all_eq_true.mp solid character member
  rw [Text.trim_eq_iff]
  exact and_iff_right trimmed

/-- It comes to the same whether the blanks around a line are passed over before or after it is
taken apart. -/
theorem namesModulus_iff :
    NamesModulus line value ↔ IsModulusLine line value ∧ Text.IsTrimmed value := by
  rcases Text.isPadded_trim line with ⟨front, back, blankFront, blankBack, line_eq⟩
  have noBlanks : ∀ character ∈ ([] : List Char), Text.isBlank character = true := nofun
  have namePadded (name : List Char) : Text.IsPadded name (front ++ name) :=
    ⟨front, [], blankFront, noBlanks, by rw [List.append_nil]⟩
  have restPadded (rest : List Char) : Text.IsPadded rest (rest ++ back) :=
    ⟨[], back, noBlanks, blankBack, rfl⟩
  have joined (name rest : List Char) (trim_eq : Text.trim line = name ++ '=' :: rest) :
      line = (front ++ name) ++ '=' :: (rest ++ back) := by
    rw [line_eq, trim_eq]
    simp only [List.append_assoc, List.cons_append]
  constructor
  · rintro ⟨name, rest, trim_eq, -, named, value_eq⟩
    rw [← (namePadded name).trim_eq, trim_eq_name_iff] at named
    rw [← (restPadded rest).trim_eq, Text.trim_eq_iff] at value_eq
    exact ⟨⟨_, _, joined name rest trim_eq, named, value_eq.2⟩, value_eq.1⟩
  · rintro ⟨⟨name, rest, parts, named, padded⟩, trimmed⟩
    have whole : '=' ∈ line := parts ▸ List.mem_append_right _ List.mem_cons_self
    have member := ((Text.isPadded_trim line).mem_iff (by decide)).mp whole
    rcases List.eq_append_cons_of_mem member with ⟨inner, behind, trim_eq, missing⟩
    rw [← (namePadded inner).mem_iff (by decide)] at missing
    -- A line has one first equals sign, so both ways to take it apart are the same.
    have sameParts : some (name, rest) = some (front ++ inner, behind ++ back) := by
      rw [← Text.splitAtEquals?_eq_some_iff.mpr ⟨parts, not_mem_of_isPadded named⟩]
      exact Text.splitAtEquals?_eq_some_iff.mpr ⟨joined inner behind trim_eq, missing⟩
    cases sameParts
    rw [(namePadded inner).mem_iff (by decide)] at missing
    refine ⟨inner, behind, trim_eq, missing, ?_, ?_⟩
    · rw [← (namePadded inner).trim_eq, trim_eq_name_iff]
      exact named
    · rw [← (restPadded behind).trim_eq, Text.trim_eq_iff]
      exact ⟨trimmed, padded⟩

def IsFirstLine (text line : List Char) : Prop :=
  ∃ (before : List (List Char)) (ending : List Char),
    text = before.flatMap (· ++ ['\n']) ++ (line ++ ending) ∧
    (∀ earlier ∈ before, '\n' ∉ earlier ∧ ¬∃ value, IsModulusLine earlier value) ∧
    '\n' ∉ line ∧ Text.IsLineEnd ending

theorem hasModulusLine_of_isFirstLine (isFirst : IsFirstLine text line)
    (isLine : IsModulusLine line value) (trimmed : Text.IsTrimmed value) :
    HasModulusLine text value := by
  rcases isFirst with ⟨before, ending, rfl, earlier, unbroken, isEnd⟩
  rcases Text.exists_lines_append unbroken isEnd with ⟨last, after, lines_eq, padded⟩
  refine ⟨before, last, after, ?_, ?_, ?_⟩
  · rw [Text.lines_append fun other member => (earlier other member).1, lines_eq]
  · rw [NamesModulus, padded.trim_eq]
    exact namesModulus_iff.mpr ⟨isLine, trimmed⟩
  · rintro other member ⟨otherValue, names⟩
    exact (earlier other member).2 ⟨otherValue, (namesModulus_iff.mp names).1⟩

/-! ## Reading -/

theorem not_reportsModulus_of_value (hasLine : HasModulusLine text value)
    (unpaired : ¬Text.ArePaired value) : ¬∃ modulus, ReportsModulus text modulus := by
  rintro ⟨modulus, digits, otherLine, spells⟩
  have found := modulusValue?_eq_some_iff.mpr hasLine
  rw [modulusValue?_eq_some_iff.mpr otherLine] at found
  exact unpaired (Option.some.inj found ▸ spells.arePaired)

/-- The modulus is that of the first line that names one, and no later line makes up for a value
that cannot be read. -/
structure IsReadFromFirstLine (text : List Char) : Prop where
  read : ∀ line digits modulus, IsFirstLine text line → IsModulusLine line digits →
    List.Forall₂ (Text.IsDigit 16) (Text.halves modulus) digits →
      (readModulus text).outcome = .ok modulus
  unpaired : ∀ line value, IsFirstLine text line → IsModulusLine line value →
    Text.IsTrimmed value → ¬Text.ArePaired value →
      (readModulus text).outcome = .error .unusableKey
  unnamed : (∀ line ∈ text.splitOn '\n', ¬∃ value, IsModulusLine line value) →
    (readModulus text).outcome = .error .unusableKey

theorem isReadFromFirstLine (text : List Char) : IsReadFromFirstLine text where
  read := by
    intro line digits modulus isFirst isLine written
    have spells := Text.spells_of_forall₂ written
    exact outcome_readModulus_eq_ok_iff.mpr
      ⟨digits, hasModulusLine_of_isFirstLine isFirst isLine spells.isTrimmed, spells⟩
  unpaired := by
    intro line value isFirst isLine trimmed unpaired
    have hasLine := hasModulusLine_of_isFirstLine isFirst isLine trimmed
    exact outcome_readModulus_eq_error_iff.mpr
      ⟨rfl, not_reportsModulus_of_value hasLine unpaired⟩
  unnamed := by
    intro unnamed
    refine outcome_readModulus_eq_error_iff.mpr ⟨rfl, ?_⟩
    rintro ⟨modulus, digits, ⟨before, line, after, lines_eq, names, -⟩, -⟩
    have member : line ∈ text.splitOn '\n' := by
      rw [Text.lines] at lines_eq
      rw [lines_eq]
      exact List.mem_append_right _ List.mem_cons_self
    exact unnamed line member ⟨digits, (namesModulus_iff.mp names).1⟩

example : (readModulus "key\nModulus = 0aFf\r\nModulus=1".toList).outcome = .ok [0x0A, 0xFF] := by
  decide +kernel

end Openssl

end FirmwareCapsule
