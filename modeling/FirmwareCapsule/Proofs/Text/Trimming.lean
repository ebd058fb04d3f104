import FirmwareCapsule.Text.Blank

namespace FirmwareCapsule.Text

/-! What trimming leaves. It is the one text without blanks at its ends that the blanks may have
been put around, and further blanks around a text do not change it. -/

def IsPadded (inner text : List Char) : Prop :=
  ∃ front back, (∀ character ∈ front, isBlank character = true) ∧
    (∀ character ∈ back, isBlank character = true) ∧ text = front ++ (inner ++ back)

variable {inner text : List Char}

theorem trim_eq_iff : trim text = inner ↔ IsTrimmed inner ∧ IsPadded inner text := by
  constructor
  · rintro rfl
    rcases exists_trim text with ⟨front, back, before, behind, trimmed, text_eq⟩
    exact ⟨trimmed, front, back, before, behind, text_eq⟩
  · rintro ⟨trimmed, front, back, before, behind, rfl⟩
    exact trim_append before behind trimmed

theorem IsPadded.trim_eq (padded : IsPadded inner text) : trim text = trim inner := by
  rcases padded with ⟨front, back, before, behind, rfl⟩
  rcases trim_eq_iff.mp (Eq.refl (trim inner)) with
    ⟨trimmed, innerFront, innerBack, innerBefore, innerBehind, inner_eq⟩
  refine trim_eq_iff.mpr ⟨trimmed, front ++ innerFront, innerBack ++ back, ?_, ?_, ?_⟩
  · exact List.forall_mem_append.mpr ⟨before, innerBefore⟩
  · exact List.forall_mem_append.mpr ⟨innerBehind, behind⟩
  · conv => lhs; rw [inner_eq]
    simp only [List.append_assoc]

theorem IsPadded.mem_iff {character : Char} (padded : IsPadded inner text)
    (solid : isBlank character = false) : character ∈ text ↔ character ∈ inner := by
  rcases padded with ⟨front, back, before, behind, rfl⟩
  have outside {blanks : List Char} (blank : ∀ other ∈ blanks, isBlank other = true) :
      character ∉ blanks := by
    intro member
    rw [blank character member] at solid
    cases solid
  rw [List.mem_append, List.mem_append, or_iff_right (outside before),
    or_iff_left (outside behind)]

theorem isPadded_trim (text : List Char) : IsPadded (trim text) text :=
  (trim_eq_iff.mp rfl).2

theorem isPadded_self (text : List Char) : IsPadded text text :=
  ⟨[], [], nofun, nofun, (List.append_nil text).symm⟩

theorem isTrimmed_of_not_isBlank (solid : ∀ character ∈ text, isBlank character = false) :
    IsTrimmed text where
  first character found := solid character (List.mem_of_head? found)
  last character found := solid character (List.mem_of_getLast? found)

end FirmwareCapsule.Text
