import FirmwareCapsule.Proofs.Guid.Reading

namespace FirmwareCapsule.Guid

/-! Where a foreign character is said to stand. Its place in the content is counted in
characters. What stands in front of the content is counted in bytes of UTF-8, and only up to
the first place where the same characters stand. Both counts are right for a content behind
characters of one byte, of which it does not consist itself. -/

variable {part front content back before after known rest : List Char}

/-! ## First occurrences -/

def utf8Length : List Char → Nat
  | [] => 0
  | character :: rest => character.utf8Size + utf8Length rest

theorem utf8Length_eq_length (narrow : ∀ character ∈ front, character.utf8Size = 1) :
    utf8Length front = front.length := by
  induction front with
  | nil => rfl
  | cons character front induction =>
    rw [utf8Length, narrow character List.mem_cons_self, List.length_cons, Nat.add_comm,
      induction fun other member => narrow other (List.mem_cons_of_mem _ member)]

structure FirstOccurrence (part text before after : List Char) : Prop where
  split : text = before ++ (part ++ after)
  first : ∀ earlier later, text = earlier ++ (part ++ later) → before.length ≤ earlier.length

theorem firstOccurrence_here (part after : List Char) :
    FirstOccurrence part (part ++ after) [] after where
  split := rfl
  first := fun _ _ _ => Nat.zero_le _

theorem FirstOccurrence.cons {character : Char} {text : List Char}
    (occurrence : FirstOccurrence part text before after)
    (notHere : ¬ part <+: character :: text) :
    FirstOccurrence part (character :: text) (character :: before) after where
  split := by rw [occurrence.split, List.cons_append]
  first := by
    intro earlier later split
    cases earlier with
    | nil => exact absurd ⟨later, split.symm⟩ notHere
    | cons first earlier =>
      exact Nat.succ_le_succ (occurrence.first earlier later (List.cons.inj split).2)

theorem exists_firstOccurrence {part text : List Char} (occurs : part <:+: text) :
    ∃ before after, FirstOccurrence part text before after ∧
      byteOffset part text = utf8Length before := by
  induction text with
  | nil =>
    rw [List.infix_nil] at occurs
    rw [occurs]
    exact ⟨[], [], firstOccurrence_here [] [], rfl⟩
  | cons character text induction =>
    rw [byteOffset]
    by_cases here : part <+: character :: text
    · rcases here with ⟨after, split⟩
      rw [if_pos (List.isPrefixOf_iff_prefix.mpr ⟨after, split⟩), ← split]
      exact ⟨[], after, firstOccurrence_here part after, rfl⟩
    · rcases induction ((List.infix_cons_iff.mp occurs).resolve_left here) with
        ⟨before, after, occurrence, offset⟩
      rw [if_neg (fun found => here (List.isPrefixOf_iff_prefix.mp found)), offset]
      exact ⟨character :: before, after, occurrence.cons here, rfl⟩

/-- What occurs again a little later repeats what stands in between. -/
theorem mem_of_append_eq {gap part : List Char} (moved : gap ≠ [])
    (again : gap ++ (part ++ back) = part ++ after) : ∀ character ∈ part, character ∈ gap := by
  induction part generalizing gap with
  | nil => exact fun _ => nofun
  | cons first part induction =>
    cases gap with
    | nil => exact absurd rfl moved
    | cons start gap =>
      rcases List.cons.inj again with ⟨rfl, again⟩
      have turned : gap ++ [start] ++ (part ++ back) = part ++ after := by
        rw [List.append_assoc]
        exact again
      intro character member
      rcases List.mem_cons.mp member with rfl | member
      · exact List.mem_cons_self
      · have inside := induction (by simp) turned character member
        rw [List.mem_append, List.mem_singleton] at inside
        rw [List.mem_cons]
        exact inside.symm

theorem FirstOccurrence.prefix_front
    (occurrence : FirstOccurrence part (front ++ (part ++ back)) before after) : before <+: front :=
  List.prefix_of_prefix_length_le (occurrence.split ▸ List.prefix_append before (part ++ after))
    (List.prefix_append front _) (occurrence.first front back rfl)

/-- The first occurrence is the one behind `front`, unless `front` alone has every character of
the part. -/
theorem FirstOccurrence.before_eq
    (occurrence : FirstOccurrence part (front ++ (part ++ back)) before after)
    (other : ∃ character ∈ part, character ∉ front) : before = front := by
  rcases other with ⟨character, member, outside⟩
  rcases occurrence.prefix_front with ⟨gap, rfl⟩
  have again := occurrence.split
  rw [List.append_assoc, List.append_cancel_left_eq] at again
  by_cases moved : gap = []
  · rw [moved, List.append_nil]
  · have inside := mem_of_append_eq moved again character member
    exact absurd (List.mem_append_right before inside) outside

theorem FirstOccurrence.byteOffset_eq {text : List Char}
    (occurrence : FirstOccurrence part text before after) :
    byteOffset part text = utf8Length before := by
  have occurs : part <:+: text := ⟨before, after, by rw [occurrence.split, List.append_assoc]⟩
  rcases exists_firstOccurrence occurs with ⟨other, rest, otherOccurrence, offset⟩
  have same : before.length = other.length :=
    Nat.le_antisymm (occurrence.first other rest otherOccurrence.split)
      (otherOccurrence.first before after occurrence.split)
  rw [offset, (List.append_inj (occurrence.split.symm.trans otherOccurrence.split) same).1]

/-! ## Foreign characters -/

structure HasForeign (text : String) (front known : List Char) (character : Char)
    (rest back : List Char) : Prop where
  surrounds : Surrounds front (known ++ character :: rest) back
  split : text.toList = front ++ (known ++ character :: rest ++ back)
  first : ∀ earlier ∈ known, isForeign earlier = false
  unknown : isForeign character = true

variable {text : String} {character : Char} {position : Nat}

theorem HasForeign.unwrap_eq (has : HasForeign text front known character rest back) :
    unwrap text.toList = known ++ character :: rest :=
  HasContent.unwrap_eq ⟨front, back, has.surrounds, has.split⟩

theorem HasForeign.ofText?_eq (has : HasForeign text front known character rest back) :
    ofText? text = .error (.foreignCharacter
      (byteOffset (known ++ character :: rest) text.toList + known.length + 1) character) := by
  have skipped : known.findIdx? isForeign = none := List.findIdx?_eq_none_iff.mpr has.first
  have passed : known.find? isForeign = none :=
    List.find?_eq_none.mpr fun earlier member => Bool.eq_false_iff.mp (has.first earlier member)
  have place : (known ++ character :: rest).findIdx? isForeign = some known.length := by
    rw [List.findIdx?_append, skipped, List.findIdx?_cons, has.unknown]
    simp
  have found : (known ++ character :: rest).find? isForeign = some character := by
    rw [List.find?_append, passed, List.find?_cons_of_pos has.unknown]
    rfl
  rw [ofText?, ofCharacters?, has.unwrap_eq, place, found]

theorem exists_hasForeign
    (refused : ofText? text = .error (.foreignCharacter position character)) :
    ∃ front known rest back, HasForeign text front known character rest back := by
  rcases exists_surrounds text.toList with ⟨front, back, surrounds, split⟩
  have has : HasContent text (unwrap text.toList) := ⟨front, back, surrounds, split⟩
  have reading := isReading_of_mapError has.mapError_ofText?
  rw [refused] at reading
  cases reading with
  | @foreign _ known rest _ content first unknown =>
    rw [content] at surrounds split
    exact ⟨front, known, rest, back, surrounds, split, first, unknown⟩

structure IsAt (text : String) (position : Nat) (character : Char) : Prop where
  place : ∃ front known rest back, HasForeign text front known character rest back ∧
    position = front.length + known.length + 1
  shown : text.toList[position - 1]? = some character

theorem FirstOccurrence.getElem?_eq {characters : List Char}
    (occurrence : FirstOccurrence (known ++ character :: rest) characters before after) :
    characters[before.length + known.length]? = some character := by
  rw [occurrence.split, List.getElem?_append_right (Nat.le_add_right _ _), Nat.add_sub_cancel_left,
    List.append_assoc, List.getElem?_append_right (Nat.le_refl _), Nat.sub_self]
  rfl

/-- A text that is read with the positions of foreign characters counted in two ways. -/
structure IsReadWithOffsets (text : String) : Prop where
  reported : ∀ position character,
    ofText? text = .error (.foreignCharacter position character) ↔
      ∃ front known rest back before after, HasForeign text front known character rest back ∧
        FirstOccurrence (known ++ character :: rest) text.toList before after ∧
        position = utf8Length before + known.length + 1
  /-- Behind characters of one byte, the position shows the character that is reported. -/
  shown : ∀ position character front known rest back,
    ofText? text = .error (.foreignCharacter position character) →
    HasForeign text front known character rest back →
    (∀ other ∈ front, other.utf8Size = 1) → text.toList[position - 1]? = some character
  /-- If these are not all that the content consists of, it is the place of that character. -/
  right : ∀ position character front known rest back,
    ofText? text = .error (.foreignCharacter position character) →
    HasForeign text front known character rest back →
    (∀ other ∈ front, other.utf8Size = 1) →
    (∃ other ∈ known ++ character :: rest, other ∉ front) → IsAt text position character

theorem HasForeign.exists_firstOccurrence (has : HasForeign text front known character rest back) :
    ∃ before after, FirstOccurrence (known ++ character :: rest) text.toList before after ∧
      ofText? text =
        .error (.foreignCharacter (utf8Length before + known.length + 1) character) := by
  have occurs : known ++ character :: rest <:+: text.toList :=
    ⟨front, back, by rw [has.split, List.append_assoc]⟩
  rcases Guid.exists_firstOccurrence occurs with ⟨before, after, occurrence, offset⟩
  refine ⟨before, after, occurrence, ?_⟩
  rw [has.ofText?_eq, offset]

theorem HasForeign.exists_narrow (has : HasForeign text front known character rest back)
    (narrow : ∀ other ∈ front, other.utf8Size = 1) :
    ∃ before after,
      FirstOccurrence (known ++ character :: rest) (front ++ (known ++ character :: rest ++ back))
        before after ∧
      ofText? text = .error (.foreignCharacter (before.length + known.length + 1) character) := by
  rcases has.exists_firstOccurrence with ⟨before, after, occurrence, reported⟩
  rw [has.split] at occurrence
  have earlier : ∀ other ∈ before, other.utf8Size = 1 :=
    fun other member => narrow other (occurrence.prefix_front.subset member)
  rw [utf8Length_eq_length earlier] at reported
  exact ⟨before, after, occurrence, reported⟩

theorem isReadWithOffsets (text : String) : IsReadWithOffsets text where
  reported := by
    intro position character
    constructor
    · intro refused
      rcases exists_hasForeign refused with ⟨front, known, rest, back, has⟩
      rcases has.exists_firstOccurrence with ⟨before, after, occurrence, reported⟩
      cases refused.symm.trans reported
      exact ⟨front, known, rest, back, before, after, has, occurrence, rfl⟩
    · rintro ⟨front, known, rest, back, before, after, has, occurrence, rfl⟩
      rw [has.ofText?_eq, occurrence.byteOffset_eq]
  shown := by
    intro position character front known rest back refused has narrow
    rcases has.exists_narrow narrow with ⟨before, after, occurrence, reported⟩
    cases refused.symm.trans reported
    rw [has.split, Nat.add_sub_cancel]
    exact occurrence.getElem?_eq
  right := by
    intro position character front known rest back refused has narrow other
    rcases has.exists_narrow narrow with ⟨before, after, occurrence, reported⟩
    cases refused.symm.trans reported
    have here := occurrence.getElem?_eq
    rw [occurrence.before_eq other] at here ⊢
    rw [← has.split] at here
    exact ⟨⟨front, known, rest, back, has, rfl⟩, here⟩

/-- The second brace is foreign, and the first one is the same character. -/
example : ofText? "\x7b\x7b\x7d" = .error (.foreignCharacter 1 '\x7b') := rfl

/-- Behind a blank of three bytes, the position lies two characters too far. -/
theorem exists_not_isAt :
    ∃ text position character, ofText? text = .error (.foreignCharacter position character) ∧
      ¬ IsAt text position character := by
  refine ⟨"\u3000g", 4, 'g', rfl, fun isAt => ?_⟩
  have outside : "\u3000g".toList[4 - 1]? = none := rfl
  exact nomatch outside.symm.trans isAt.shown

end FirmwareCapsule.Guid
