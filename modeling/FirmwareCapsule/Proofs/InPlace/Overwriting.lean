import FirmwareCapsule.Bytes.Basic

namespace FirmwareCapsule

/-! Bytes in place of others. They are found where they were written and everything else is as
before, so that places that lie apart may be overwritten in any order. -/

variable {buffer bytes otherBytes : Bytes} {start other stop size : Nat}

def overwrite (buffer : Bytes) (start : Nat) (bytes : Bytes) : Bytes :=
  buffer.take start ++ (bytes ++ buffer.drop (start + bytes.length))

structure Replaces (before : Bytes) (start : Nat) (bytes after : Bytes) : Prop where
  length_eq : after.length = before.length
  inside : after.extract start (start + bytes.length) = bytes
  outside : ∀ position, position < start ∨ start + bytes.length ≤ position →
    after[position]? = before[position]?

theorem length_overwrite (fits : start + bytes.length ≤ buffer.length) :
    (overwrite buffer start bytes).length = buffer.length := by
  rw [overwrite, List.length_append, List.length_append, List.length_take, List.length_drop]
  omega

theorem getElem?_overwrite (fits : start + bytes.length ≤ buffer.length) (position : Nat) :
    (overwrite buffer start bytes)[position]? =
      if start ≤ position ∧ position < start + bytes.length then bytes[position - start]?
      else buffer[position]? := by
  have front : (buffer.take start).length = start := List.length_take_of_le (by omega)
  rw [overwrite]
  by_cases before : position < start
  · rw [List.getElem?_append_left (by omega), List.getElem?_take_of_lt before, if_neg (by omega)]
  rw [List.getElem?_append_right (by omega), front]
  by_cases inside : position < start + bytes.length
  · rw [List.getElem?_append_left (by omega), if_pos ⟨by omega, inside⟩]
  · have behind : start + bytes.length + (position - start - bytes.length) = position := by omega
    rw [List.getElem?_append_right (by omega), List.getElem?_drop, behind, if_neg (by omega)]

theorem replaces_overwrite (fits : start + bytes.length ≤ buffer.length) :
    Replaces buffer start bytes (overwrite buffer start bytes) where
  length_eq := length_overwrite fits
  inside := extract_middle (List.length_take_of_le (by omega)) rfl
  outside := by
    intro position outside
    rw [getElem?_overwrite fits, if_neg (by omega)]

theorem overwrite_of_extract (cut : buffer.extract start (start + bytes.length) = bytes) :
    overwrite buffer start bytes = buffer :=
  (eq_append_of_extract (Nat.le_add_right _ _) cut).symm

theorem extract_overwrite_of_apart (fits : start + bytes.length ≤ buffer.length)
    (apart : stop ≤ start ∨ start + bytes.length ≤ other) :
    (overwrite buffer start bytes).extract other stop = buffer.extract other stop := by
  rw [List.extract_eq_take_drop, List.extract_eq_take_drop]
  apply take_eq_take_of_agree
  intro position inside
  rw [List.getElem?_drop, List.getElem?_drop, getElem?_overwrite fits, if_neg (by omega)]

theorem overwrite_comm (fits : start + bytes.length ≤ buffer.length)
    (otherFits : other + otherBytes.length ≤ buffer.length)
    (apart : start + bytes.length ≤ other ∨ other + otherBytes.length ≤ start) :
    overwrite (overwrite buffer start bytes) other otherBytes =
      overwrite (overwrite buffer other otherBytes) start bytes := by
  apply List.ext_getElem?
  intro position
  rw [getElem?_overwrite (by rwa [length_overwrite fits]), getElem?_overwrite fits,
    getElem?_overwrite (by rwa [length_overwrite otherFits]), getElem?_overwrite otherFits]
  by_cases inside : start ≤ position ∧ position < start + bytes.length
  · have otherOutside : ¬ (other ≤ position ∧ position < other + otherBytes.length) := by omega
    simp only [if_pos inside, if_neg otherOutside]
  · simp only [if_neg inside]

end FirmwareCapsule
