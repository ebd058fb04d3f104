import FirmwareCapsule.Proofs.Management.CapsuleForm

namespace FirmwareCapsule.Management.Capsule

/-! The reserved bytes of items that lie one behind the other. They are passed over
item by item, and that is the same as passing over some places of the whole. -/

def IsReservedAmong (starts : List Nat) (position : Nat) : Prop :=
  ∃ start ∈ starts, start + 21 ≤ position ∧ position < start + 24

instance (starts : List Nat) (position : Nat) : Decidable (IsReservedAmong starts position) :=
  List.decidableBEx (fun start => start + 21 ≤ position ∧ position < start + 24) starts

theorem isReservedAmong_startsFrom_add {start shift position : Nat} {parts : List Bytes} :
    IsReservedAmong (startsFrom (start + shift) parts) (position + shift) ↔
      IsReservedAmong (startsFrom start parts) position := by
  rw [startsFrom_add]
  constructor
  · rintro ⟨place, member, low, high⟩
    rcases List.mem_map.mp member with ⟨earlier, inParts, rfl⟩
    exact ⟨earlier, inParts, by omega, by omega⟩
  · rintro ⟨place, member, low, high⟩
    exact ⟨place + shift, List.mem_map_of_mem member, by omega, by omega⟩

theorem isReservedAmong_startsFrom_of_lt {position : Nat} {part : Bytes} {rest : List Bytes}
    (inPart : position < part.length) :
    IsReservedAmong (startsFrom 0 (part :: rest)) position ↔ 21 ≤ position ∧ position < 24 := by
  constructor
  · rintro ⟨start, member, low, high⟩
    rcases List.mem_cons.mp member with first | later
    · omega
    · have behind := le_of_mem_startsFrom later
      omega
  · intro reserved
    exact ⟨0, List.mem_cons_self, by omega, by omega⟩

theorem isReservedAmong_startsFrom_add_length {position : Nat} {part : Bytes} {rest : List Bytes}
    (long : 24 ≤ part.length) :
    IsReservedAmong (startsFrom 0 (part :: rest)) (position + part.length) ↔
      IsReservedAmong (startsFrom 0 rest) position := by
  have shifted : IsReservedAmong (startsFrom (0 + part.length) rest) (position + part.length) ↔
      IsReservedAmong (startsFrom 0 rest) position := isReservedAmong_startsFrom_add
  rw [← shifted]
  constructor
  · rintro ⟨start, member, low, high⟩
    rcases List.mem_cons.mp member with first | later
    · omega
    · exact ⟨start, later, low, high⟩
  · rintro ⟨start, member, low, high⟩
    exact ⟨start, List.mem_cons_of_mem 0 member, low, high⟩

theorem flatten_map_clearReserved {parts : List Bytes}
    (long : ∀ part ∈ parts, 24 ≤ part.length) :
    (parts.map Item.clearReserved).flatten = parts.flatten.mapIdx fun position byte =>
      if IsReservedAmong (startsFrom 0 parts) position then 0 else byte := by
  induction parts with
  | nil => rfl
  | cons part rest induction =>
      have partLong := long part List.mem_cons_self
      rw [List.map_cons, List.flatten_cons, List.flatten_cons, List.mapIdx_append,
        Item.clearReserved_eq_mapIdx partLong,
        induction fun later member => long later (List.mem_cons_of_mem part member)]
      congr 1
      · rw [List.mapIdx_eq_mapIdx_iff]
        intro position inPart
        simp only [isReservedAmong_startsFrom_of_lt inPart]
      · simp only [isReservedAmong_startsFrom_add_length partLong]

theorem map_length_clearReserved {parts : List Bytes}
    (long : ∀ part ∈ parts, 24 ≤ part.length) :
    (parts.map Item.clearReserved).map List.length = parts.map List.length := by
  rw [List.map_map]
  apply List.map_congr_left
  intro part member
  change (Item.clearReserved part).length = part.length
  rw [Item.clearReserved_eq_mapIdx (long part member), List.length_mapIdx]

theorem map_clearReserved_eq_iff {left right : List Bytes}
    (sizes : left.map List.length = right.map List.length)
    (leftLong : ∀ part ∈ left, 24 ≤ part.length) (rightLong : ∀ part ∈ right, 24 ≤ part.length) :
    left.map Item.clearReserved = right.map Item.clearReserved ↔
      ∀ position, ¬ IsReservedAmong (startsFrom 0 left) position →
        left.flatten[position]? = right.flatten[position]? := by
  have clearedSizes : (left.map Item.clearReserved).map List.length =
      (right.map Item.clearReserved).map List.length := by
    rw [map_length_clearReserved leftLong, map_length_clearReserved rightLong, sizes]
  have total : left.flatten.length = right.flatten.length := by
    rw [List.length_flatten, List.length_flatten, sizes]
  rw [List.eq_iff_flatten_eq, and_iff_left clearedSizes, flatten_map_clearReserved leftLong,
    flatten_map_clearReserved rightLong, ← startsFrom_congr sizes]
  constructor
  · intro equal position open_
    have here := congrArg (·[position]?) equal
    simpa only [List.getElem?_mapIdx, if_neg open_, Option.map_id'] using here
  · intro agree
    apply List.ext_getElem?
    intro position
    rw [List.getElem?_mapIdx, List.getElem?_mapIdx]
    by_cases reserved : IsReservedAmong (startsFrom 0 left) position
    · simp only [if_pos reserved]
      by_cases inside : position < left.flatten.length
      · rw [List.getElem?_eq_getElem inside, List.getElem?_eq_getElem (total ▸ inside)]
        rfl
      · rw [List.getElem?_eq_none (Nat.not_lt.mp inside),
          List.getElem?_eq_none (total ▸ Nat.not_lt.mp inside)]
    · rw [agree position reserved]

/-! ## Reserved bytes of a capsule -/

def IsReserved (capsule : Capsule) (position : Nat) : Prop :=
  ∃ start ∈ capsule.itemOffsets.drop capsule.driverCount.toNat,
    start.toNat + 21 ≤ position ∧ position < start.toNat + 24

instance (capsule : Capsule) (position : Nat) : Decidable (capsule.IsReserved position) :=
  List.decidableBEx
    (fun start : UInt64 => start.toNat + 21 ≤ position ∧ position < start.toNat + 24)
    (capsule.itemOffsets.drop capsule.driverCount.toNat)

theorem isReserved_add_iff {capsule : Capsule} {base position : Nat} {parts : List Bytes}
    (places : (capsule.itemOffsets.drop capsule.driverCount.toNat).map UInt64.toNat =
      startsFrom base parts) :
    capsule.IsReserved (position + base) ↔ IsReservedAmong (startsFrom 0 parts) position := by
  have shifted : IsReservedAmong (startsFrom (0 + base) parts) (position + base) ↔
      IsReservedAmong (startsFrom 0 parts) position := isReservedAmong_startsFrom_add
  rw [Nat.zero_add, ← places] at shifted
  rw [← shifted]
  constructor
  · rintro ⟨start, member, low, high⟩
    exact ⟨start.toNat, List.mem_map_of_mem member, low, high⟩
  · rintro ⟨place, member, low, high⟩
    rcases List.mem_map.mp member with ⟨start, inItems, rfl⟩
    exact ⟨start, inItems, low, high⟩

end FirmwareCapsule.Management.Capsule
