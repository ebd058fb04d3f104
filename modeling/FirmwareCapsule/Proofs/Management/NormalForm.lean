import FirmwareCapsule.Proofs.Management.Format
import FirmwareCapsule.Proofs.Management.Run

namespace FirmwareCapsule.Management.Capsule

/-! The normal form of management capsules. Writing a capsule that was read always
succeeds. It drops the embedded drivers and the gap in front of the items, puts zero
into their reserved bytes, and keeps the rest; doing it again changes nothing. -/

def withoutReserved (capsule : Capsule) (buffer : Bytes) : Bytes :=
  buffer.mapIdx fun position byte => if capsule.IsReserved position then 0 else byte

structure IsNormalForm (buffer : Bytes) (capsule : Capsule) (normal : Bytes) (again : Capsule) :
    Prop where
  written : capsule.encode.outcome = .ok (normal, again)
  read : (decode normal).outcome = .ok again
  items : again.items = capsule.items
  driverCount : again.driverCount = 0
  offsetCount : again.itemOffsets.length = capsule.items.length
  firstOffset : again.itemOffsets[0]?.map UInt64.toNat = some (8 + 8 * capsule.items.length)
  nextOffset : ∀ index item start next, capsule.items[index]? = some item →
    again.itemOffsets[index]? = some start → again.itemOffsets[index + 1]? = some next →
    ∃ bytes, item.encode = .ok bytes ∧ next.toNat = start.toNat + bytes.length
  writtenAgain : again.encode.outcome = .ok (normal, again)
  itemArea : ∃ first, capsule.itemOffsets[capsule.driverCount.toNat]? = some first ∧
    normal.drop (8 + 8 * capsule.items.length) =
      (capsule.withoutReserved buffer).drop first.toNat
  unchanged : normal = buffer ↔ capsule.driverCount = 0 ∧
    capsule.itemOffsets[0]?.map UInt64.toNat = some (8 + 8 * capsule.items.length) ∧
    ∀ position, capsule.IsReserved position → buffer[position]? = some 0

theorem exists_gap_of_first {buffer : Bytes} {capsule : Capsule} {first : UInt64}
    (accepted : (decode buffer).outcome = .ok capsule)
    (found : capsule.itemOffsets[capsule.driverCount.toNat]? = some first) :
    ∃ gap, (capsule.front ++ gap).length = first.toNat ∧
      buffer = capsule.front ++ gap ++ (capsule.itemParts buffer).flatten ∧
      (capsule.itemOffsets.drop capsule.driverCount.toNat).map UInt64.toNat =
        startsFrom first.toNat (capsule.itemParts buffer) := by
  rcases exists_gap_of_outcome_decode accepted with ⟨gap, divided, places⟩
  have firstPlace : (startsFrom (capsule.front ++ gap).length (capsule.itemParts buffer))[0]? =
      some first.toNat := by
    rw [← places, List.getElem?_map, List.getElem?_drop, Nat.add_zero, found, Option.map_some]
  rcases partsFound : capsule.itemParts buffer with _ | ⟨part, rest⟩
  · exact absurd partsFound (itemParts_ne_nil accepted)
  · rw [partsFound, startsFrom, List.getElem?_cons_zero, Option.some.injEq] at firstPlace
    rw [← partsFound]
    exact ⟨gap, firstPlace, divided, firstPlace ▸ places⟩

theorem exists_first_of_outcome_decode {buffer : Bytes} {capsule : Capsule}
    (accepted : (decode buffer).outcome = .ok capsule) :
    ∃ first, capsule.itemOffsets[capsule.driverCount.toNat]? = some first := by
  have fits := (outcome_decode_eq_ok_iff.mp accepted).1
  have inside : capsule.driverCount.toNat < capsule.itemOffsets.length := by
    have offsetCount := fits.offsetCount
    have positive := fits.itemCount_pos
    omega
  exact ⟨_, List.getElem?_eq_getElem inside⟩

theorem writable_of_outcome_decode {buffer : Bytes} {capsule : Capsule}
    (accepted : (decode buffer).outcome = .ok capsule) : capsule.Writable :=
  (consistent_of_outcome_decode accepted).writable
    (List.length_pos_iff.mp (outcome_decode_eq_ok_iff.mp accepted).1.itemCount_pos)

theorem drop_writtenBytes_of_outcome_decode {buffer : Bytes} {capsule : Capsule} {first : UInt64}
    (accepted : (decode buffer).outcome = .ok capsule)
    (found : capsule.itemOffsets[capsule.driverCount.toNat]? = some first) :
    capsule.writtenBytes.drop (8 + 8 * capsule.items.length) =
      (capsule.withoutReserved buffer).drop first.toNat := by
  rcases exists_gap_of_first accepted found with ⟨gap, base, divided, places⟩
  rw [drop_writtenBytes, ← map_clearReserved_itemParts accepted,
    flatten_map_clearReserved (long_of_mem_itemParts accepted), withoutReserved]
  conv => rhs; rw [divided, List.mapIdx_append, List.drop_left' (by rw [List.length_mapIdx, base])]
  simp only [base, isReserved_add_iff places]

theorem IsReserved.bounds {buffer : Bytes} {capsule : Capsule} {first : UInt64} {position : Nat}
    (reserved : capsule.IsReserved position)
    (accepted : (decode buffer).outcome = .ok capsule)
    (found : capsule.itemOffsets[capsule.driverCount.toNat]? = some first) :
    first.toNat ≤ position ∧ position < buffer.length := by
  rcases exists_gap_of_first accepted found with ⟨gap, base, divided, places⟩
  rcases reserved with ⟨start, inItems, low, high⟩
  have member := List.mem_map_of_mem (f := UInt64.toNat) inItems
  rw [places] at member
  have behind := le_of_mem_startsFrom member
  have inside := add_le_of_mem_startsFrom (long_of_mem_itemParts accepted) member
  have total := congrArg List.length divided
  rw [List.length_append, base] at total
  omega

theorem drop_withoutReserved_eq_iff {buffer : Bytes} {capsule : Capsule} {first : UInt64}
    (accepted : (decode buffer).outcome = .ok capsule)
    (found : capsule.itemOffsets[capsule.driverCount.toNat]? = some first) :
    (capsule.withoutReserved buffer).drop first.toNat = buffer.drop first.toNat ↔
      ∀ position, capsule.IsReserved position → buffer[position]? = some 0 := by
  constructor
  · intro equal position reserved
    rcases reserved.bounds accepted found with ⟨behind, inside⟩
    have here := congrArg (·[position - first.toNat]?) equal
    simp only [List.getElem?_drop, Nat.add_sub_cancel' behind, withoutReserved,
      List.getElem?_mapIdx, List.getElem?_eq_getElem inside, Option.map_some,
      if_pos reserved] at here
    rw [List.getElem?_eq_getElem inside, ← here]
  · intro zero
    apply List.ext_getElem?
    intro position
    rw [List.getElem?_drop, List.getElem?_drop, withoutReserved, List.getElem?_mapIdx]
    by_cases reserved : capsule.IsReserved (first.toNat + position)
    · rw [zero _ reserved, Option.map_some, if_pos reserved]
    · simp only [if_neg reserved, Option.map_id']

theorem toNat_first_of_no_drivers {capsule : Capsule} {first : UInt64} {place : Nat}
    (noDrivers : capsule.driverCount = 0)
    (found : capsule.itemOffsets[capsule.driverCount.toNat]? = some first)
    (firstPlace : capsule.itemOffsets[0]?.map UInt64.toNat = some place) :
    first.toNat = place := by
  rw [noDrivers] at found
  change capsule.itemOffsets[0]? = some first at found
  rwa [found, Option.map_some, Option.some.injEq] at firstPlace

theorem written_eq_self {buffer : Bytes} {capsule : Capsule}
    (accepted : (decode buffer).outcome = .ok capsule) (noDrivers : capsule.driverCount = 0)
    (firstPlace : capsule.itemOffsets[0]?.map UInt64.toNat =
      some (8 + 8 * capsule.items.length)) : capsule.written = capsule := by
  rcases exists_first_of_outcome_decode accepted with ⟨first, found⟩
  rcases exists_gap_of_first accepted found with ⟨_, _, _, places⟩
  rw [toNat_first_of_no_drivers noDrivers found firstPlace, noDrivers] at places
  change capsule.itemOffsets.map UInt64.toNat = _ at places
  have sizes : (capsule.itemParts buffer).map List.length =
      (capsule.items.map Item.toBytes).map List.length := by
    rw [map_length_itemParts accepted, List.map_map]
    rfl
  have writable := writable_of_outcome_decode accepted
  have offsets : capsule.written.itemOffsets = capsule.itemOffsets := by
    refine (List.map_inj_right fun _ _ => UInt64.toNat_inj.mp).mp ?_
    rw [writable.map_toNat_itemOffsets_written, places, startsFrom_congr sizes]
    rfl
  have kept : capsule.written = ⟨0, capsule.written.itemOffsets, capsule.items⟩ := rfl
  rw [kept, offsets, ← noDrivers]

theorem writtenBytes_eq_iff {buffer : Bytes} {capsule : Capsule}
    (accepted : (decode buffer).outcome = .ok capsule) :
    capsule.writtenBytes = buffer ↔ capsule.driverCount = 0 ∧
      capsule.itemOffsets[0]?.map UInt64.toNat = some (8 + 8 * capsule.items.length) ∧
      ∀ position, capsule.IsReserved position → buffer[position]? = some 0 := by
  have writable := writable_of_outcome_decode accepted
  rcases exists_first_of_outcome_decode accepted with ⟨first, found⟩
  rcases exists_gap_of_first accepted found with ⟨gap, base, divided, _⟩
  have itemArea := drop_writtenBytes_of_outcome_decode accepted found
  rw [← drop_withoutReserved_eq_iff accepted found]
  constructor
  · intro equal
    have again := writable.outcome_decode_writtenBytes (wellFormed_of_outcome_decode accepted)
    rw [equal, accepted, Except.ok.injEq] at again
    have noDrivers : capsule.driverCount = 0 := congrArg driverCount again
    have firstPlace := writable.firstOffset_written
    rw [← again] at firstPlace
    refine ⟨noDrivers, firstPlace, ?_⟩
    rw [← itemArea, equal, toNat_first_of_no_drivers noDrivers found firstPlace]
  · rintro ⟨noDrivers, firstPlace, zero⟩
    have unmoved := written_eq_self accepted noDrivers firstPlace
    have noGap : gap = [] := by
      have frontSize := capsule.length_front
      rw [← unmoved, length_itemOffsets_written, unmoved, listEnd] at frontSize
      rw [List.length_append, toNat_first_of_no_drivers noDrivers found firstPlace] at base
      exact List.length_eq_zero_iff.mp (by omega)
    calc
      capsule.writtenBytes
          = capsule.front ++ capsule.writtenBytes.drop (8 + 8 * capsule.items.length) := by
            rw [drop_writtenBytes, writtenBytes, unmoved]
      _ = capsule.front ++ buffer.drop first.toNat := by rw [itemArea, zero]
      _ = buffer := by
            conv => lhs; rw [divided]
            conv => rhs; rw [divided]
            rw [List.drop_left' base, noGap, List.append_nil]

theorem exists_normalForm_of_outcome_decode {buffer : Bytes} {capsule : Capsule}
    (accepted : (decode buffer).outcome = .ok capsule) :
    ∃ normal again, IsNormalForm buffer capsule normal again := by
  have writable := writable_of_outcome_decode accepted
  have wellFormed := wellFormed_of_outcome_decode accepted
  rcases exists_first_of_outcome_decode accepted with ⟨first, found⟩
  refine ⟨capsule.writtenBytes, capsule.written, ?_⟩
  exact {
    written := writable.outcome_encode
    read := writable.outcome_decode_writtenBytes wellFormed
    items := rfl
    driverCount := rfl
    offsetCount := length_itemOffsets_written capsule
    firstOffset := writable.firstOffset_written
    nextOffset := fun _ _ _ _ itemFound starts follows =>
      writable.nextOffset_written itemFound starts follows
    writtenAgain := (writable_of_outcome_decode
      (writable.outcome_decode_writtenBytes wellFormed)).outcome_encode
    itemArea := ⟨first, found, drop_writtenBytes_of_outcome_decode accepted found⟩
    unchanged := writtenBytes_eq_iff accepted }

/-- A driver, a gap and the reserved bytes of two items are dropped. -/
theorem exists_normalForm_with_driver :
    let buffer : Bytes :=
      [1, 0, 0, 0, 1, 0, 2, 0, 33, 0, 0, 0, 0, 0, 0, 0, 35, 0, 0, 0, 0, 0, 0, 0,
        69, 0, 0, 0, 0, 0, 0, 0, 9, 4, 4] ++
      ([1, 0, 0, 0] ++ Guid.zero.bytes ++ [1, 7, 7, 7, 2, 0, 0, 0, 0, 0, 0, 0, 8, 9]) ++
      ([2, 0, 0, 0] ++ Guid.zero.bytes ++ [3, 0, 5, 0, 0, 0, 0, 0, 1, 0, 0, 0,
        6, 0, 0, 0, 0, 0, 0, 0, 8])
    let capsule : Capsule :=
      ⟨1, [33, 35, 69], [⟨1, .zero, 1, 0, 0, [8, 9], []⟩, ⟨2, .zero, 3, 6, 0, [], [8]⟩]⟩
    (decode buffer).outcome = .ok capsule ∧
      ∃ normal again, IsNormalForm buffer capsule normal again := by
  intro buffer capsule
  have accepted : (decode buffer).outcome = .ok capsule := rfl
  exact ⟨accepted, exists_normalForm_of_outcome_decode accepted⟩

end FirmwareCapsule.Management.Capsule
