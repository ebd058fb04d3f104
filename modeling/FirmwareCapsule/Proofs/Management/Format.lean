import FirmwareCapsule.Proofs.Management.Reserved

namespace FirmwareCapsule.Management.Capsule

/-! The format of management capsules, byte by byte. Reading accepts just the
buffers that have it, and two buffers are read as the same capsule just if they
differ in nothing but bytes that the format leaves open. -/

def endOf (capsule : Capsule) (size index : Nat) : Nat :=
  (capsule.itemOffsets[index + 1]?.map UInt64.toNat).getD size

structure IsFormat (buffer : Bytes) (capsule : Capsule) : Prop
    extends capsule.ListFits buffer.length where
  front : ∃ rest, buffer =
    littleEndian 4 1 ++ littleEndian 2 capsule.driverCount.toNat ++
      littleEndian 2 capsule.items.length ++
      capsule.itemOffsets.flatMap (fun offset => littleEndian 8 offset.toNat) ++ rest
  items : ∀ index item, capsule.items[index]? = some item →
    item.WellFormed ∧ ∃ start reserved,
      capsule.itemOffsets[capsule.driverCount.toNat + index]? = some start ∧
      buffer.extract start.toNat
        (capsule.endOf buffer.length (capsule.driverCount.toNat + index)) = item.form reserved

theorem front_eq_littleEndian (capsule : Capsule) :
    capsule.front = littleEndian 4 1 ++ littleEndian 2 capsule.driverCount.toNat ++
      littleEndian 2 capsule.items.length ++
      capsule.itemOffsets.flatMap (fun offset => littleEndian 8 offset.toNat) := by
  have itemCount := Layout.encode_word16_ofNat capsule.items.length
  rw [Layout.encode_word16] at itemCount
  simp only [Capsule.front, encode_headerLayout, itemCount, List.append_assoc]
  rfl

theorem getElem?_itemParts (capsule : Capsule) (buffer : Bytes) (index : Nat) :
    (capsule.itemParts buffer)[index]? =
      capsule.itemOffsets[capsule.driverCount.toNat + index]?.map fun start =>
        buffer.extract start.toNat
          (capsule.endOf buffer.length (capsule.driverCount.toNat + index)) := by
  rw [itemParts, getElem?_partsAt, List.getElem?_drop, List.getElem?_drop]
  rfl

theorem isFormat_iff {buffer : Bytes} {capsule : Capsule} :
    IsFormat buffer capsule ↔ (decode buffer).outcome = .ok capsule := by
  rw [outcome_decode_eq_ok_iff]
  constructor
  · intro format
    refine ⟨format.toListFits, ?_, ?_⟩
    · rcases format.front with ⟨rest, buffer_eq⟩
      exact ⟨rest, by rw [front_eq_littleEndian]; exact buffer_eq⟩
    · apply List.ext_getElem?
      intro index
      rw [List.getElem?_map, List.getElem?_map]
      rcases found : capsule.items[index]? with _ | item
      · have behind : (capsule.itemParts buffer)[index]? = none := by
          rw [List.getElem?_eq_none_iff] at found ⊢
          rw [itemParts, length_partsAt, List.length_drop, format.offsetCount]
          omega
        rw [behind]
        rfl
      · rcases format.items index item found with ⟨wellFormed, start, reserved, placed, form⟩
        rw [getElem?_itemParts, placed, Option.map_some, Option.map_some, Option.map_some, form,
          Item.outcome_decode_form wellFormed]
  · intro described
    rcases described with ⟨fits, ⟨rest, buffer_eq⟩, itemsRead⟩
    refine { fits with front := ⟨rest, ?_⟩, items := fun index item found => ?_ }
    · rw [← front_eq_littleEndian]
      exact buffer_eq
    · have read := congrArg (·[index]?) itemsRead
      simp only [List.getElem?_map, found, Option.map_some, getElem?_itemParts] at read
      rcases placed : capsule.itemOffsets[capsule.driverCount.toNat + index]? with _ | start
      · rw [placed] at read
        cases read
      · rw [placed, Option.map_some, Option.map_some, Option.some.injEq,
          Item.outcome_decode_eq_ok_iff] at read
        rcases read with ⟨wellFormed, reserved, form⟩
        exact ⟨wellFormed, start, reserved, rfl, form⟩

/-! ## Bytes that are not read -/

/-- The bytes between the offset list and the first item, and three bytes in the
header of each item. -/
def IsUnread (capsule : Capsule) (position : Nat) : Prop :=
  (8 + 8 * capsule.itemOffsets.length ≤ position ∧
    ∀ start ∈ capsule.itemOffsets.drop capsule.driverCount.toNat, position < start.toNat) ∨
  ∃ start ∈ capsule.itemOffsets.drop capsule.driverCount.toNat,
    start.toNat + 21 ≤ position ∧ position < start.toNat + 24

theorem isUnread_add_iff {capsule : Capsule} {base position : Nat} {parts : List Bytes}
    (places : (capsule.itemOffsets.drop capsule.driverCount.toNat).map UInt64.toNat =
      startsFrom base parts) (filled : parts ≠ []) :
    capsule.IsUnread (base + position) ↔ IsReservedAmong (startsFrom 0 parts) position := by
  rw [← isReserved_add_iff places, Nat.add_comm]
  constructor
  · intro unread
    rcases unread with ⟨_, before⟩ | reserved
    · cases parts with
      | nil => exact absurd rfl filled
      | cons part rest =>
          rw [startsFrom, List.map_eq_cons_iff] at places
          rcases places with ⟨first, _, starts, firstPlace, _⟩
          have bound := before first (by rw [starts]; exact List.mem_cons_self)
          omega
    · exact reserved
  · exact .inr

/-! ## Buffers that are read as the same capsule -/

theorem map_eq_of_outcome_decode {β : Type} {parts : List Bytes} {items : List Item}
    (itemsRead : parts.map (fun part => (Item.decode part).outcome) = items.map .ok)
    {ofPart : Bytes → β} {ofItem : Item → β}
    (each : ∀ part item, (Item.decode part).outcome = .ok item → ofPart part = ofItem item) :
    parts.map ofPart = items.map ofItem := by
  induction parts generalizing items with
  | nil =>
      cases items with
      | nil => rfl
      | cons item items => cases itemsRead
  | cons part parts induction =>
      cases items with
      | nil => cases itemsRead
      | cons item items =>
          rw [List.map_cons, List.map_cons, List.cons.injEq] at itemsRead
          rw [List.map_cons, List.map_cons, each part item itemsRead.1, induction itemsRead.2]

theorem eq_of_map_toBytes_eq {left right : List Item} (leftFormed : ∀ item ∈ left, item.WellFormed)
    (rightFormed : ∀ item ∈ right, item.WellFormed)
    (equal : left.map Item.toBytes = right.map Item.toBytes) : left = right := by
  have read : ∀ {items : List Item}, (∀ item ∈ items, item.WellFormed) →
      (items.map Item.toBytes).map (fun bytes => (Item.decode bytes).outcome) =
        items.map .ok := by
    intro items formed
    rw [List.map_map]
    exact List.map_congr_left fun item member => Item.outcome_decode_toBytes (formed item member)
  have outcomes := read leftFormed
  rw [equal, read rightFormed] at outcomes
  exact (List.map_inj_right fun _ _ => Except.ok.inj).mp outcomes.symm

theorem eq_of_front_append_eq {left right : Capsule} {leftRest rightRest : Bytes}
    {leftSize rightSize : Nat} (leftFits : left.ListFits leftSize)
    (rightFits : right.ListFits rightSize)
    (equal : left.front ++ leftRest = right.front ++ rightRest) :
    left.driverCount = right.driverCount ∧ left.items.length = right.items.length ∧
      left.itemOffsets = right.itemOffsets := by
  rw [front, front, List.append_assoc, List.append_assoc] at equal
  rcases List.append_inj equal (by rw [Layout.length_encode, Layout.length_encode]) with
    ⟨headers, behind⟩
  have header := Header.layout.encode_injective headers
  rw [Header.mk.injEq] at header
  rcases header with ⟨_, drivers, items⟩
  have itemCount := congrArg UInt16.toNat items
  rw [UInt16.toNat_ofNat_of_lt' leftFits.itemCount_lt,
    UInt16.toNat_ofNat_of_lt' rightFits.itemCount_lt] at itemCount
  have leftTaken : takeOffsets? left.itemOffsets.length
      (encodeOffsets left.itemOffsets ++ leftRest) = some (left.itemOffsets, leftRest) :=
    takeOffsets?_eq_some_iff.mpr ⟨rfl, rfl⟩
  have rightTaken : takeOffsets? left.itemOffsets.length
      (encodeOffsets left.itemOffsets ++ leftRest) = some (right.itemOffsets, rightRest) := by
    refine takeOffsets?_eq_some_iff.mpr ⟨?_, behind⟩
    rw [leftFits.offsetCount, rightFits.offsetCount, drivers, itemCount]
  rw [leftTaken, Option.some.injEq, Prod.mk.injEq] at rightTaken
  exact ⟨drivers, itemCount, rightTaken.1⟩

theorem start_eq_of_startsFrom_eq {leftStart rightStart : Nat} {left right : List Bytes}
    (filled : left ≠ []) (places : startsFrom leftStart left = startsFrom rightStart right) :
    leftStart = rightStart := by
  cases left with
  | nil => exact absurd rfl filled
  | cons part rest =>
      cases right with
      | nil => cases places
      | cons other others => exact (List.cons.inj places).1

theorem map_length_eq_of_startsFrom_eq {start : Nat} {left right : List Bytes}
    (places : startsFrom start left = startsFrom start right)
    (total : left.flatten.length = right.flatten.length) :
    left.map List.length = right.map List.length := by
  induction left generalizing start right with
  | nil =>
      cases right with
      | nil => rfl
      | cons other others => cases places
  | cons part rest induction =>
      cases right with
      | nil => cases places
      | cons other others =>
          rw [startsFrom, startsFrom, List.cons.injEq] at places
          rw [List.flatten_cons, List.flatten_cons, List.length_append, List.length_append] at total
          have sameSize : part.length = other.length := by
            cases rest with
            | nil =>
                have counts := congrArg List.length places.2
                simp only [length_startsFrom, List.length_nil] at counts
                rw [List.length_eq_zero_iff.mp counts.symm] at total
                simpa using total
            | cons next rest =>
                cases others with
                | nil => cases places.2
                | cons otherNext others =>
                    have heads := (List.cons.inj places.2).1
                    omega
          rw [← sameSize] at places
          rw [List.map_cons, List.map_cons, sameSize, induction places.2 (by omega)]

theorem itemParts_ne_nil {buffer : Bytes} {capsule : Capsule}
    (accepted : (decode buffer).outcome = .ok capsule) : capsule.itemParts buffer ≠ [] := by
  rcases outcome_decode_eq_ok_iff.mp accepted with ⟨fits, _, itemsRead⟩
  have positive := fits.itemCount_pos
  have sizes := congrArg List.length itemsRead
  rw [List.length_map, List.length_map] at sizes
  intro empty
  rw [empty, List.length_nil] at sizes
  omega

theorem long_of_mem_itemParts {buffer : Bytes} {capsule : Capsule}
    (accepted : (decode buffer).outcome = .ok capsule) :
    ∀ part ∈ capsule.itemParts buffer, 24 ≤ part.length := by
  intro part member
  have itemsRead := (outcome_decode_eq_ok_iff.mp accepted).2.2
  have read : (Item.decode part).outcome ∈ capsule.items.map Except.ok := by
    rw [← itemsRead]
    exact List.mem_map_of_mem member
  rcases List.mem_map.mp read with ⟨item, _, partAccepted⟩
  have long := Item.length_ge_of_outcome_decode partAccepted.symm
  omega

theorem map_length_itemParts {buffer : Bytes} {capsule : Capsule}
    (accepted : (decode buffer).outcome = .ok capsule) :
    (capsule.itemParts buffer).map List.length =
      capsule.items.map fun item => item.toBytes.length := by
  apply map_eq_of_outcome_decode (outcome_decode_eq_ok_iff.mp accepted).2.2
  intro part item partAccepted
  exact (Item.length_toBytes_of_outcome_decode partAccepted).symm

theorem map_clearReserved_itemParts {buffer : Bytes} {capsule : Capsule}
    (accepted : (decode buffer).outcome = .ok capsule) :
    (capsule.itemParts buffer).map Item.clearReserved = capsule.items.map Item.toBytes := by
  apply map_eq_of_outcome_decode (outcome_decode_eq_ok_iff.mp accepted).2.2
  intro part item partAccepted
  exact (Item.toBytes_eq_clearReserved partAccepted).symm

theorem agree_of_same_capsule {left right : Bytes} {capsule : Capsule}
    (leftAccepted : (decode left).outcome = .ok capsule)
    (rightAccepted : (decode right).outcome = .ok capsule) :
    left.length = right.length ∧
      ∀ position, ¬ capsule.IsUnread position → left[position]? = right[position]? := by
  rcases outcome_decode_eq_ok_iff.mp leftAccepted with ⟨_, ⟨leftRest, left_eq⟩, _⟩
  rcases outcome_decode_eq_ok_iff.mp rightAccepted with ⟨_, ⟨rightRest, right_eq⟩, _⟩
  have sizes : (capsule.itemParts left).map List.length =
      (capsule.itemParts right).map List.length :=
    (map_length_itemParts leftAccepted).trans (map_length_itemParts rightAccepted).symm
  have cleared : (capsule.itemParts left).map Item.clearReserved =
      (capsule.itemParts right).map Item.clearReserved :=
    (map_clearReserved_itemParts leftAccepted).trans
      (map_clearReserved_itemParts rightAccepted).symm
  rcases exists_gap_of_outcome_decode leftAccepted with ⟨leftGap, leftDivided, leftPlaces⟩
  rcases exists_gap_of_outcome_decode rightAccepted with ⟨rightGap, rightDivided, rightPlaces⟩
  have filled := itemParts_ne_nil leftAccepted
  have sameBase : (capsule.front ++ leftGap).length = (capsule.front ++ rightGap).length :=
    start_eq_of_startsFrom_eq filled (leftPlaces.symm.trans rightPlaces)
  have sameTotal : (capsule.itemParts left).flatten.length =
      (capsule.itemParts right).flatten.length := by
    rw [List.length_flatten, List.length_flatten, sizes]
  have itemsAgree := (map_clearReserved_eq_iff sizes (long_of_mem_itemParts leftAccepted)
    (long_of_mem_itemParts rightAccepted)).mp cleared
  constructor
  · rw [leftDivided, List.length_append, sameBase, sameTotal, ← List.length_append, ← rightDivided]
  · intro position read
    by_cases inFront : position < capsule.front.length
    · rw [left_eq, right_eq, List.getElem?_append_left inFront, List.getElem?_append_left inFront]
    · by_cases behindGap : (capsule.front ++ leftGap).length ≤ position
      · rw [leftDivided, rightDivided, List.getElem?_append_right behindGap,
          List.getElem?_append_right (sameBase ▸ behindGap), ← sameBase]
        apply itemsAgree
        rw [← isUnread_add_iff leftPlaces filled, Nat.add_sub_cancel' behindGap]
        exact read
      · refine absurd (.inl ⟨?_, ?_⟩) read
        · rw [length_front] at inFront
          exact Nat.not_lt.mp inFront
        · intro start member
          have place := List.mem_map_of_mem (f := UInt64.toNat) member
          rw [leftPlaces] at place
          exact Nat.lt_of_lt_of_le (Nat.not_le.mp behindGap) (le_of_mem_startsFrom place)

theorem same_list_of_agree {left right : Bytes} {leftCapsule rightCapsule : Capsule}
    (leftAccepted : (decode left).outcome = .ok leftCapsule)
    (rightAccepted : (decode right).outcome = .ok rightCapsule)
    (agree : ∀ position, ¬ leftCapsule.IsUnread position → left[position]? = right[position]?) :
    leftCapsule.driverCount = rightCapsule.driverCount ∧
      leftCapsule.items.length = rightCapsule.items.length ∧
      leftCapsule.itemOffsets = rightCapsule.itemOffsets := by
  rcases outcome_decode_eq_ok_iff.mp leftAccepted with ⟨leftFits, ⟨leftRest, left_eq⟩, _⟩
  rcases outcome_decode_eq_ok_iff.mp rightAccepted with ⟨rightFits, ⟨rightRest, right_eq⟩, _⟩
  have sameFront : left.take leftCapsule.front.length = right.take leftCapsule.front.length := by
    apply take_eq_take_of_agree
    intro position inFront
    apply agree
    intro unread
    rw [length_front] at inFront
    rcases unread with ⟨behind, _⟩ | ⟨start, member, low, _⟩
    · exact absurd behind (Nat.not_le.mpr inFront)
    · have bound := (leftFits.inside start (List.mem_of_mem_drop member)).1
      change position < 8 + 8 * leftCapsule.itemOffsets.length at inFront
      omega
  have taken : left.take leftCapsule.front.length = leftCapsule.front := by
    rw [left_eq, List.take_left]
  apply eq_of_front_append_eq leftFits rightFits
  calc
    leftCapsule.front ++ right.drop leftCapsule.front.length
        = right.take leftCapsule.front.length ++ right.drop leftCapsule.front.length := by
          rw [← sameFront, taken]
    _ = right := List.take_append_drop _ _
    _ = rightCapsule.front ++ rightRest := right_eq

theorem same_capsule_of_agree {left right : Bytes} {leftCapsule rightCapsule : Capsule}
    (leftAccepted : (decode left).outcome = .ok leftCapsule)
    (rightAccepted : (decode right).outcome = .ok rightCapsule)
    (sameLength : left.length = right.length)
    (agree : ∀ position, ¬ leftCapsule.IsUnread position → left[position]? = right[position]?) :
    leftCapsule = rightCapsule := by
  rcases same_list_of_agree leftAccepted rightAccepted agree with ⟨drivers, _, offsets⟩
  rcases exists_gap_of_outcome_decode leftAccepted with ⟨leftGap, leftDivided, leftPlaces⟩
  rcases exists_gap_of_outcome_decode rightAccepted with ⟨rightGap, rightDivided, rightPlaces⟩
  rw [← drivers, ← offsets, leftPlaces] at rightPlaces
  have filled := itemParts_ne_nil leftAccepted
  have sameBase : (leftCapsule.front ++ leftGap).length = (rightCapsule.front ++ rightGap).length :=
    start_eq_of_startsFrom_eq filled rightPlaces
  have sameTotal : (leftCapsule.itemParts left).flatten.length =
      (rightCapsule.itemParts right).flatten.length := by
    have leftSize := congrArg List.length leftDivided
    have rightSize := congrArg List.length rightDivided
    rw [List.length_append] at leftSize rightSize
    omega
  have sizes := map_length_eq_of_startsFrom_eq (sameBase ▸ rightPlaces) sameTotal
  have cleared : (leftCapsule.itemParts left).map Item.clearReserved =
      (rightCapsule.itemParts right).map Item.clearReserved := by
    refine (map_clearReserved_eq_iff sizes (long_of_mem_itemParts leftAccepted)
      (long_of_mem_itemParts rightAccepted)).mpr ?_
    intro position read
    rw [← isUnread_add_iff leftPlaces filled] at read
    have here := agree _ read
    rwa [leftDivided, rightDivided, List.getElem?_append_right (Nat.le_add_right _ _),
      List.getElem?_append_right (sameBase ▸ Nat.le_add_right _ _), ← sameBase,
      Nat.add_sub_cancel_left] at here
  rw [map_clearReserved_itemParts leftAccepted,
    map_clearReserved_itemParts rightAccepted] at cleared
  have items := eq_of_map_toBytes_eq (wellFormed_of_outcome_decode leftAccepted)
    (wellFormed_of_outcome_decode rightAccepted) cleared
  cases leftCapsule
  cases rightCapsule
  cases drivers
  cases offsets
  cases items
  rfl

/-- Reading accepts just the buffers that have the format, and it tells two of them
apart just if they differ in a byte that is not left open. -/
theorem outcome_decode_eq_ok_iff_isFormat :
    (∀ buffer capsule, (decode buffer).outcome = .ok capsule ↔ IsFormat buffer capsule) ∧
    ∀ left right leftCapsule rightCapsule,
      (decode left).outcome = .ok leftCapsule → (decode right).outcome = .ok rightCapsule →
      (leftCapsule = rightCapsule ↔ left.length = right.length ∧
        ∀ position, ¬ leftCapsule.IsUnread position → left[position]? = right[position]?) := by
  refine ⟨fun buffer capsule => isFormat_iff.symm, ?_⟩
  intro left right leftCapsule rightCapsule leftAccepted rightAccepted
  constructor
  · intro equal
    subst equal
    exact agree_of_same_capsule leftAccepted rightAccepted
  · intro agrees
    rcases agrees with ⟨sameLength, agree⟩
    exact same_capsule_of_agree leftAccepted rightAccepted sameLength agree

/-- A gap of one byte and the reserved bytes of a version 1 item make no difference. -/
theorem outcome_decode_with_open_bytes :
    let buffer (gap first second third : UInt8) : Bytes :=
      [1, 0, 0, 0, 0, 0, 1, 0, 17, 0, 0, 0, 0, 0, 0, 0, gap, 1, 0, 0, 0] ++ Guid.zero.bytes ++
        [1, first, second, third, 2, 0, 0, 0, 0, 0, 0, 0, 8, 9]
    let capsule : Capsule := ⟨0, [17], [⟨1, .zero, 1, 0, 0, [8, 9], []⟩]⟩
    (decode (buffer 9 1 2 3)).outcome = .ok capsule ∧
    (decode (buffer 7 4 5 6)).outcome = .ok capsule ∧
    (capsule = capsule ↔ (buffer 9 1 2 3).length = (buffer 7 4 5 6).length ∧
      ∀ position, ¬ capsule.IsUnread position →
        (buffer 9 1 2 3)[position]? = (buffer 7 4 5 6)[position]?) := by
  intro buffer capsule
  have leftAccepted : (decode (buffer 9 1 2 3)).outcome = .ok capsule := rfl
  have rightAccepted : (decode (buffer 7 4 5 6)).outcome = .ok capsule := rfl
  exact ⟨leftAccepted, rightAccepted,
    outcome_decode_eq_ok_iff_isFormat.2 _ _ _ _ leftAccepted rightAccepted⟩

end FirmwareCapsule.Management.Capsule
