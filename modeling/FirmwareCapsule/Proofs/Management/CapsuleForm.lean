import FirmwareCapsule.Proofs.Management.ItemForm
import FirmwareCapsule.Proofs.Management.Parts

namespace FirmwareCapsule.Management.Capsule

/-! The form of management capsules: which buffers are capsules, and what is read
from each of them. Reading looks at the offset list and at the items. The bytes
between the two, where embedded drivers lie, and the reserved bytes of the items
are passed over. -/

structure ListFits (capsule : Capsule) (size : Nat) : Prop where
  itemCount_pos : 1 ≤ capsule.items.length
  itemCount_lt : capsule.items.length < UInt16.size
  offsetCount : capsule.itemOffsets.length = capsule.driverCount.toNat + capsule.items.length
  ascending : capsule.itemOffsets.Pairwise (· < ·)
  inside : ∀ offset ∈ capsule.itemOffsets,
    8 + 8 * capsule.itemOffsets.length ≤ offset.toNat ∧ offset.toNat < size

def front (capsule : Capsule) : Bytes :=
  Header.layout.encode
      ⟨headerVersion, capsule.driverCount, UInt16.ofNat capsule.items.length⟩ ++
    encodeOffsets capsule.itemOffsets

theorem encode_headerLayout (header : Header) :
    Header.layout.encode header = littleEndian 4 header.version.toNat ++
      (littleEndian 2 header.driverCount.toNat ++ littleEndian 2 header.itemCount.toNat) := rfl

@[simp] theorem length_encodeOffsets (offsets : List UInt64) :
    (encodeOffsets offsets).length = 8 * offsets.length := by
  induction offsets with
  | nil => rfl
  | cons offset rest induction =>
      rw [encodeOffsets, List.flatMap_cons, List.length_append, Layout.length_encode,
        List.length_cons]
      change 8 + (encodeOffsets rest).length = 8 * (rest.length + 1)
      omega

theorem length_front (capsule : Capsule) :
    capsule.front.length = listEnd capsule.itemOffsets.length := by
  rw [front, List.length_append, Layout.length_encode, length_encodeOffsets]
  rfl

/-! ## Offset lists -/

theorem takeOffsetsAfter?_eq_some_iff {taken offsets : List UInt64} {count : Nat}
    {bytes rest : Bytes} :
    takeOffsetsAfter? taken count bytes = some (offsets, rest) ↔
      ∃ later, offsets = taken.reverse ++ later ∧ later.length = count ∧
        bytes = encodeOffsets later ++ rest := by
  induction count generalizing taken bytes with
  | zero =>
      rw [takeOffsetsAfter?, Option.some.injEq, Prod.mk.injEq]
      constructor
      · intro found
        rcases found with ⟨rfl, rfl⟩
        exact ⟨[], by simp, rfl, rfl⟩
      · intro found
        rcases found with ⟨later, rfl, none, rfl⟩
        rw [List.length_eq_zero_iff.mp none]
        exact ⟨by simp, rfl⟩
  | succ count induction =>
      rw [takeOffsetsAfter?]
      constructor
      · intro found
        split at found
        · rename_i offset behind offsetTaken
          rcases induction.mp found with ⟨later, rfl, size, rfl⟩
          rw [Layout.take?_eq_some_iff] at offsetTaken
          refine ⟨offset :: later, by simp, by rw [List.length_cons, size], ?_⟩
          rw [offsetTaken, encodeOffsets, encodeOffsets, List.flatMap_cons, List.append_assoc]
        · cases found
      · intro found
        rcases found with ⟨later, rfl, size, rfl⟩
        cases later with
        | nil => cases size
        | cons offset later =>
            rw [encodeOffsets, List.flatMap_cons, List.append_assoc, Layout.take?_encode_append]
            exact induction.mpr ⟨later, by simp, Nat.succ.inj size, rfl⟩

theorem takeOffsets?_eq_some_iff {offsets : List UInt64} {count : Nat} {bytes rest : Bytes} :
    takeOffsets? count bytes = some (offsets, rest) ↔
      offsets.length = count ∧ bytes = encodeOffsets offsets ++ rest := by
  rw [takeOffsets?, takeOffsetsAfter?_eq_some_iff]
  constructor
  · intro found
    rcases found with ⟨later, rfl, size, rfl⟩
    exact ⟨size, rfl⟩
  · intro found
    rcases found with ⟨size, rfl⟩
    exact ⟨offsets, rfl, size, rfl⟩

theorem misplaced?_eq_none_iff {size lowest : Nat} {offsets : List UInt64} :
    misplaced? size lowest offsets = none ↔ offsets.Pairwise (· < ·) ∧
      ∀ offset ∈ offsets, lowest ≤ offset.toNat ∧ offset.toNat < size := by
  induction offsets generalizing lowest with
  | nil => simp [misplaced?]
  | cons offset rest induction =>
      rw [misplaced?, List.pairwise_cons]
      constructor
      · intro found
        split at found
        · rename_i here
          rcases induction.mp found with ⟨ascending, inside⟩
          refine ⟨⟨fun other member => ?_, ascending⟩, fun other member => ?_⟩
          · exact UInt64.lt_iff_toNat_lt.mpr (inside other member).1
          · rcases List.mem_cons.mp member with equal | later
            · rw [equal]
              exact here
            · have bounds := inside other later
              omega
        · cases found
      · intro placed
        rcases placed with ⟨⟨above, ascending⟩, inside⟩
        rw [if_pos (inside offset List.mem_cons_self)]
        refine induction.mpr ⟨ascending, fun other member => ?_⟩
        have larger := UInt64.lt_iff_toNat_lt.mp (above other member)
        exact ⟨larger, (inside other (List.mem_cons_of_mem offset member)).2⟩

/-! ## Reading -/

def itemParts (capsule : Capsule) (buffer : Bytes) : List Bytes :=
  partsAt buffer (capsule.itemOffsets.drop capsule.driverCount.toNat)

/-- Behind a sound offset list only the items can still be wrong. -/
theorem outcome_decode_of_listFits {buffer rest : Bytes} {capsule : Capsule}
    (fits : capsule.ListFits buffer.length) (buffer_eq : buffer = capsule.front ++ rest) :
    (decode buffer).outcome = ((capsule.itemParts buffer).mapM Item.decode).outcome.map
      fun items => { capsule with items } := by
  have itemCount : (UInt16.ofNat capsule.items.length).toNat = capsule.items.length :=
    UInt16.toNat_ofNat_of_lt' fits.itemCount_lt
  have itemCountNonzero : UInt16.ofNat capsule.items.length ≠ 0 := by
    intro zero
    have noItems := congrArg UInt16.toNat zero
    rw [itemCount] at noItems
    have positive := fits.itemCount_pos
    change capsule.items.length = 0 at noItems
    omega
  have headerTaken : Header.layout.take? buffer = some
      (⟨headerVersion, capsule.driverCount, UInt16.ofNat capsule.items.length⟩,
        encodeOffsets capsule.itemOffsets ++ rest) := by
    rw [Layout.take?_eq_some_iff, buffer_eq, front, List.append_assoc]
  have offsetsTaken : takeOffsets? capsule.itemOffsets.length
      (encodeOffsets capsule.itemOffsets ++ rest) = some (capsule.itemOffsets, rest) :=
    takeOffsets?_eq_some_iff.mpr ⟨rfl, rfl⟩
  have noneMisplaced :
      misplaced? buffer.length (listEnd capsule.itemOffsets.length) capsule.itemOffsets = none :=
    misplaced?_eq_none_iff.mpr ⟨fits.ascending, fits.inside⟩
  rw [decode]
  rw [headerTaken, Traced.require_some, pure_bind]
  simp only [ne_eq, not_true_eq_false, if_false, if_neg itemCountNonzero, itemCount,
    ← fits.offsetCount, offsetsTaken, Traced.require_some, pure_bind, noneMisplaced]
  rw [Traced.outcome_bind, itemParts]
  cases (partsAt buffer (capsule.itemOffsets.drop capsule.driverCount.toNat)).mapM
    Item.decode |>.outcome <;> rfl

theorem outcome_decode_eq_ok_iff {buffer : Bytes} {capsule : Capsule} :
    (decode buffer).outcome = .ok capsule ↔
      capsule.ListFits buffer.length ∧ (∃ rest, buffer = capsule.front ++ rest) ∧
      (capsule.itemParts buffer).map (fun part => (Item.decode part).outcome) =
        capsule.items.map .ok := by
  constructor
  · intro accepted
    rw [decode] at accepted
    rcases Traced.outcome_bind_eq_ok_iff.mp accepted with ⟨⟨header, behind⟩, headerTaken, accepted⟩
    rw [Traced.outcome_require_eq_ok_iff, Layout.take?_eq_some_iff] at headerTaken
    dsimp only at accepted
    split at accepted
    · cases accepted
    rename_i versionEqual
    split at accepted
    · cases accepted
    rename_i itemCountNonzero
    rcases Traced.outcome_bind_eq_ok_iff.mp accepted with ⟨⟨offsets, rest⟩, offsetsTaken, accepted⟩
    rw [Traced.outcome_require_eq_ok_iff, takeOffsets?_eq_some_iff] at offsetsTaken
    rcases offsetsTaken with ⟨offsetCount, behind_eq⟩
    dsimp only at accepted
    split at accepted
    · cases accepted
    rename_i noneMisplaced
    rcases Traced.outcome_bind_eq_ok_iff.mp accepted with ⟨items, itemsRead, accepted⟩
    rw [Traced.outcome_mapM_eq_ok_iff] at itemsRead
    rw [Logged.outcome_debug_bind] at accepted
    cases accepted
    rcases misplaced?_eq_none_iff.mp noneMisplaced with ⟨ascending, inside⟩
    have itemCount : items.length = header.itemCount.toNat := by
      have sizes := congrArg List.length itemsRead
      simp only [List.length_map, length_partsAt, List.length_drop] at sizes
      omega
    have itemCountPositive : 1 ≤ header.itemCount.toNat := by
      have nonzero := mt UInt16.toNat_inj.mp itemCountNonzero
      change header.itemCount.toNat ≠ 0 at nonzero
      omega
    refine ⟨⟨?_, ?_, ?_, ascending, ?_⟩, ⟨rest, ?_⟩, itemsRead⟩
    · rw [itemCount]
      exact itemCountPositive
    · rw [itemCount]
      exact header.itemCount.toNat_lt
    · rw [offsetCount, itemCount]
    · rw [offsetCount]
      exact inside
    · rw [headerTaken, behind_eq, front, itemCount, UInt16.ofNat_toNat, List.append_assoc,
        ← Decidable.not_not.mp versionEqual]
  · intro described
    rcases described with ⟨fits, ⟨rest, buffer_eq⟩, itemsRead⟩
    rw [outcome_decode_of_listFits fits buffer_eq, Traced.outcome_mapM_eq_ok_iff.mpr itemsRead]
    rfl

theorem wellFormed_of_outcome_decode {buffer : Bytes} {capsule : Capsule}
    (accepted : (decode buffer).outcome = .ok capsule) :
    ∀ item ∈ capsule.items, item.WellFormed := by
  intro item member
  have itemsRead := (outcome_decode_eq_ok_iff.mp accepted).2.2
  have read : Except.ok item ∈ (capsule.itemParts buffer).map
      (fun part => (Item.decode part).outcome) := by
    rw [itemsRead]
    exact List.mem_map_of_mem member
  rcases List.mem_map.mp read with ⟨part, _, partAccepted⟩
  exact Item.wellFormed_of_outcome_decode partAccepted

/-- A buffer that can be read is the offset list, a gap in which the drivers lie,
and the items one behind the other. -/
theorem exists_gap_of_outcome_decode {buffer : Bytes} {capsule : Capsule}
    (accepted : (decode buffer).outcome = .ok capsule) :
    ∃ gap, buffer = capsule.front ++ gap ++ (capsule.itemParts buffer).flatten ∧
      (capsule.itemOffsets.drop capsule.driverCount.toNat).map UInt64.toNat =
        startsFrom (capsule.front ++ gap).length (capsule.itemParts buffer) := by
  rcases outcome_decode_eq_ok_iff.mp accepted with ⟨fits, ⟨rest, buffer_eq⟩, _⟩
  rcases starts : capsule.itemOffsets.drop capsule.driverCount.toNat with _ | ⟨first, later⟩
  · have none := congrArg List.length starts
    have offsetCount := fits.offsetCount
    have positive := fits.itemCount_pos
    rw [List.length_drop, List.length_nil] at none
    omega
  have fromStarts : ∀ offset ∈ first :: later, offset ∈ capsule.itemOffsets := by
    intro offset member
    rw [← starts] at member
    exact List.mem_of_mem_drop member
  have ascending : (first :: later).Pairwise (· < ·) := starts ▸ fits.ascending.drop
  rcases append_flatten_partsAt ascending (fun offset member =>
    Nat.le_of_lt (fits.inside offset (fromStarts offset member)).2) with ⟨together, places⟩
  have behindList := (fits.inside first (fromStarts first List.mem_cons_self)).1
  have insideBuffer := (fits.inside first (fromStarts first List.mem_cons_self)).2
  have frontSize : capsule.front.length ≤ first.toNat := by
    rw [length_front]
    exact behindList
  have frontAndGap : capsule.front ++ rest.take (first.toNat - capsule.front.length) =
      buffer.take first.toNat := by
    rw [buffer_eq, List.take_append, List.take_of_length_le frontSize]
  have frontAndGapSize :
      (capsule.front ++ rest.take (first.toNat - capsule.front.length)).length = first.toNat := by
    rw [frontAndGap, List.length_take]
    omega
  refine ⟨rest.take (first.toNat - capsule.front.length), ?_, ?_⟩
  · rw [frontAndGap, itemParts, starts]
    exact together.symm
  · rw [frontAndGapSize, itemParts, starts]
    exact places

/-! ## The last item -/

theorem exists_last_of_outcome_decode {buffer : Bytes} {capsule : Capsule}
    (accepted : (decode buffer).outcome = .ok capsule) :
    ∃ leadingParts lastPart leadingItems last,
      capsule.itemParts buffer = leadingParts ++ [lastPart] ∧
      capsule.items = leadingItems ++ [last] ∧
      leadingParts.map (fun part => (Item.decode part).outcome) = leadingItems.map .ok ∧
      (Item.decode lastPart).outcome = .ok last := by
  rcases outcome_decode_eq_ok_iff.mp accepted with ⟨fits, _, itemsRead⟩
  rcases List.eq_nil_or_concat capsule.items with noItems | ⟨leadingItems, last, items_eq⟩
  · have positive := fits.itemCount_pos
    rw [noItems] at positive
    cases positive
  rcases List.eq_nil_or_concat (capsule.itemParts buffer) with
    noParts | ⟨leadingParts, lastPart, parts_eq⟩
  · rw [noParts, items_eq] at itemsRead
    simp at itemsRead
  rw [List.concat_eq_append] at items_eq parts_eq
  rw [items_eq, parts_eq, List.map_append, List.map_append] at itemsRead
  rcases List.append_inj' itemsRead rfl with ⟨leadingRead, lastRead⟩
  exact ⟨leadingParts, lastPart, leadingItems, last, parts_eq, items_eq, leadingRead,
    (List.cons.inj lastRead).1⟩

theorem last_of_outcome_decode {buffer : Bytes} {capsule : Capsule}
    (accepted : (decode buffer).outcome = .ok capsule) :
    ∃ last start, capsule.items.getLast? = some last ∧
      capsule.itemOffsets.getLast? = some start ∧
      start.toNat + last.toBytes.length = buffer.length := by
  rcases exists_last_of_outcome_decode accepted with
    ⟨leadingParts, lastPart, leadingItems, last, parts_eq, items_eq, _, lastAccepted⟩
  rcases exists_gap_of_outcome_decode accepted with ⟨gap, divided, places⟩
  rw [parts_eq, startsFrom_concat] at places
  rcases List.map_eq_append_iff.mp places with ⟨leading, ending, starts_eq, _, ending_eq⟩
  rcases List.map_eq_singleton_iff.mp ending_eq with ⟨start, rfl, start_eq⟩
  refine ⟨last, start, by rw [items_eq, List.getLast?_concat], ?_, ?_⟩
  · rw [← List.take_append_drop capsule.driverCount.toNat capsule.itemOffsets, starts_eq,
      ← List.append_assoc, List.getLast?_concat]
  · have total := congrArg List.length divided
    rw [parts_eq, List.flatten_append, List.flatten_singleton, ← List.append_assoc] at total
    rw [start_eq, Item.length_toBytes_of_outcome_decode lastAccepted, total]
    simp only [List.length_append]

/-- The last item ends with the buffer, so nothing can be put behind it. -/
theorem outcome_decode_append {buffer more : Bytes} {capsule : Capsule} {last : Item}
    (accepted : (decode buffer).outcome = .ok capsule)
    (isLast : capsule.items.getLast? = some last) (present : more ≠ []) :
    (decode (buffer ++ more)).outcome =
      .error (.sizeMismatch last.toBytes.length (last.toBytes.length + more.length)) := by
  rcases outcome_decode_eq_ok_iff.mp accepted with ⟨fits, ⟨rest, buffer_eq⟩, _⟩
  rcases exists_gap_of_outcome_decode accepted with ⟨gap, divided, places⟩
  rcases exists_last_of_outcome_decode accepted with
    ⟨leadingParts, lastPart, leadingItems, lastItem, parts_eq, items_eq, leadingRead, lastAccepted⟩
  rw [items_eq, List.getLast?_concat, Option.some.injEq] at isLast
  rw [isLast] at lastAccepted
  have extendedParts : capsule.itemParts (buffer ++ more) = leadingParts ++ [lastPart ++ more] := by
    have extended : buffer ++ more =
        capsule.front ++ gap ++ (leadingParts ++ [lastPart ++ more]).flatten := by
      conv => lhs; rw [divided, parts_eq]
      simp only [List.flatten_append, List.flatten_cons, List.flatten_nil, List.append_nil,
        List.append_assoc]
    rw [itemParts, extended]
    apply partsAt_append_flatten
    rw [places, parts_eq, startsFrom_concat, startsFrom_concat]
  have extendedFits : capsule.ListFits (buffer ++ more).length := by
    refine { fits with inside := fun offset member => ?_ }
    have bounds := fits.inside offset member
    rw [List.length_append]
    omega
  have extended_eq : buffer ++ more = capsule.front ++ (rest ++ more) := by
    rw [← List.append_assoc, ← buffer_eq]
  have refused := Item.outcome_decode_append lastAccepted present
  rw [← Item.length_toBytes_of_outcome_decode lastAccepted] at refused
  rw [outcome_decode_of_listFits extendedFits extended_eq, extendedParts,
    Traced.outcome_mapM_concat_of_error leadingRead refused]
  rfl

end FirmwareCapsule.Management.Capsule
