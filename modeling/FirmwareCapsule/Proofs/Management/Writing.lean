import FirmwareCapsule.Proofs.Management.CapsuleForm

namespace FirmwareCapsule.Management

/-! Writing management capsules. Whatever could be read or staged can be written,
and what is written is read as the capsule that writing leaves behind. -/

namespace Item

theorem toBytes_ne_nil (item : Item) : item.toBytes ≠ [] := by
  have size := item.length_form (.zero 3)
  have atLeast := headerSize_ge item.version
  rw [← toBytes_eq_form] at size
  intro empty
  rw [empty, List.length_nil] at size
  omega

theorem Fits.length_toBytes_le {item : Item} (fits : item.Fits) :
    item.toBytes.length ≤ 4 * UInt32.size := by
  have atMost : headerSize item.version ≤ 48 := by
    rw [headerSize]
    split
    · omega
    · split <;> omega
  have wordRange : UInt32.size = 4294967296 := rfl
  have payload := fits.payload
  have vendorCode := fits.vendorCode
  rw [toBytes_eq_form, length_form]
  omega

end Item

namespace Capsule

def written (capsule : Capsule) : Capsule where
  driverCount := 0
  itemOffsets := offsetsFrom (listEnd capsule.items.length) (capsule.items.map Item.toBytes)
  items := capsule.items

def writtenBytes (capsule : Capsule) : Bytes :=
  capsule.written.front ++ (capsule.items.map Item.toBytes).flatten

structure Writable (capsule : Capsule) : Prop where
  staged : capsule.items ≠ []
  count : capsule.items.length < UInt16.size
  fits : ∀ item ∈ capsule.items, item.Fits

theorem mapM_encode {items : List Item} (fits : ∀ item ∈ items, item.Fits) :
    items.mapM Item.encode = .ok (items.map Item.toBytes) := by
  induction items with
  | nil => rfl
  | cons item items induction =>
      have first := fits item List.mem_cons_self
      rw [List.mapM_cons, first.encode, induction fun other member =>
        fits other (List.mem_cons_of_mem item member)]
      rfl

theorem length_itemOffsets_written (capsule : Capsule) :
    capsule.written.itemOffsets.length = capsule.items.length := by
  rw [written, offsetsFrom_eq_map, List.length_map, length_startsFrom, List.length_map]

theorem Writable.outcome_encode {capsule : Capsule} (writable : capsule.Writable) :
    capsule.encode.outcome = .ok (capsule.writtenBytes, capsule.written) := by
  have nonempty : ¬ capsule.items.isEmpty = true := by
    rw [List.isEmpty_iff]
    exact writable.staged
  have countFits : ¬ (capsule.items.map Item.toBytes).length ≥ UInt16.size := by
    rw [List.length_map]
    exact Nat.not_le.mpr writable.count
  rw [encode]
  rw [if_neg nonempty, mapM_encode writable.fits, Traced.outcome_bind_of_ok rfl, if_neg countFits,
    Logged.outcome_debug_bind]
  simp only [List.length_map, writtenBytes, front, written, List.append_assoc]
  rfl

theorem outcome_encode_of_no_items {capsule : Capsule} (unstaged : capsule.items = []) :
    capsule.encode.outcome = .error .noPayload := by
  rw [encode]
  rw [unstaged]
  rfl

theorem outcome_encode_of_large {capsule : Capsule} {item : Item} {items : List Item}
    (staged : capsule.items = item :: items) (large : ¬ item.payload.length < UInt32.size) :
    capsule.encode.outcome = .error .payloadTooLarge := by
  have refused : item.encode = .error .payloadTooLarge :=
    if_neg fun sizes => large sizes.1
  rw [encode]
  rw [staged, List.mapM_cons, refused]
  rfl

theorem length_flatten_toBytes_le {items : List Item} (fits : ∀ item ∈ items, item.Fits) :
    (items.map Item.toBytes).flatten.length ≤ 4 * UInt32.size * items.length := by
  induction items with
  | nil => simp
  | cons item items induction =>
      have firstSize := (fits item List.mem_cons_self).length_toBytes_le
      have restSize := induction fun other member =>
        fits other (List.mem_cons_of_mem item member)
      rw [List.map_cons, List.flatten_cons, List.length_append, List.length_cons, Nat.mul_succ,
        Nat.add_comm]
      exact Nat.add_le_add restSize firstSize

/-! ## Reading what was written -/

theorem drop_writtenBytes (capsule : Capsule) :
    capsule.writtenBytes.drop (8 + 8 * capsule.items.length) =
      (capsule.items.map Item.toBytes).flatten := by
  apply List.drop_left'
  rw [length_front, length_itemOffsets_written]
  rfl

theorem length_writtenBytes (capsule : Capsule) : capsule.writtenBytes.length =
    listEnd capsule.items.length + (capsule.items.map Item.toBytes).flatten.length := by
  rw [writtenBytes, List.length_append, length_front, length_itemOffsets_written]

/-- The sizes of all items together stay far below what an offset can hold. -/
theorem Writable.map_toNat_itemOffsets_written {capsule : Capsule}
    (writable : capsule.Writable) :
    capsule.written.itemOffsets.map UInt64.toNat =
      startsFrom (listEnd capsule.items.length) (capsule.items.map Item.toBytes) := by
  apply map_toNat_offsetsFrom
  · intro part member
    rcases List.mem_map.mp member with ⟨item, _, rfl⟩
    exact item.toBytes_ne_nil
  · have total := length_flatten_toBytes_le writable.fits
    have count := writable.count
    change capsule.items.length < 65536 at count
    change _ ≤ 4 * 4294967296 * capsule.items.length at total
    change 8 + 8 * capsule.items.length + _ ≤ 18446744073709551616
    omega

theorem Writable.firstOffset_written {capsule : Capsule} (writable : capsule.Writable) :
    capsule.written.itemOffsets[0]?.map UInt64.toNat =
      some (8 + 8 * capsule.items.length) := by
  have here := congrArg (·[0]?) writable.map_toNat_itemOffsets_written
  rcases itemsFound : capsule.items with _ | ⟨item, rest⟩
  · exact absurd itemsFound writable.staged
  · simpa only [List.getElem?_map, itemsFound, List.map_cons, startsFrom,
      List.getElem?_cons_zero, listEnd] using here

theorem Writable.nextOffset_written {capsule : Capsule} (writable : capsule.Writable) {index : Nat}
    {item : Item} {start next : UInt64} (found : capsule.items[index]? = some item)
    (starts : capsule.written.itemOffsets[index]? = some start)
    (follows : capsule.written.itemOffsets[index + 1]? = some next) :
    ∃ bytes, item.encode = .ok bytes ∧ next.toNat = start.toNat + bytes.length := by
  refine ⟨item.toBytes, (writable.fits item (List.mem_of_getElem? found)).encode, ?_⟩
  have part : (capsule.items.map Item.toBytes)[index]? = some item.toBytes := by
    rw [List.getElem?_map, found, Option.map_some]
  apply startsFrom_succ part
  · rw [← writable.map_toNat_itemOffsets_written, List.getElem?_map, starts, Option.map_some]
  · rw [← writable.map_toNat_itemOffsets_written, List.getElem?_map, follows, Option.map_some]

theorem Writable.listFits_written {capsule : Capsule} (writable : capsule.Writable) :
    capsule.written.ListFits capsule.writtenBytes.length := by
  have places := writable.map_toNat_itemOffsets_written
  have filled : ∀ part ∈ capsule.items.map Item.toBytes, part ≠ [] := by
    intro part member
    rcases List.mem_map.mp member with ⟨item, _, rfl⟩
    exact item.toBytes_ne_nil
  refine ⟨List.length_pos_iff.mpr writable.staged, writable.count, ?_, ?_, ?_⟩
  · rw [length_itemOffsets_written]
    exact (Nat.zero_add _).symm
  · have ascending : (startsFrom (listEnd capsule.items.length)
        (capsule.items.map Item.toBytes)).Pairwise (· < ·) := pairwise_startsFrom filled
    rw [← places, List.pairwise_map] at ascending
    exact ascending.imp UInt64.lt_iff_toNat_lt.mpr
  · intro offset member
    have place : offset.toNat ∈
        startsFrom (listEnd capsule.items.length) (capsule.items.map Item.toBytes) := by
      rw [← places]
      exact List.mem_map_of_mem member
    rw [length_itemOffsets_written, length_writtenBytes]
    exact ⟨le_of_mem_startsFrom place, lt_of_mem_startsFrom filled place⟩

theorem Writable.outcome_decode_writtenBytes {capsule : Capsule} (writable : capsule.Writable)
    (wellFormed : ∀ item ∈ capsule.items, item.WellFormed) :
    (decode capsule.writtenBytes).outcome = .ok capsule.written := by
  refine outcome_decode_eq_ok_iff.mpr ⟨writable.listFits_written, ⟨_, rfl⟩, ?_⟩
  have parts : capsule.written.itemParts capsule.writtenBytes =
      capsule.items.map Item.toBytes := by
    apply partsAt_append_flatten
    rw [length_front, length_itemOffsets_written]
    exact writable.map_toNat_itemOffsets_written
  rw [parts, List.map_map]
  exact List.map_congr_left fun item member =>
    Item.outcome_decode_toBytes (wellFormed item member)

end Capsule

end FirmwareCapsule.Management
