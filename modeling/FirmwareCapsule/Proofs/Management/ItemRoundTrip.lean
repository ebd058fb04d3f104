import FirmwareCapsule.Proofs.Management.ItemForm

namespace FirmwareCapsule.Management.Item

/-! What is left of an item that is written and read again, and of a byte string that is
read and written again, for every version of the header. -/

variable {item : Item} {bytes : Bytes}

/-! ## Writing and reading -/

/-- An item as its form keeps it. A field that its version does not have counts as zero. -/
def stored (item : Item) : Item :=
  { item with
    hardwareInstance := if item.version < 2 then 0 else item.hardwareInstance
    capsuleSupport := if item.version < 3 then 0 else item.capsuleSupport }

theorem toBytes_stored (item : Item) : item.stored.toBytes = item.toBytes := by
  rw [toBytes_eq_form, toBytes_eq_form, form, form, stored]
  simp only [← UInt32.not_lt]
  by_cases noInstance : item.version < 2
  · by_cases noSupport : item.version < 3
    · simp only [noInstance, noSupport, not_true_eq_false, if_true, if_false]
    · simp only [noInstance, noSupport, not_true_eq_false, not_false_eq_true, if_true, if_false]
  · by_cases noSupport : item.version < 3
    · simp only [noInstance, noSupport, not_true_eq_false, not_false_eq_true, if_true, if_false]
    · simp only [noInstance, noSupport, not_false_eq_true, if_true, if_false]

theorem Fits.wellFormed_stored (fits : item.Fits) (numbered : 1 ≤ item.version)
    (indexed : 1 ≤ item.index) : item.stored.WellFormed where
  payload := fits.payload
  vendorCode := fits.vendorCode
  version := numbered
  index := indexed
  hardwareInstance := fun early => if_pos early
  capsuleSupport := fun early => if_pos early

/-- Whatever is written is read back, but for a version or an index of zero. -/
theorem Fits.outcome_decode_toBytes_eq (fits : item.Fits) :
    (decode item.toBytes).outcome =
      if item.version = 0 ∨ item.index = 0 then .error .malformedCapsule
      else .ok item.stored := by
  by_cases uncounted : item.version < 1
  · rw [if_pos (.inl (UInt32.lt_one_iff.mp uncounted)), toBytes,
      outcome_decode_version_append uncounted]
  have numbered : 1 ≤ item.stored.version := UInt32.not_lt.mp uncounted
  have isNumbered : ¬ item.version = 0 := fun zero => uncounted (UInt32.lt_one_iff.mpr zero)
  by_cases unindexed : item.index < 1
  · have noInstance : item.stored.version < 2 → item.stored.hardwareInstance = 0 :=
      fun early => if_pos early
    have noSupport : item.stored.version < 3 → item.stored.capsuleSupport = 0 :=
      fun early => if_pos early
    rw [if_pos (.inr (UInt8.lt_one_iff.mp unindexed)), ← toBytes_stored, toBytes_eq_form,
      form_eq_header_append, outcome_decode_header_append _ numbered noInstance noSupport]
    exact if_pos unindexed
  · have isIndexed : ¬ item.index = 0 := fun zero => unindexed (UInt8.lt_one_iff.mpr zero)
    rw [if_neg (not_or.mpr ⟨isNumbered, isIndexed⟩), ← toBytes_stored]
    exact outcome_decode_toBytes (fits.wellFormed_stored numbered (UInt8.not_lt.mp unindexed))

/-! ## Parts of items -/

theorem version_eq_of_take_form {reserved : Block 3} {size : Nat} {version : UInt32} {rest : Bytes}
    (taken : (item.form reserved).take size = Layout.word32.encode version ++ rest) :
    version = item.version := by
  have whole := List.take_append_drop size (item.form reserved)
  rw [taken, form_eq_header_append, header, List.append_assoc, List.append_assoc] at whole
  have found := congrArg Layout.word32.take? whole
  rw [Layout.take?_encode_append, Layout.take?_encode_append] at found
  exact congrArg Prod.fst (Option.some.inj found)

/-- A part of an item lacks a field, or it has fewer bytes than its sizes declare. -/
theorem outcome_decode_take (accepted : (decode bytes).outcome = .ok item) {size : Nat}
    (cut : size < bytes.length) :
    (decode (bytes.take size)).outcome =
      if size < headerSize item.version then .error .fieldCutShort
      else .error (.sizeMismatch bytes.length size) := by
  rcases outcome_decode_eq_ok_iff.mp accepted with ⟨wellFormed, reserved, rfl⟩
  split
  · rename_i short
    rcases outcome_decode_cases ((item.form reserved).take size) with
      lacking | ⟨version, rest, taken, uncounted⟩ |
      ⟨version, fields, hardwareInstance, capsuleSupport, body, taken, _⟩
    · exact lacking
    · rw [version_eq_of_take_form taken] at uncounted
      exact absurd wellFormed.version (UInt32.not_le.mpr uncounted)
    · have headed := taken
      rw [header, List.append_assoc] at headed
      have sizes := congrArg List.length taken
      rw [version_eq_of_take_form headed, List.length_take_of_le (Nat.le_of_lt cut),
        List.length_append, length_header] at sizes
      omega
  · rename_i whole
    rw [length_form] at cut ⊢
    have bodySize : ((item.payload ++ item.vendorCode).take
        (size - headerSize item.version)).length = size - headerSize item.version := by
      rw [List.length_take_of_le]
      rw [List.length_append]
      omega
    have shorter :
        item.payload.length + item.vendorCode.length ≠ size - headerSize item.version := by
      omega
    rw [form_eq_header_append, List.take_append, length_header, List.take_of_length_le,
      wellFormed.outcome_decode_header_append, bodySize, if_pos shorter, Nat.add_assoc,
      Nat.add_sub_cancel' (Nat.not_lt.mp whole)]
    rw [length_header]
    exact Nat.not_lt.mp whole

/-! ## Round trips -/

structure IsKept (item : Item) : Prop where
  written : ∃ bytes, item.encode = .ok bytes ∧
    bytes.length = headerSize item.version + item.payload.length + item.vendorCode.length ∧
    (decode bytes).outcome =
      if item.version = 0 ∨ item.index = 0 then .error .malformedCapsule
      else .ok item.stored
  unchanged : (∃ bytes, item.encode = .ok bytes ∧ (decode bytes).outcome = .ok item) ↔
    1 ≤ item.version ∧ 1 ≤ item.index ∧ (item.version < 2 → item.hardwareInstance = 0) ∧
      (item.version < 3 → item.capsuleSupport = 0)

theorem Fits.isKept (fits : item.Fits) : item.IsKept where
  written := by
    refine ⟨item.toBytes, fits.encode, ?_, fits.outcome_decode_toBytes_eq⟩
    rw [toBytes_eq_form, length_form, Nat.add_assoc]
  unchanged := by
    constructor
    · rintro ⟨bytes, _, accepted⟩
      have wellFormed := wellFormed_of_outcome_decode accepted
      exact ⟨wellFormed.version, wellFormed.index, wellFormed.hardwareInstance,
        wellFormed.capsuleSupport⟩
    · rintro ⟨numbered, indexed, noInstance, noSupport⟩
      exact ⟨item.toBytes, fits.encode, outcome_decode_toBytes
        { fits with
          version := numbered
          index := indexed
          hardwareInstance := noInstance
          capsuleSupport := noSupport }⟩

structure IsWhole (bytes : Bytes) (item : Item) : Prop where
  written : item.encode = .ok (clearReserved bytes)
  extended : ∀ more, more ≠ [] → (decode (bytes ++ more)).outcome =
    .error (.sizeMismatch bytes.length (bytes.length + more.length))
  cut : ∀ size < bytes.length, (decode (bytes.take size)).outcome =
    if size < headerSize item.version then .error .fieldCutShort
    else .error (.sizeMismatch bytes.length size)

theorem isKept_and_isWhole :
    (∀ item : Item, item.Fits → item.IsKept) ∧
      ∀ bytes item, (decode bytes).outcome = .ok item → IsWhole bytes item := by
  refine ⟨fun item fits => fits.isKept, fun bytes item accepted => ?_⟩
  have fits := (wellFormed_of_outcome_decode accepted).toFits
  exact {
    written := by rw [fits.encode, toBytes_eq_clearReserved accepted]
    extended := fun _ present => outcome_decode_append accepted present
    cut := fun _ cut => outcome_decode_take accepted cut }

/-- Version 1 has no place for the instance, which is lost. -/
theorem isKept_and_isWhole_of_version_one :
    let item : Item := { ofPayload .zero [1, 2, 3] 7 with version := 1 }
    item.Fits ∧ item.IsKept ∧ ∃ bytes, item.encode = .ok bytes ∧
      (decode bytes).outcome = .ok { item with hardwareInstance := 0 } ∧
      IsWhole bytes { item with hardwareInstance := 0 } := by
  intro item
  have fits : item.Fits := ⟨by decide, by decide⟩
  have kept := isKept_and_isWhole.1 item fits
  rcases kept.written with ⟨bytes, written, _, accepted⟩
  exact ⟨fits, kept, bytes, written, accepted, isKept_and_isWhole.2 bytes _ accepted⟩

end FirmwareCapsule.Management.Item
