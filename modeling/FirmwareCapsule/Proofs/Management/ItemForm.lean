import FirmwareCapsule.Management.Item

namespace FirmwareCapsule.Management.Item

/-! The form of payload items: which byte strings are items, and of which item
each of them is the form. Three bytes of the header are reserved. They are
written as zero and passed over when an item is read, so they are the only
difference between two forms of one item. -/

structure Fits (item : Item) : Prop where
  payload : item.payload.length < UInt32.size
  vendorCode : item.vendorCode.length < UInt32.size

structure WellFormed (item : Item) : Prop extends item.Fits where
  version : 1 ≤ item.version
  index : 1 ≤ item.index
  hardwareInstance : item.version < 2 → item.hardwareInstance = 0
  capsuleSupport : item.version < 3 → item.capsuleSupport = 0

theorem Fits.encode {item : Item} (fits : item.Fits) : item.encode = .ok item.toBytes :=
  if_pos ⟨fits.payload, fits.vendorCode⟩

def form (item : Item) (reserved : Block 3) : Bytes :=
  littleEndian 4 item.version.toNat ++ item.imageType.bytes ++ [item.index] ++
    reserved.bytes ++ littleEndian 4 item.payload.length ++
    littleEndian 4 item.vendorCode.length ++
    (if 2 ≤ item.version then littleEndian 8 item.hardwareInstance.toNat else []) ++
    (if 3 ≤ item.version then littleEndian 8 item.capsuleSupport.toNat else []) ++
    item.payload ++ item.vendorCode

/-! ## Headers -/

def header (version : UInt32) (fields : Fields) (hardwareInstance capsuleSupport : UInt64) :
    Bytes :=
  Layout.word32.encode version ++ (Fields.layout.encode fields ++
    (optionalWord (2 ≤ version) hardwareInstance ++ optionalWord (3 ≤ version) capsuleSupport))

@[simp] theorem length_optionalWord (present : Bool) (value : UInt64) :
    (optionalWord present value).length = if present then 8 else 0 := by
  cases present <;> rfl

theorem takeOptionalWord?_eq_some_iff {present : Bool} {bytes rest : Bytes} {value : UInt64} :
    takeOptionalWord? present bytes = some (value, rest) ↔
      bytes = optionalWord present value ++ rest ∧ (present = false → value = 0) := by
  cases present with
  | true =>
      simpa [takeOptionalWord?, optionalWord] using Layout.word64.take?_eq_some_iff
  | false =>
      simp only [takeOptionalWord?, optionalWord, Bool.false_eq_true, if_false, Option.some.injEq,
        Prod.mk.injEq, List.nil_append, forall_const]
      constructor
      · intro found
        rcases found with ⟨equal, same⟩
        exact ⟨same, equal.symm⟩
      · intro found
        rcases found with ⟨same, equal⟩
        exact ⟨equal.symm, same⟩

theorem length_header (version : UInt32) (fields : Fields)
    (hardwareInstance capsuleSupport : UInt64) :
    (header version fields hardwareInstance capsuleSupport).length = headerSize version := by
  have fixed : (Layout.word32.encode version).length +
      (Fields.layout.encode fields).length = 32 := by
    rw [Layout.length_encode, Layout.length_encode]
    rfl
  simp only [header, List.length_append, length_optionalWord, headerSize, decide_eq_true_eq,
    UInt32.le_iff_toNat_le, ← UInt32.toNat_inj, UInt32.reduceToNat]
  rcases Nat.lt_trichotomy version.toNat 2 with first | second | later
  · rw [if_neg (by omega), if_neg (by omega), if_pos (by omega)]
    omega
  · rw [if_pos (by omega), if_neg (by omega), if_neg (by omega), if_pos second]
    omega
  · rw [if_pos (by omega), if_pos (by omega), if_neg (by omega), if_neg (by omega)]
    omega

theorem outcome_decode_header_append {version : UInt32} {fields : Fields}
    {hardwareInstance capsuleSupport : UInt64} (body : Bytes) (numbered : 1 ≤ version)
    (noInstance : version < 2 → hardwareInstance = 0)
    (noSupport : version < 3 → capsuleSupport = 0) :
    (decode (header version fields hardwareInstance capsuleSupport ++ body)).outcome =
      if fields.index < 1 then
        .error .malformedCapsule
      else if fields.imageSize.toNat + fields.vendorCodeSize.toNat ≠ body.length then
        .error (.sizeMismatch
          (headerSize version + fields.imageSize.toNat + fields.vendorCodeSize.toNat)
          (headerSize version + body.length))
      else
        .ok ⟨version, fields.imageType, fields.index, hardwareInstance, capsuleSupport,
          body.take fields.imageSize.toNat, body.drop fields.imageSize.toNat⟩ := by
  have instanceTaken : ∀ rest, takeOptionalWord? (2 ≤ version)
      (optionalWord (2 ≤ version) hardwareInstance ++ rest) = some (hardwareInstance, rest) := by
    intro rest
    refine takeOptionalWord?_eq_some_iff.mpr ⟨rfl, fun absent => noInstance ?_⟩
    simpa using absent
  have supportTaken : ∀ rest, takeOptionalWord? (3 ≤ version)
      (optionalWord (3 ≤ version) capsuleSupport ++ rest) = some (capsuleSupport, rest) := by
    intro rest
    refine takeOptionalWord?_eq_some_iff.mpr ⟨rfl, fun absent => noSupport ?_⟩
    simpa using absent
  have size : (header version fields hardwareInstance capsuleSupport ++ body).length =
      headerSize version + body.length := by
    rw [List.length_append, length_header]
  have counted : ¬ version < 1 := UInt32.not_lt.mpr numbered
  have declared : headerSize version + fields.imageSize.toNat + fields.vendorCodeSize.toNat ≠
      headerSize version + body.length ↔
        fields.imageSize.toNat + fields.vendorCodeSize.toNat ≠ body.length := by omega
  rw [decode]
  rw [size]
  simp only [header, List.append_assoc, Layout.take?_encode_append, Traced.require_some, pure_bind,
    if_neg counted, instanceTaken, supportTaken, declared]
  split
  · rfl
  · split <;> rfl

/-! ## Forms -/

theorem encode_fieldsLayout (fields : Fields) :
    Fields.layout.encode fields = fields.imageType.bytes ++ ([fields.index] ++
      (fields.reserved.bytes ++ (littleEndian 4 fields.imageSize.toNat ++
        littleEndian 4 fields.vendorCodeSize.toNat))) := by
  rw [← Layout.encode_byte]
  rfl

theorem form_eq_header_append (item : Item) (reserved : Block 3) :
    item.form reserved = header item.version
        ⟨item.imageType, item.index, reserved, UInt32.ofNat item.payload.length,
          UInt32.ofNat item.vendorCode.length⟩ item.hardwareInstance item.capsuleSupport ++
      (item.payload ++ item.vendorCode) := by
  simp only [form, header, encode_fieldsLayout, ← Layout.encode_word32,
    Layout.encode_word32_ofNat, optionalWord, ← Layout.encode_word64, decide_eq_true_eq,
    List.append_assoc]

theorem toBytes_eq_form (item : Item) : item.toBytes = item.form (.zero 3) := by
  rw [form_eq_header_append, toBytes, header]
  simp only [List.append_assoc]

theorem length_form (item : Item) (reserved : Block 3) :
    (item.form reserved).length =
      headerSize item.version + (item.payload.length + item.vendorCode.length) := by
  rw [form_eq_header_append, List.length_append, length_header, List.length_append]

theorem headerSize_ge (version : UInt32) : 32 ≤ headerSize version := by
  rw [headerSize]
  split
  · omega
  · split <;> omega

theorem WellFormed.outcome_decode_header_append {item : Item} (wellFormed : item.WellFormed)
    (reserved : Block 3) (body : Bytes) :
    (decode (header item.version
        ⟨item.imageType, item.index, reserved, UInt32.ofNat item.payload.length,
          UInt32.ofNat item.vendorCode.length⟩ item.hardwareInstance item.capsuleSupport ++
      body)).outcome =
      if item.payload.length + item.vendorCode.length ≠ body.length then
        .error (.sizeMismatch
          (headerSize item.version + item.payload.length + item.vendorCode.length)
          (headerSize item.version + body.length))
      else
        .ok { item with
          payload := body.take item.payload.length
          vendorCode := body.drop item.payload.length } := by
  have indexed : ¬ item.index < 1 := UInt8.not_lt.mpr wellFormed.index
  have payloadSize : (UInt32.ofNat item.payload.length).toNat = item.payload.length :=
    UInt32.toNat_ofNat_of_lt' wellFormed.payload
  have vendorCodeSize : (UInt32.ofNat item.vendorCode.length).toNat = item.vendorCode.length :=
    UInt32.toNat_ofNat_of_lt' wellFormed.vendorCode
  rw [Item.outcome_decode_header_append body wellFormed.version wellFormed.hardwareInstance
    wellFormed.capsuleSupport]
  simp only [if_neg indexed, payloadSize, vendorCodeSize]

theorem outcome_decode_form {item : Item} (wellFormed : item.WellFormed) (reserved : Block 3) :
    (decode (item.form reserved)).outcome = .ok item := by
  have fits : item.payload.length + item.vendorCode.length =
      (item.payload ++ item.vendorCode).length := List.length_append.symm
  rw [form_eq_header_append, wellFormed.outcome_decode_header_append,
    if_neg (Decidable.not_not.mpr fits), List.take_left, List.drop_left]

theorem outcome_decode_version_append {version : UInt32} (uncounted : version < 1) (rest : Bytes) :
    (decode (Layout.word32.encode version ++ rest)).outcome = .error .malformedCapsule := by
  rw [decode, Layout.take?_encode_append, Traced.require_some, pure_bind]
  simp only [if_pos uncounted]
  rfl

theorem outcome_decode_cases (bytes : Bytes) :
    (decode bytes).outcome = .error .fieldCutShort ∨
    (∃ version rest, bytes = Layout.word32.encode version ++ rest ∧ version < 1) ∨
    ∃ version fields hardwareInstance capsuleSupport body,
      bytes = header version fields hardwareInstance capsuleSupport ++ body ∧ 1 ≤ version ∧
      (version < 2 → hardwareInstance = 0) ∧ (version < 3 → capsuleSupport = 0) := by
  rw [decode]
  rcases versionFound : Layout.word32.take? bytes with _ | ⟨version, behindVersion⟩
  · exact .inl rfl
  rw [Traced.require_some, pure_bind]
  by_cases counted : version < 1
  · rw [Layout.take?_eq_some_iff] at versionFound
    exact .inr (.inl ⟨version, behindVersion, versionFound, counted⟩)
  simp only [if_neg counted]
  rcases fieldsFound : Fields.layout.take? behindVersion with _ | ⟨fields, behindFields⟩
  · exact .inl rfl
  rw [Traced.require_some, pure_bind]
  rcases instanceFound : takeOptionalWord? (2 ≤ version) behindFields with
    _ | ⟨hardwareInstance, behindInstance⟩
  · exact .inl rfl
  rw [Traced.require_some, pure_bind]
  rcases supportFound : takeOptionalWord? (3 ≤ version) behindInstance with
    _ | ⟨capsuleSupport, body⟩
  · exact .inl rfl
  refine .inr (.inr ⟨version, fields, hardwareInstance, capsuleSupport, body, ?_,
    UInt32.not_lt.mp counted, ?_, ?_⟩)
  · rw [Layout.take?_eq_some_iff] at versionFound fieldsFound
    rw [versionFound, fieldsFound, (takeOptionalWord?_eq_some_iff.mp instanceFound).1,
      (takeOptionalWord?_eq_some_iff.mp supportFound).1, header]
    simp only [List.append_assoc]
  · intro early
    exact (takeOptionalWord?_eq_some_iff.mp instanceFound).2 (by simpa using early)
  · intro early
    exact (takeOptionalWord?_eq_some_iff.mp supportFound).2 (by simpa using early)

theorem outcome_decode_eq_ok_iff {bytes : Bytes} {item : Item} :
    (decode bytes).outcome = .ok item ↔
      item.WellFormed ∧ ∃ reserved, bytes = item.form reserved := by
  constructor
  · intro accepted
    rcases outcome_decode_cases bytes with short | ⟨version, rest, rfl, uncounted⟩ | headed
    · rw [short] at accepted
      cases accepted
    · rw [outcome_decode_version_append uncounted] at accepted
      cases accepted
    · rcases headed with ⟨version, fields, hardwareInstance, capsuleSupport, body, rfl, numbered,
        noInstance, noSupport⟩
      rw [outcome_decode_header_append body numbered noInstance noSupport] at accepted
      split at accepted
      · cases accepted
      rename_i indexed
      split at accepted
      · cases accepted
      rename_i sizes
      have fits : fields.imageSize.toNat + fields.vendorCodeSize.toNat = body.length :=
        Decidable.not_not.mp sizes
      have payloadSize : (body.take fields.imageSize.toNat).length = fields.imageSize.toNat := by
        rw [List.length_take]
        omega
      have vendorCodeSize :
          (body.drop fields.imageSize.toNat).length = fields.vendorCodeSize.toNat := by
        rw [List.length_drop]
        omega
      cases accepted
      refine ⟨⟨⟨?_, ?_⟩, numbered, UInt8.not_lt.mp indexed, noInstance, noSupport⟩,
        fields.reserved, ?_⟩
      · rw [payloadSize]
        exact fields.imageSize.toNat_lt
      · rw [vendorCodeSize]
        exact fields.vendorCodeSize.toNat_lt
      · rw [form_eq_header_append]
        simp only [payloadSize, vendorCodeSize, UInt32.ofNat_toNat, List.take_append_drop]
  · intro described
    rcases described with ⟨wellFormed, reserved, rfl⟩
    exact outcome_decode_form wellFormed reserved

/-- Reading an item that spans less than the byte string. The sizes in its header
give it away. -/
theorem outcome_decode_append {bytes more : Bytes} {item : Item}
    (accepted : (decode bytes).outcome = .ok item) (present : more ≠ []) :
    (decode (bytes ++ more)).outcome =
      .error (.sizeMismatch bytes.length (bytes.length + more.length)) := by
  rcases outcome_decode_eq_ok_iff.mp accepted with ⟨wellFormed, reserved, rfl⟩
  have longer : item.payload.length + item.vendorCode.length ≠
      (item.payload ++ item.vendorCode ++ more).length := by
    have positive := List.length_pos_iff.mpr present
    simp only [List.length_append]
    omega
  rw [length_form, form_eq_header_append, List.append_assoc,
    wellFormed.outcome_decode_header_append, if_pos longer]
  simp only [List.length_append, Nat.add_assoc]

theorem length_toBytes_of_outcome_decode {bytes : Bytes} {item : Item}
    (accepted : (decode bytes).outcome = .ok item) : item.toBytes.length = bytes.length := by
  rcases outcome_decode_eq_ok_iff.mp accepted with ⟨_, reserved, rfl⟩
  rw [toBytes_eq_form, length_form, length_form]

theorem length_ge_of_outcome_decode {bytes : Bytes} {item : Item}
    (accepted : (decode bytes).outcome = .ok item) : 32 ≤ bytes.length := by
  rcases outcome_decode_eq_ok_iff.mp accepted with ⟨_, reserved, rfl⟩
  have atLeast := headerSize_ge item.version
  rw [length_form]
  omega

/-! ## Reserved bytes -/

def clearReserved (bytes : Bytes) : Bytes :=
  bytes.take 21 ++ ((Block.zero 3).bytes ++ bytes.drop 24)

/-- The reserved bytes are bytes 21 to 23, and nothing else depends on them. -/
theorem exists_form_eq_append (item : Item) : ∃ leading trailing, leading.length = 21 ∧
    ∀ reserved, item.form reserved = leading ++ (reserved.bytes ++ trailing) := by
  refine ⟨littleEndian 4 item.version.toNat ++ item.imageType.bytes ++ [item.index],
    littleEndian 4 item.payload.length ++ (littleEndian 4 item.vendorCode.length ++
      ((if 2 ≤ item.version then littleEndian 8 item.hardwareInstance.toNat else []) ++
        ((if 3 ≤ item.version then littleEndian 8 item.capsuleSupport.toNat else []) ++
          (item.payload ++ item.vendorCode)))), by simp, ?_⟩
  intro reserved
  simp only [form, List.append_assoc]

theorem clearReserved_form (item : Item) (reserved : Block 3) :
    clearReserved (item.form reserved) = item.toBytes := by
  rcases item.exists_form_eq_append with ⟨leading, trailing, size, form_eq⟩
  have throughReserved : (leading ++ reserved.bytes).length = 24 := by
    rw [List.length_append, size, reserved.length_bytes]
  have behindReserved : (leading ++ (reserved.bytes ++ trailing)).drop 24 = trailing := by
    rw [← List.append_assoc, List.drop_left' throughReserved]
  rw [toBytes_eq_form, form_eq, form_eq, clearReserved, List.take_left' size, behindReserved]

theorem toBytes_eq_clearReserved {bytes : Bytes} {item : Item}
    (accepted : (decode bytes).outcome = .ok item) : item.toBytes = clearReserved bytes := by
  rcases outcome_decode_eq_ok_iff.mp accepted with ⟨_, reserved, rfl⟩
  exact (clearReserved_form item reserved).symm

theorem outcome_decode_toBytes {item : Item} (wellFormed : item.WellFormed) :
    (decode item.toBytes).outcome = .ok item := by
  rw [toBytes_eq_form]
  exact outcome_decode_form wellFormed _

theorem wellFormed_of_outcome_decode {bytes : Bytes} {item : Item}
    (accepted : (decode bytes).outcome = .ok item) : item.WellFormed :=
  (outcome_decode_eq_ok_iff.mp accepted).1

theorem clearReserved_eq_mapIdx {bytes : Bytes} (long : 24 ≤ bytes.length) :
    clearReserved bytes = bytes.mapIdx fun position byte =>
      if 21 ≤ position ∧ position < 24 then 0 else byte := by
  have leadingSize : (bytes.take 21).length = 21 := List.length_take_of_le (by omega)
  rw [eq_comm, List.mapIdx_eq_iff]
  intro position
  rw [clearReserved]
  by_cases leading : position < 21
  · have kept : ¬ (21 ≤ position ∧ position < 24) := by omega
    rw [List.getElem?_append_left (by omega), List.getElem?_take_of_lt leading]
    simp only [if_neg kept, Option.map_id']
  rw [List.getElem?_append_right (by omega), leadingSize]
  by_cases reserved : position < 24
  · have cleared : 21 ≤ position ∧ position < 24 := by omega
    have here : (Block.zero 3).bytes[position - 21]? = some 0 :=
      List.getElem?_replicate_of_lt (by omega)
    rw [List.getElem?_append_left (by rw [(Block.zero 3).length_bytes]; omega), here,
      List.getElem?_eq_getElem (by omega), Option.map_some, if_pos cleared]
  · have kept : ¬ (21 ≤ position ∧ position < 24) := by omega
    have shifted : 24 + (position - 21 - 3) = position := by omega
    rw [List.getElem?_append_right (by rw [(Block.zero 3).length_bytes]; omega),
      (Block.zero 3).length_bytes, List.getElem?_drop, shifted]
    simp only [if_neg kept, Option.map_id']

end FirmwareCapsule.Management.Item
