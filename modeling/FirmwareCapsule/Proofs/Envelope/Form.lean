import FirmwareCapsule.Envelope.Basic

namespace FirmwareCapsule

/-! The form of envelopes: which buffers are envelopes, and what is read from each
of them. The bytes between the fields of the header and its end are passed over,
and so are the reserved flag bits. -/

namespace Flags

/-! ## Flag words from their parts -/

theorem or_and_mask (left right : UInt32) (flag : Flag) :
    (left ||| right) &&& flag.mask = left &&& flag.mask ||| right &&& flag.mask := by
  apply UInt32.toBitVec_inj.mp
  rw [UInt32.toBitVec_and, UInt32.toBitVec_or, BitVec.and_or_distrib_right]
  rfl

theorem oem_and_mask (oem : UInt16) : oem.toUInt32 &&& Flag.oem.mask = oem.toUInt32 := by
  calc
    oem.toUInt32 &&& Flag.oem.mask = (oem &&& -1).toUInt32 := (UInt16.toUInt32_and oem (-1)).symm
    _ = oem.toUInt32 := by rw [UInt16.and_neg_one]

theorem oem_and_mask_of_ne (oem : UInt16) {flag : Flag} (other : flag ≠ .oem) :
    oem.toUInt32 &&& flag.mask = 0 := by
  have disjoint : Flag.oem.mask &&& flag.mask = 0 := by
    cases flag with
    | oem => contradiction
    | _ => decide
  rw [← oem_and_mask, UInt32.and_assoc, disjoint, UInt32.and_zero]

theorem choose_and_oem_mask {flag : Flag} (other : flag ≠ .oem) (chosen : Bool) :
    choose flag chosen &&& Flag.oem.mask = 0 := by
  cases chosen with
  | false => exact UInt32.zero_and
  | true =>
      cases flag with
      | oem => contradiction
      | _ => decide

@[simp] theorem oemBits_compose (oem : UInt16) (persist populate initiate : Bool) :
    (compose oem persist populate initiate).oemBits = oem := by
  rw [oemBits, compose, or_and_mask, or_and_mask, or_and_mask, oem_and_mask,
    choose_and_oem_mask (by decide), choose_and_oem_mask (by decide),
    choose_and_oem_mask (by decide), UInt32.or_zero, UInt32.or_zero, UInt32.or_zero,
    UInt16.toUInt16_toUInt32]

theorem contains_compose_of_ne (flag : Flag) (other : flag ≠ .oem) (oem : UInt16)
    (persist populate initiate : Bool) :
    (compose oem persist populate initiate).contains flag =
      (compose 0 persist populate initiate).contains flag := by
  simp only [contains, compose, or_and_mask, oem_and_mask_of_ne _ other]

/-- Without OEM bits there are eight flag words, which are looked through. -/
theorem contains_compose (oem : UInt16) (persist populate initiate : Bool) :
    (compose oem persist populate initiate).contains .persistAcrossReset = persist ∧
    (compose oem persist populate initiate).contains .populateSystemTable = populate ∧
    (compose oem persist populate initiate).contains .initiateReset = initiate := by
  rw [contains_compose_of_ne .persistAcrossReset (by decide),
    contains_compose_of_ne .populateSystemTable (by decide),
    contains_compose_of_ne .initiateReset (by decide)]
  revert persist populate initiate
  decide

end Flags

namespace Envelope

/-! ## Reading -/

theorem outcome_decode_header_append (header : Header) (body : Bytes) :
    (decode (Header.layout.encode header ++ body)).outcome =
      if header.headerSize.toNat < fieldsSize then
        .error .malformedCapsule
      else if fieldsSize + body.length < header.headerSize.toNat then
        .error .headerCutShort
      else if header.imageSize.toNat ≠ fieldsSize + body.length then
        .error (.sizeMismatch header.imageSize.toNat (fieldsSize + body.length))
      else
        .ok (ofHeader header (body.drop (header.headerSize.toNat - fieldsSize))) := by
  have length_eq : (Header.layout.encode header ++ body).length = fieldsSize + body.length := by
    rw [List.length_append, Layout.length_encode, width_headerLayout]
  rw [decode]
  simp only [Layout.take?_encode_append, length_eq]
  split
  · rfl
  rename_i headerLong
  split
  · rfl
  split
  · rfl
  have contents : (Header.layout.encode header ++ body).drop header.headerSize.toNat =
      body.drop (header.headerSize.toNat - fieldsSize) := by
    rw [List.drop_append, Layout.length_encode, width_headerLayout, List.drop_of_length_le]
    · rfl
    · rw [Layout.length_encode, width_headerLayout]
      exact Nat.not_lt.mp headerLong
  rw [contents]
  split
  · rw [Logged.outcome_warn_bind, Logged.outcome_debug_bind, Traced.outcome_pure]
  · rw [Logged.outcome_debug_bind, Traced.outcome_pure]

theorem outcome_decode_of_length_lt {buffer : Bytes} (short : buffer.length < fieldsSize) :
    (decode buffer).outcome = .error .headerCutShort := by
  rw [decode]
  rw [(Layout.take?_eq_none_iff _).mpr short]
  rfl

theorem exists_header_of_length_ge {buffer : Bytes} (long : fieldsSize ≤ buffer.length) :
    ∃ header body, buffer = Header.layout.encode header ++ body :=
  Header.layout.exists_encode_append long

theorem outcome_decode_eq_ok_iff {buffer : Bytes} {envelope : Envelope} :
    (decode buffer).outcome = .ok envelope ↔
      ∃ header body, buffer = Header.layout.encode header ++ body ∧
        fieldsSize ≤ header.headerSize.toNat ∧
        header.headerSize.toNat ≤ buffer.length ∧
        header.imageSize.toNat = buffer.length ∧
        envelope = ofHeader header (body.drop (header.headerSize.toNat - fieldsSize)) := by
  constructor
  · intro accepted
    by_cases short : buffer.length < fieldsSize
    · rw [outcome_decode_of_length_lt short] at accepted
      cases accepted
    rcases exists_header_of_length_ge (Nat.not_lt.mp short) with ⟨header, body, rfl⟩
    refine ⟨header, body, rfl, ?_⟩
    rw [List.length_append, Layout.length_encode, width_headerLayout]
    rw [outcome_decode_header_append] at accepted
    split at accepted
    · cases accepted
    rename_i headerLong
    split at accepted
    · cases accepted
    rename_i headerInside
    split at accepted
    · cases accepted
    rename_i sizeDeclared
    cases accepted
    exact ⟨Nat.not_lt.mp headerLong, Nat.not_lt.mp headerInside,
      Decidable.not_not.mp sizeDeclared, rfl⟩
  · intro described
    rcases described with ⟨header, body, rfl, headerLong, headerInside, sizeDeclared, rfl⟩
    rw [List.length_append, Layout.length_encode, width_headerLayout] at headerInside sizeDeclared
    rw [outcome_decode_header_append, if_neg (Nat.not_lt.mpr headerLong),
      if_neg (Nat.not_lt.mpr headerInside), if_neg (fun differs => differs sizeDeclared)]

theorem drop_header_append (header : Header) (body : Bytes) {size : Nat}
    (long : fieldsSize ≤ size) :
    (Header.layout.encode header ++ body).drop size = body.drop (size - fieldsSize) := by
  have whole : (Header.layout.encode header).length ≤ size := by
    rw [Layout.length_encode, width_headerLayout]
    exact long
  rw [List.drop_append, List.drop_of_length_le whole, Layout.length_encode, width_headerLayout,
    List.nil_append]

theorem drop_of_outcome_decode {buffer : Bytes} {envelope : Envelope}
    (accepted : (decode buffer).outcome = .ok envelope) :
    envelope.headerSize.toNat ≤ buffer.length ∧
      buffer.drop envelope.headerSize.toNat = envelope.payload := by
  rcases outcome_decode_eq_ok_iff.mp accepted with
    ⟨header, body, rfl, headerLong, headerInside, _, rfl⟩
  exact ⟨headerInside, drop_header_append header body headerLong⟩

theorem length_payload_of_outcome_decode {buffer : Bytes} {envelope : Envelope}
    (accepted : (decode buffer).outcome = .ok envelope) :
    envelope.payload.length = buffer.length - envelope.headerSize.toNat := by
  rw [← (drop_of_outcome_decode accepted).2, List.length_drop]

/-! ## Writing -/

theorem outcome_decode_toBytes {envelope : Envelope}
    (headerLong : fieldsSize ≤ envelope.headerSize.toNat)
    (fits : envelope.imageSize < UInt32.size) :
    (decode envelope.toBytes).outcome = .ok envelope := by
  have imageSize : (UInt32.ofNat envelope.imageSize).toNat = envelope.imageSize :=
    UInt32.toNat_ofNat_of_lt' fits
  have length_eq : envelope.toBytes.length = envelope.imageSize := by
    rw [toBytes, List.length_append, Layout.length_encode, width_headerLayout, List.length_append,
      List.length_replicate, ← Nat.add_assoc, Nat.add_sub_cancel' headerLong, Envelope.imageSize]
  refine outcome_decode_eq_ok_iff.mpr ⟨_, _, rfl, headerLong, ?_, ?_, ?_⟩
  · rw [length_eq]
    exact Nat.le_add_right _ _
  · rw [imageSize, length_eq]
  · rw [List.drop_left' List.length_replicate, ofHeader, flags, Flags.oemBits_compose]
    rcases Flags.contains_compose envelope.oemFlags envelope.persistAcrossReset
      envelope.populateSystemTable envelope.initiateReset with ⟨persist, populate, initiate⟩
    rw [persist, populate, initiate]

theorem outcome_encode (envelope : Envelope) :
    envelope.encode.outcome =
      if envelope.initiateReset && !envelope.persistAcrossReset then
        .error .resetWithoutPersistence
      else if envelope.headerSize.toNat < fieldsSize then
        .error .malformedCapsule
      else if envelope.imageSize ≥ UInt32.size then
        .error .payloadTooLarge
      else
        .ok envelope.toBytes := by
  rw [encode]
  simp only [apply_ite Traced.outcome, Logged.outcome_reject, Logged.outcome_warn_bind,
    Logged.outcome_debug_bind, Traced.outcome_pure, ite_self]

end Envelope

end FirmwareCapsule
