import FirmwareCapsule.Proofs.Envelope.Form

namespace FirmwareCapsule.Envelope

/-! Envelopes of a wrong length. As long as the declared size is left alone it tells
that something is missing. Where it is made to fit, the envelope can be read again,
around the content that is there. -/

def withDeclaredSize (buffer : Bytes) : Bytes :=
  buffer.take 24 ++ (littleEndian 4 buffer.length ++ buffer.drop 28)

theorem take_header_append (header : Header) (body : Bytes) {size : Nat}
    (long : fieldsSize ≤ size) :
    (Header.layout.encode header ++ body).take size =
      Header.layout.encode header ++ body.take (size - fieldsSize) := by
  have whole : (Header.layout.encode header).length ≤ size := by
    rw [Layout.length_encode, width_headerLayout]
    exact long
  rw [List.take_append, List.take_of_length_le whole, Layout.length_encode, width_headerLayout]

theorem length_take_body {buffer body : Bytes} {header : Header} {size : Nat}
    (buffer_eq : buffer = Header.layout.encode header ++ body) (long : fieldsSize ≤ size)
    (shorter : size < buffer.length) :
    fieldsSize + (body.take (size - fieldsSize)).length = size := by
  rw [buffer_eq, List.length_append, Layout.length_encode, width_headerLayout] at shorter
  rw [List.length_take]
  omega

theorem encode_headerLayout (header : Header) :
    Header.layout.encode header =
      header.capsuleGuid.bytes ++ littleEndian 4 header.headerSize.toNat ++
        littleEndian 4 header.flags.toNat ++ littleEndian 4 header.imageSize.toNat := by
  simp only [List.append_assoc]
  rfl

theorem withDeclaredSize_header_append (header : Header) (body : Bytes) :
    withDeclaredSize (Header.layout.encode header ++ body) =
      Header.layout.encode
          { header with imageSize := UInt32.ofNat (fieldsSize + body.length) } ++ body := by
  have length_eq : (Header.layout.encode header ++ body).length = fieldsSize + body.length := by
    rw [List.length_append, Layout.length_encode, width_headerLayout]
  have before : (Header.layout.encode header ++ body).take 24 =
      header.capsuleGuid.bytes ++ littleEndian 4 header.headerSize.toNat ++
        littleEndian 4 header.flags.toNat := by
    rw [encode_headerLayout, List.append_assoc _ _ body]
    apply List.take_left'
    simp
  have behind : (Header.layout.encode header ++ body).drop 28 = body :=
    List.drop_left' (Layout.length_encode _ header)
  rw [withDeclaredSize, length_eq, before, behind, encode_headerLayout,
    ← Layout.encode_word32 (UInt32.ofNat _), Layout.encode_word32_ofNat,
    List.append_assoc _ _ body]

theorem outcome_decode_withDeclaredSize {header : Header} {body : Bytes}
    (headerLong : fieldsSize ≤ header.headerSize.toNat)
    (fits : fieldsSize + body.length < UInt32.size) :
    (decode (withDeclaredSize (Header.layout.encode header ++ body))).outcome =
      if fieldsSize + body.length < header.headerSize.toNat then
        .error .headerCutShort
      else
        .ok (ofHeader header (body.drop (header.headerSize.toNat - fieldsSize))) := by
  have declared : (UInt32.ofNat (fieldsSize + body.length)).toNat = fieldsSize + body.length :=
    UInt32.toNat_ofNat_of_lt' fits
  rw [withDeclaredSize_header_append, outcome_decode_header_append]
  simp only [declared, if_neg (Nat.not_lt.mpr headerLong), ne_eq, not_true_eq_false, if_false]
  rfl

/-! ## The declared size left alone -/

theorem outcome_decode_take {buffer : Bytes} {envelope : Envelope} {size : Nat}
    (opened : (decode buffer).outcome = .ok envelope) (shorter : size < buffer.length) :
    (decode (buffer.take size)).outcome =
      if size < envelope.headerSize.toNat then
        .error .headerCutShort
      else
        .error (.sizeMismatch buffer.length size) := by
  rcases outcome_decode_eq_ok_iff.mp opened with
    ⟨header, body, buffer_eq, headerLong, _, sizeDeclared, rfl⟩
  by_cases short : size < fieldsSize
  · rw [outcome_decode_of_length_lt]
    · exact (if_pos (Nat.lt_of_lt_of_le short headerLong)).symm
    · exact Nat.lt_of_le_of_lt (List.length_take_le size buffer) short
  · have long := Nat.not_lt.mp short
    have remaining := length_take_body buffer_eq long shorter
    rw [buffer_eq, take_header_append header body long, outcome_decode_header_append, remaining,
      ← buffer_eq, sizeDeclared, if_neg (Nat.not_lt.mpr headerLong),
      if_pos (Nat.ne_of_gt shorter)]
    rfl

/-! ## The declared size made to fit -/

theorem outcome_decode_withDeclaredSize_take {buffer : Bytes} {envelope : Envelope} {size : Nat}
    (opened : (decode buffer).outcome = .ok envelope) (long : fieldsSize ≤ size)
    (shorter : size < buffer.length) :
    (decode (withDeclaredSize (buffer.take size))).outcome =
      if size < envelope.headerSize.toNat then
        .error .headerCutShort
      else
        .ok { envelope with
          payload := envelope.payload.take (size - envelope.headerSize.toNat) } := by
  rcases outcome_decode_eq_ok_iff.mp opened with
    ⟨header, body, buffer_eq, headerLong, _, sizeDeclared, rfl⟩
  have remaining := length_take_body buffer_eq long shorter
  have fits : size < UInt32.size := by
    calc
      size < buffer.length := shorter
      _ = header.imageSize.toNat := sizeDeclared.symm
      _ < UInt32.size := header.imageSize.toNat_lt
  have content : (body.take (size - fieldsSize)).drop (header.headerSize.toNat - fieldsSize) =
      (body.drop (header.headerSize.toNat - fieldsSize)).take
        (size - header.headerSize.toNat) := by
    rw [List.drop_take]
    congr 1
    omega
  rw [buffer_eq, take_header_append header body long,
    outcome_decode_withDeclaredSize headerLong (remaining.symm ▸ fits), remaining, content]
  rfl

theorem outcome_decode_withDeclaredSize_append {buffer more : Bytes} {envelope : Envelope}
    (opened : (decode buffer).outcome = .ok envelope)
    (fits : buffer.length + more.length < UInt32.size) :
    (decode (withDeclaredSize (buffer ++ more))).outcome =
      .ok { envelope with payload := envelope.payload ++ more } := by
  rcases outcome_decode_eq_ok_iff.mp opened with
    ⟨header, body, buffer_eq, headerLong, headerInside, _, rfl⟩
  have total : buffer.length = fieldsSize + body.length := by
    rw [buffer_eq, List.length_append, Layout.length_encode, width_headerLayout]
  have content : (body ++ more).drop (header.headerSize.toNat - fieldsSize) =
      body.drop (header.headerSize.toNat - fieldsSize) ++ more := by
    apply List.drop_append_of_le_length
    omega
  have extended : fieldsSize + (body ++ more).length = buffer.length + more.length := by
    rw [List.length_append, total, Nat.add_assoc]
  have headerWhole : ¬ buffer.length + more.length < header.headerSize.toNat :=
    Nat.not_lt.mpr (Nat.le_add_right_of_le headerInside)
  rw [buffer_eq, List.append_assoc, outcome_decode_withDeclaredSize headerLong
    (extended.symm ▸ fits), extended, if_neg headerWhole, content]
  rfl

end FirmwareCapsule.Envelope
