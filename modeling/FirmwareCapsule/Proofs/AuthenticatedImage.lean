import FirmwareCapsule.AuthenticatedImage

namespace FirmwareCapsule

/-! The form of authenticated images. Each image has one form, and nothing else is
read: every field in front of the certificate but the count is fixed. -/

namespace Certificate

theorem outcome_decode_encode_append (certificate : Certificate) (rest : Bytes) :
    (decode (certificate.encode ++ rest)).outcome = .ok certificate := by
  rw [decode, encode, Layout.take?_encode_append]
  rfl

theorem outcome_decode_of_length_lt {buffer : Bytes} (short : buffer.length < size) :
    (decode buffer).outcome = .error .certificateCutShort := by
  rw [decode, (Layout.take?_eq_none_iff _).mpr short]
  rfl

theorem exists_encode_append {buffer : Bytes} (long : size ≤ buffer.length) :
    ∃ certificate : Certificate, ∃ rest, buffer = certificate.encode ++ rest :=
  layout.exists_encode_append long

end Certificate

namespace AuthenticatedImage

theorem outcome_decode_header_append (header : Header) (body : Bytes) :
    (decode (Header.layout.encode header ++ body)).outcome =
      if header.revision ≠ supportedRevision ∨ header.format ≠ guidFormat then
        .error .foreignCertificateFormat
      else if header.certificateType ≠ rsa2048Sha256Type then
        .error .foreignCertificateType
      else if header.length.toNat < lengthOverhead + Certificate.size ∨
          body.length + lengthOverhead < header.length.toNat then
        .error .certificateCutShort
      else if header.length.toNat ≠ lengthOverhead + Certificate.size then
        .error (.sizeMismatch Certificate.size (header.length.toNat - lengthOverhead))
      else
        (Certificate.decode body).outcome.map fun certificate =>
          ⟨header.monotonicCount, certificate, body.drop Certificate.size⟩ := by
  have length_eq : (Header.layout.encode header ++ body).length = headerSize + body.length := by
    rw [List.length_append, Layout.length_encode, width_headerLayout]
  rw [decode]
  simp only [Layout.take?_encode_append, Traced.require_some, pure_bind, length_eq]
  split
  · rfl
  split
  · rfl
  generalize declared_eq : header.length.toNat = declared
  by_cases cutShort : declared < lengthOverhead + Certificate.size ∨
      body.length + lengthOverhead < declared
  · rw [if_pos cutShort]
    split
    · rfl
    split
    · rfl
    rename_i overheadInside dataInside
    have short : (body.take (declared - lengthOverhead)).length < Certificate.size := by
      rw [List.length_take]
      omega
    rw [Traced.outcome_bind_of_error (Certificate.outcome_decode_of_length_lt short)]
  · have overheadInside : ¬ declared < lengthOverhead := by omega
    have dataInside : ¬ headerSize + (declared - lengthOverhead) > headerSize + body.length := by
      omega
    have long : Certificate.size ≤ (body.take (declared - lengthOverhead)).length := by
      rw [List.length_take]
      omega
    rcases Certificate.exists_encode_append long with ⟨certificate, rest, data_eq⟩
    have dataRead : (Certificate.decode (body.take (declared - lengthOverhead))).outcome =
        .ok certificate := by
      rw [data_eq]
      exact certificate.outcome_decode_encode_append rest
    have bodyRead : (Certificate.decode body).outcome = .ok certificate := by
      rw [← List.take_append_drop (declared - lengthOverhead) body, data_eq, List.append_assoc]
      exact certificate.outcome_decode_encode_append _
    rw [if_neg cutShort, if_neg overheadInside, if_neg dataInside,
      Traced.outcome_bind_of_ok dataRead, bodyRead]
    by_cases sizeFixed : declared = lengthOverhead + Certificate.size
    · have dataFixed : declared - lengthOverhead = Certificate.size := by omega
      rw [if_neg (not_not_intro dataFixed), if_neg (not_not_intro sizeFixed), dataFixed]
      rfl
    · have dataLonger : declared - lengthOverhead ≠ Certificate.size := by omega
      rw [if_pos dataLonger, if_pos sizeFixed]
      rfl

theorem outcome_decode_of_length_lt {buffer : Bytes} (short : buffer.length < headerSize) :
    (decode buffer).outcome = .error .fieldCutShort := by
  rw [decode, (Layout.take?_eq_none_iff _).mpr short, Traced.require_none]
  exact Traced.outcome_bind_of_error rfl _

theorem outcome_decode_toBytes (image : AuthenticatedImage) :
    (decode image.toBytes).outcome = .ok image := by
  cases image with
  | mk count certificate payload =>
      have knownFormat : ¬ ((Header.ofCount count).revision ≠ supportedRevision ∨
          (Header.ofCount count).format ≠ guidFormat) :=
        fun foreign => foreign.elim (fun differs => differs rfl) fun differs => differs rfl
      have knownType : ¬ (Header.ofCount count).certificateType ≠ rsa2048Sha256Type :=
        not_not_intro rfl
      have whole : ¬ ((Header.ofCount count).length.toNat < lengthOverhead + Certificate.size ∨
          (certificate.encode ++ payload).length + lengthOverhead <
            (Header.ofCount count).length.toNat) := by
        rw [List.length_append, Certificate.length_encode]
        change ¬ (552 < 24 + 528 ∨ 528 + payload.length + 24 < 552)
        omega
      have sizeFixed : ¬ (Header.ofCount count).length.toNat ≠ lengthOverhead + Certificate.size :=
        not_not_intro rfl
      rw [toBytes, outcome_decode_header_append, if_neg knownFormat, if_neg knownType, if_neg whole,
        if_neg sizeFixed, Certificate.outcome_decode_encode_append,
        List.drop_left' certificate.length_encode]
      rfl

end AuthenticatedImage

end FirmwareCapsule
