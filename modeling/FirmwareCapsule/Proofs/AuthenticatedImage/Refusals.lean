import FirmwareCapsule.Proofs.AuthenticatedImage

namespace FirmwareCapsule.AuthenticatedImage

/-! Reasons not to read an authenticated image. A buffer without one is the form of
the image that is read from it. The kind of certificate counts before its size, so a
foreign certificate is never taken for one that is cut short. -/

/-! ## Fields as they lie in a buffer -/

def lengthIn (buffer : Bytes) : Nat :=
  littleEndianValue (buffer.extract 8 12)

def revisionIn (buffer : Bytes) : Nat :=
  littleEndianValue (buffer.extract 12 14)

def formatIn (buffer : Bytes) : Nat :=
  littleEndianValue (buffer.extract 14 16)

theorem encode_headerLayout (header : Header) :
    Header.layout.encode header =
      littleEndian 8 header.monotonicCount.toNat ++ littleEndian 4 header.length.toNat ++
        littleEndian 2 header.revision.toNat ++ littleEndian 2 header.format.toNat ++
        header.certificateType.bytes := by
  simp only [List.append_assoc]
  rfl

theorem fields_header_append (header : Header) (body : Bytes) :
    let buffer := Header.layout.encode header ++ body
    lengthIn buffer = header.length.toNat ∧ revisionIn buffer = header.revision.toNat ∧
      formatIn buffer = header.format.toNat ∧
      buffer.extract 16 32 = header.certificateType.bytes := by
  intro buffer
  have buffer_eq : buffer = littleEndian 8 header.monotonicCount.toNat ++
      (littleEndian 4 header.length.toNat ++ (littleEndian 2 header.revision.toNat ++
        (littleEndian 2 header.format.toNat ++ (header.certificateType.bytes ++ body)))) := by
    show Header.layout.encode header ++ body = _
    simp only [encode_headerLayout, List.append_assoc]
  refine ⟨?_, ?_, ?_, ?_⟩
  · rw [lengthIn, buffer_eq, extract_middle (length_littleEndian 8 _) (by simp),
      littleEndianValue_littleEndian]
    exact Nat.mod_eq_of_lt header.length.toNat_lt
  · rw [revisionIn, buffer_eq, ← List.append_assoc, extract_middle (by simp) (by simp),
      littleEndianValue_littleEndian]
    exact Nat.mod_eq_of_lt header.revision.toNat_lt
  · rw [formatIn, buffer_eq, ← List.append_assoc, ← List.append_assoc,
      extract_middle (by simp) (by simp), littleEndianValue_littleEndian]
    exact Nat.mod_eq_of_lt header.format.toNat_lt
  · rw [buffer_eq, ← List.append_assoc, ← List.append_assoc, ← List.append_assoc,
      extract_middle (by simp) (by simp)]

/-! ## Reading -/

theorem exists_header_of_length_ge {buffer : Bytes} (long : headerSize ≤ buffer.length) :
    ∃ header body, buffer = Header.layout.encode header ++ body :=
  Header.layout.exists_encode_append long

/-- Every field but the count is fixed, so a header that passes is written for its count. -/
theorem eq_ofCount {header : Header} (revision : header.revision = supportedRevision)
    (format : header.format = guidFormat) (type : header.certificateType = rsa2048Sha256Type)
    (length : header.length.toNat = lengthOverhead + Certificate.size) :
    header = .ofCount header.monotonicCount := by
  have length_eq : header.length = certificateLength := UInt32.toNat_inj.mp length
  cases header
  cases revision
  cases format
  cases type
  cases length_eq
  rfl

theorem eq_toBytes_of_outcome_decode {buffer : Bytes} {image : AuthenticatedImage}
    (accepted : (decode buffer).outcome = .ok image) : buffer = image.toBytes := by
  by_cases short : buffer.length < headerSize
  · rw [outcome_decode_of_length_lt short] at accepted
    cases accepted
  rcases exists_header_of_length_ge (Nat.not_lt.mp short) with ⟨header, body, rfl⟩
  rw [outcome_decode_header_append] at accepted
  split at accepted
  · cases accepted
  rename_i knownFormat
  split at accepted
  · cases accepted
  rename_i knownType
  split at accepted
  · cases accepted
  rename_i whole
  split at accepted
  · cases accepted
  rename_i sizeFixed
  rw [Decidable.not_not] at sizeFixed knownType
  rw [not_or, Decidable.not_not, Decidable.not_not] at knownFormat
  have long : Certificate.size ≤ body.length := by
    omega
  rcases Certificate.exists_encode_append long with ⟨certificate, payload, rfl⟩
  rw [Certificate.outcome_decode_encode_append] at accepted
  cases accepted
  rw [List.drop_left' certificate.length_encode, toBytes,
    ← eq_ofCount knownFormat.1 knownFormat.2 knownType sizeFixed]

theorem outcome_encode (image : AuthenticatedImage) :
    image.encode.outcome = .ok image.toBytes := by
  rw [encode, Logged.outcome_debug_bind, Traced.outcome_pure]

/-! ## Reasons not to read -/

def refusals (buffer : Bytes) : List Fault :=
  (if buffer.length < 32 then [.fieldCutShort] else []) ++
  (if revisionIn buffer ≠ 0x0200 ∨ formatIn buffer ≠ 0x0EF1 then
    [.foreignCertificateFormat] else []) ++
  (if buffer.extract 16 32 ≠ [0x14, 0x74, 0x71, 0xA7, 0x16, 0xC6, 0x77, 0x49,
      0x94, 0x20, 0x84, 0x47, 0x12, 0xA7, 0x35, 0xBF] then
    [.foreignCertificateType] else []) ++
  (if lengthIn buffer < 552 ∨ buffer.length < 8 + lengthIn buffer then
    [.certificateCutShort] else []) ++
  (if 552 < lengthIn buffer then [.sizeMismatch 528 (lengthIn buffer - 24)] else [])

theorem refusals_header_append (header : Header) (body : Bytes) :
    refusals (Header.layout.encode header ++ body) =
      (if header.revision ≠ supportedRevision ∨ header.format ≠ guidFormat then
        [.foreignCertificateFormat] else []) ++
      (if header.certificateType ≠ rsa2048Sha256Type then [.foreignCertificateType] else []) ++
      (if header.length.toNat < lengthOverhead + Certificate.size ∨
          body.length + lengthOverhead < header.length.toNat then
        [.certificateCutShort] else []) ++
      (if lengthOverhead + Certificate.size < header.length.toNat then
        [.sizeMismatch Certificate.size (header.length.toNat - lengthOverhead)] else []) := by
  have size : (Header.layout.encode header ++ body).length = 32 + body.length := by
    rw [List.length_append, Layout.length_encode]
    rfl
  have long : ¬ 32 + body.length < 32 := by
    omega
  have cut : 32 + body.length < 8 + header.length.toNat ↔
      body.length + 24 < header.length.toNat := by
    omega
  have knownRevision : header.revision.toNat = 0x0200 ↔ header.revision = supportedRevision :=
    UInt16.toNat_inj (b := supportedRevision)
  have knownFormat : header.format.toNat = 0x0EF1 ↔ header.format = guidFormat :=
    UInt16.toNat_inj (b := guidFormat)
  have knownType : header.certificateType.bytes = [0x14, 0x74, 0x71, 0xA7, 0x16, 0xC6, 0x77, 0x49,
      0x94, 0x20, 0x84, 0x47, 0x12, 0xA7, 0x35, 0xBF] ↔
        header.certificateType = rsa2048Sha256Type :=
    ⟨fun equal => Guid.ext equal, fun equal => by rw [equal]; rfl⟩
  rcases fields_header_append header body with ⟨lengthFound, revisionFound, formatFound, typeFound⟩
  simp only [refusals, size, lengthFound, revisionFound, formatFound, typeFound, if_neg long, cut,
    ne_eq, knownRevision, knownFormat, knownType, List.nil_append]
  rfl

theorem outcome_decode_cases (buffer : Bytes) :
    (∃ fault, (refusals buffer).head? = some fault ∧ (decode buffer).outcome = .error fault) ∨
    (refusals buffer = [] ∧ ∃ image, (decode buffer).outcome = .ok image) := by
  by_cases short : buffer.length < 32
  · rw [refusals, if_pos short]
    exact .inl ⟨_, rfl, outcome_decode_of_length_lt short⟩
  rcases exists_header_of_length_ge (Nat.not_lt.mp short) with ⟨header, body, rfl⟩
  rw [refusals_header_append, outcome_decode_header_append]
  by_cases foreignFormat : header.revision ≠ supportedRevision ∨ header.format ≠ guidFormat
  · rw [if_pos foreignFormat, if_pos foreignFormat]
    exact .inl ⟨_, rfl, rfl⟩
  rw [if_neg foreignFormat, if_neg foreignFormat]
  by_cases foreignType : header.certificateType ≠ rsa2048Sha256Type
  · rw [if_pos foreignType, if_pos foreignType]
    exact .inl ⟨_, rfl, rfl⟩
  rw [if_neg foreignType, if_neg foreignType]
  by_cases cutShort : header.length.toNat < lengthOverhead + Certificate.size ∨
      body.length + lengthOverhead < header.length.toNat
  · rw [if_pos cutShort, if_pos cutShort]
    exact .inl ⟨_, rfl, rfl⟩
  rw [if_neg cutShort, if_neg cutShort]
  by_cases longer : lengthOverhead + Certificate.size < header.length.toNat
  · rw [if_pos longer, if_pos (Nat.ne_of_gt longer)]
    exact .inl ⟨_, rfl, rfl⟩
  have sizeFixed : header.length.toNat = lengthOverhead + Certificate.size := by
    omega
  have whole : Certificate.size ≤ body.length := by
    omega
  rcases Certificate.exists_encode_append whole with ⟨certificate, payload, rfl⟩
  rw [if_neg longer, if_neg (not_not_intro sizeFixed), Certificate.outcome_decode_encode_append]
  exact .inr ⟨rfl, _, rfl⟩

structure IsReadOrRefused (buffer : Bytes) : Prop where
  read : ∀ image, (decode buffer).outcome = .ok image ↔ image.encode.outcome = .ok buffer
  refused : ∀ fault,
    (decode buffer).outcome = .error fault ↔ (refusals buffer).head? = some fault

theorem isReadOrRefused (buffer : Bytes) : IsReadOrRefused buffer where
  read := by
    intro image
    rw [outcome_encode, Except.ok.injEq]
    constructor
    · intro accepted
      exact (eq_toBytes_of_outcome_decode accepted).symm
    · intro written
      rw [← written]
      exact image.outcome_decode_toBytes
  refused := by
    intro fault
    rcases outcome_decode_cases buffer with ⟨first, isFirst, refused⟩ | ⟨none, image, accepted⟩
    · rw [refused, isFirst, Except.error.injEq, Option.some.injEq]
    · simp [accepted, none]

end FirmwareCapsule.AuthenticatedImage
