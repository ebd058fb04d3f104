import FirmwareCapsule.Proofs.AuthenticatedImage
import FirmwareCapsule.Proofs.Safety.Checked

namespace FirmwareCapsule

/-! Authenticated images, read with checked operations. -/

namespace Certificate

def checkedDecode (buffer : Bytes) : Checked Certificate := do
  if buffer.length < size then
    Checked.refuse .certificateCutShort
  else
    let hashType ← Checked.readAt Guid.layout buffer 0
    let keyStop ← Checked.add hashType.stop 256
    let publicKey ← Checked.slice buffer hashType.stop keyStop
    let signatureStart ← Checked.add hashType.stop 256
    let signatureStop ← Checked.add signatureStart 256
    let signature ← Checked.slice buffer signatureStart signatureStop
    Checked.ofLogged (Traced.ofExcept (ofBytes? hashType.value publicKey signature))

theorem checkedDecode_eq {buffer : Bytes} (fits : buffer.length < UInt64.size) :
    checkedDecode buffer = Checked.ofLogged (decode buffer) := by
  rw [checkedDecode]
  split
  · rename_i short
    rw [Checked.ofLogged_of_error (outcome_decode_of_length_lt short)]
  · rename_i long
    rcases exists_encode_append (Nat.not_lt.mp long) with ⟨certificate, rest, rfl⟩
    have keySize := certificate.publicKey.length_bytes
    have signatureSize := certificate.signature.length_bytes
    have hashTypeSize := certificate.hashType.length_bytes
    have bytes_eq : certificate.encode ++ rest = certificate.hashType.bytes ++
        (certificate.publicKey.bytes ++ (certificate.signature.bytes ++ rest)) := by
      rw [encode_eq, List.append_assoc, List.append_assoc]
    have keyCut : Checked.slice (certificate.encode ++ rest) 16 272 =
        pure certificate.publicKey.bytes := by
      rw [bytes_eq]
      exact Checked.slice_middle hashTypeSize (by rw [keySize])
    have signatureCut : Checked.slice (certificate.encode ++ rest) 272 528 =
        pure certificate.signature.bytes := by
      rw [bytes_eq, ← List.append_assoc]
      exact Checked.slice_middle (by rw [List.length_append, hashTypeSize, keySize])
        (by rw [signatureSize])
    have whole : ofBytes? certificate.hashType certificate.publicKey.bytes
        certificate.signature.bytes = .ok certificate := by
      rw [ofBytes?, Block.ofBytes?_bytes, Block.ofBytes?_bytes]
    have hashTypeRead : Checked.readAt Guid.layout (certificate.encode ++ rest) 0 =
        pure ⟨certificate.hashType, 16⟩ :=
      Checked.readAt_of_drop fits (by decide) bytes_eq
    have keyStop : Checked.add 16 256 = pure 272 := Checked.add_of_lt (by decide)
    have signatureStop : Checked.add 272 256 = pure 528 := Checked.add_of_lt (by decide)
    simp only [hashTypeRead, keyStop, keyCut, signatureStop, signatureCut, pure_bind]
    apply Checked.ofLogged_congr
    rw [outcome_decode_encode_append]
    exact whole

end Certificate

namespace AuthenticatedImage

def Header.checkedRead (buffer : Bytes) : Checked (Checked.Reading Header) := do
  let monotonicCount ← Checked.readAt Layout.word64 buffer 0
  let length ← Checked.readAt Layout.word32 buffer monotonicCount.stop
  let revision ← Checked.readAt Layout.word16 buffer length.stop
  let format ← Checked.readAt Layout.word16 buffer revision.stop
  let certificateType ← Checked.readAt Guid.layout buffer format.stop
  return ⟨⟨monotonicCount.value, length.value, revision.value, format.value,
    certificateType.value⟩, certificateType.stop⟩

theorem Header.checkedRead_eq {buffer : Bytes} (fits : buffer.length < UInt64.size) :
    checkedRead buffer = Checked.readAt layout buffer 0 := by
  rw [layout, Checked.readAt_equivalent]
  simp (disch := decide) only [Checked.readAt_pair fits, bind_assoc, pure_bind]
  rfl

/-- The sum and the difference in front of the certificate data are tried, since the
declared length may be any word. -/
def checkedDecode (buffer : Bytes) : Checked AuthenticatedImage := do
  let reading ← Header.checkedRead buffer
  let header := reading.value
  if header.revision ≠ supportedRevision ∨ header.format ≠ guidFormat then
    Checked.refuse .foreignCertificateFormat
  else if header.certificateType ≠ rsa2048Sha256Type then
    Checked.refuse .foreignCertificateType
  else
    match (Checked.subtract? header.length.toNat lengthOverhead).bind (Checked.add? headerSize) with
    | none => Checked.refuse .certificateCutShort
    | some dataStop =>
        if dataStop > buffer.length then
          Checked.refuse .certificateCutShort
        else
          let data ← Checked.slice buffer headerSize dataStop
          let certificate ← Certificate.checkedDecode data
          if data.length ≠ Certificate.size then
            Checked.refuse (.sizeMismatch Certificate.size data.length)
          else
            let payload ← Checked.slice buffer dataStop buffer.length
            return ⟨header.monotonicCount, certificate, payload⟩

theorem checkedDecode_eq {buffer : Bytes} (fits : buffer.length < UInt64.size) :
    checkedDecode buffer = Checked.ofLogged (decode buffer) := by
  rw [checkedDecode, Header.checkedRead_eq fits, decode]
  apply Checked.readAt_bind_eq fits (by decide)
  intro header headerInside
  rw [Nat.zero_add, width_headerLayout] at headerInside ⊢
  have declaredFits := header.length.toNat_lt
  dsimp only
  by_cases foreignFormat : header.revision ≠ supportedRevision ∨ header.format ≠ guidFormat
  · rw [if_pos foreignFormat, if_pos foreignFormat, Checked.ofLogged_reject]
  rw [if_neg foreignFormat, if_neg foreignFormat]
  by_cases foreignType : header.certificateType ≠ rsa2048Sha256Type
  · rw [if_pos foreignType, if_pos foreignType, Checked.ofLogged_reject]
  rw [if_neg foreignType, if_neg foreignType]
  by_cases overheadCut : header.length.toNat < lengthOverhead
  · rw [if_pos overheadCut, Checked.subtract?_of_lt overheadCut]
    rfl
  have dataStop : (Checked.subtract? header.length.toNat lengthOverhead).bind
      (Checked.add? headerSize) = some (headerSize + (header.length.toNat - lengthOverhead)) := by
    rw [Checked.subtract?_of_le (Nat.not_lt.mp overheadCut), Option.bind_some]
    apply Checked.add?_of_lt
    change 32 + (header.length.toNat - 24) < 2 ^ 64
    omega
  rw [if_neg overheadCut, dataStop]
  dsimp only
  generalize header.length.toNat - lengthOverhead = dataSize
  by_cases dataCut : headerSize + dataSize > buffer.length
  · rw [if_pos dataCut, if_pos dataCut, Checked.ofLogged_reject]
  have dataSlice : Checked.slice buffer headerSize (headerSize + dataSize) =
      pure ((buffer.drop headerSize).take dataSize) := by
    rw [Checked.slice_of_le (Nat.le_add_right _ _) (Nat.not_lt.mp dataCut),
      List.extract_eq_take_drop, Nat.add_sub_cancel_left]
  have payloadSlice : Checked.slice buffer (headerSize + dataSize) buffer.length =
      pure ((buffer.drop headerSize).drop dataSize) := by
    rw [Checked.slice_to_end (Nat.not_lt.mp dataCut), List.drop_drop]
  have dataLength : ((buffer.drop headerSize).take dataSize).length = dataSize :=
    List.length_take_of_le (by rw [List.length_drop]; omega)
  rw [if_neg dataCut, if_neg dataCut, dataSlice, pure_bind,
    Certificate.checkedDecode_eq (by rw [dataLength]; omega), dataLength, payloadSlice]
  apply Checked.ofLogged_bind
  intro certificate _
  split
  · rw [Checked.ofLogged_refuse]
  · rw [pure_bind, Checked.ofLogged_pure]

end AuthenticatedImage

end FirmwareCapsule
