import FirmwareCapsule.Proofs.Safety.Faults
import FirmwareCapsule.Proofs.Safety.Image
import FirmwareCapsule.Proofs.Safety.Management

namespace FirmwareCapsule

/-! Decoding is safe: with checked operations every decoder ends as it does on byte
strings, whatever the bytes are, and what is refused is put down to the bytes. -/

namespace Envelope

/-! ## Envelopes -/

def Header.checkedRead (buffer : Bytes) : Checked (Checked.Reading Header) := do
  let capsuleGuid ← Checked.readAt Guid.layout buffer 0
  let headerSize ← Checked.readAt Layout.word32 buffer capsuleGuid.stop
  let flags ← Checked.readAt Layout.word32 buffer headerSize.stop
  let imageSize ← Checked.readAt Layout.word32 buffer flags.stop
  return ⟨⟨capsuleGuid.value, headerSize.value, flags.value, imageSize.value⟩, imageSize.stop⟩

theorem Header.checkedRead_eq {buffer : Bytes} (fits : buffer.length < UInt64.size) :
    checkedRead buffer = Checked.readAt layout buffer 0 := by
  rw [layout, Checked.readAt_equivalent]
  simp (disch := decide) only [Checked.readAt_pair fits, bind_assoc, pure_bind]
  rfl

def checkedDecode (buffer : Bytes) : Checked Envelope := do
  if buffer.length < fieldsSize then
    Checked.refuse .headerCutShort
  else
    let reading ← Header.checkedRead buffer
    let header := reading.value
    let headerSize := header.headerSize.toNat
    if headerSize < fieldsSize then
      Checked.refuse .malformedCapsule
    else if buffer.length < headerSize then
      Checked.refuse .headerCutShort
    else if header.imageSize.toNat ≠ buffer.length then
      Checked.refuse (.sizeMismatch header.imageSize.toNat buffer.length)
    else
      let _ ← Checked.subtract buffer.length headerSize
      let payload ← Checked.slice buffer headerSize buffer.length
      return ofHeader header payload

theorem checkedDecode_eq {buffer : Bytes} (fits : buffer.length < UInt64.size) :
    checkedDecode buffer = Checked.ofLogged (decode buffer) := by
  rw [checkedDecode]
  split
  · rename_i short
    rw [Checked.ofLogged_of_error (outcome_decode_of_length_lt short)]
  rename_i long
  rw [Header.checkedRead_eq fits, decode]
  rcases Checked.readAt_cases Header.layout 0 fits (by decide) with
    ⟨short, _, _⟩ | ⟨_, header, found, taken⟩
  · rw [Nat.zero_add] at short
    exact absurd short long
  rw [List.drop_zero] at taken
  rw [found, pure_bind, taken]
  dsimp only
  split
  · rw [Checked.ofLogged_reject]
  split
  · rw [Checked.ofLogged_reject]
  rename_i headerInside
  split
  · rw [Checked.ofLogged_reject]
  rw [Checked.subtract_of_le (Nat.not_lt.mp headerInside), pure_bind,
    Checked.slice_to_end (Nat.not_lt.mp headerInside), pure_bind]
  split
  · rw [Checked.ofLogged_warn_bind, Checked.ofLogged_debug_bind, Checked.ofLogged_pure]
  · rw [Checked.ofLogged_debug_bind, Checked.ofLogged_pure]

end Envelope

namespace Layers

/-! ## All layers -/

def checkedDecode (buffer : Bytes) : Checked Layers := do
  let envelope ← Envelope.checkedDecode buffer
  let management ← Management.Capsule.checkedDecode envelope.payload
  match management.items[0]? with
  | none => Checked.refuse .noSuchImage
  | some item =>
      let image ← AuthenticatedImage.checkedDecode item.payload
      return ⟨envelope, management, image⟩

/-- Each layer is shorter than the one around it, so that all their sizes have 64 bits. -/
theorem checkedDecode_eq {buffer : Bytes} (fits : buffer.length < UInt64.size) :
    checkedDecode buffer = Checked.ofLogged (decode buffer) := by
  rw [checkedDecode, Envelope.checkedDecode_eq fits, Checked.ofLogged_congr (outcome_decode buffer)]
  apply Checked.ofLogged_bind
  intro envelope opened
  have contentSize := Envelope.length_payload_of_outcome_decode opened
  have contentFits : envelope.payload.length < UInt64.size := by
    omega
  rw [decodeContent, Management.Capsule.checkedDecode_eq contentFits]
  apply Checked.ofLogged_bind
  intro management managed
  rw [Management.Capsule.item]
  cases first : management.items[0]? with
  | none => rfl
  | some item =>
      have wellFormed := Management.Capsule.wellFormed_of_outcome_decode managed item
        (List.mem_of_getElem? first)
      have imageFits : item.payload.length < UInt64.size :=
        Nat.lt_trans wellFormed.payload (by decide)
      dsimp only
      rw [pure_bind, AuthenticatedImage.checkedDecode_eq imageFits]
      apply Checked.ofLogged_bind
      intro image _
      rfl

/-- No decoder meets a trap on a buffer: each ends with checked operations as it does on byte
strings. A buffer from which not all layers are read is either damaged or foreign, so a
missing first image and a key of a wrong size are never reported. -/
structure IsSafe (buffer : Bytes) : Prop where
  certificate : (Certificate.checkedDecode buffer).run = .ok (Certificate.decode buffer).outcome
  image : (AuthenticatedImage.checkedDecode buffer).run =
    .ok (AuthenticatedImage.decode buffer).outcome
  item : (Management.Item.checkedDecode buffer).run = .ok (Management.Item.decode buffer).outcome
  management : (Management.Capsule.checkedDecode buffer).run =
    .ok (Management.Capsule.decode buffer).outcome
  envelope : (Envelope.checkedDecode buffer).run = .ok (Envelope.decode buffer).outcome
  layers : (checkedDecode buffer).run = .ok (decode buffer).outcome
  refused : ∀ fault, (decode buffer).outcome = .error fault →
    (fault.IsCorruption ∧ fault.status = .volumeCorrupted) ∨
    (fault.IsForeign ∧ fault.status = .unsupported)

theorem isSafe {buffer : Bytes} (fits : buffer.length < UInt64.size) : IsSafe buffer where
  certificate := congrArg ExceptT.run (Certificate.checkedDecode_eq fits)
  image := congrArg ExceptT.run (AuthenticatedImage.checkedDecode_eq fits)
  item := congrArg ExceptT.run (Management.Item.checkedDecode_eq fits)
  management := congrArg ExceptT.run (Management.Capsule.checkedDecode_eq fits)
  envelope := congrArg ExceptT.run (Envelope.checkedDecode_eq fits)
  layers := congrArg ExceptT.run (checkedDecode_eq fits)
  refused := by
    intro fault refused
    rw [fault.isCorruption_iff, fault.isForeign_iff, and_self, and_self]
    simpa using reports_decode buffer fault refused

theorem isSafe_with_large_sizes :
    let fields : Management.Item.Fields := ⟨.zero, 1, .zero 3, 0xFFFFFFFF, 0xFFFFFFFF⟩
    let item := Management.Item.header 3 fields 0 0
    let content : Bytes := [1, 0, 0, 0, 0, 0, 1, 0, 16, 0, 0, 0, 0, 0, 0, 0] ++ item
    let buffer := (Envelope.ofPayload Envelope.managementGuid content).toBytes
    IsSafe buffer ∧ (checkedDecode buffer).run = .ok (.error (.sizeMismatch 8589934638 48)) := by
  intro fields item content buffer
  have safe : IsSafe buffer := isSafe (by decide)
  have opened : (Envelope.decode buffer).outcome =
      .ok (Envelope.ofPayload Envelope.managementGuid content) :=
    Envelope.outcome_decode_toBytes (by decide) (by decide)
  have refused : (Management.Item.decode (item ++ [])).outcome =
      .error (.sizeMismatch 8589934638 48) := by
    have indexed : ¬ fields.index < 1 := by decide
    have large : fields.imageSize.toNat + fields.vendorCodeSize.toNat ≠ ([] : Bytes).length := by
      decide
    have declared : Management.Item.headerSize 3 + fields.imageSize.toNat +
        fields.vendorCodeSize.toNat = 8589934638 := by
      decide
    rw [Management.Item.outcome_decode_header_append [] (by decide) (fun _ => rfl) (fun _ => rfl),
      if_neg indexed, if_pos large, declared]
    rfl
  let read : Management.Capsule := ⟨0, [16], [.ofPayload .zero [] 0]⟩
  have listFits : read.ListFits content.length :=
    ⟨by decide, by decide, rfl, by decide,
      List.forall_mem_cons.mpr ⟨by decide, List.forall_mem_nil _⟩⟩
  have front : read.front = [1, 0, 0, 0, 0, 0, 1, 0, 16, 0, 0, 0, 0, 0, 0, 0] := by decide
  have shape : content = read.front ++ item := by rw [front]
  have part : read.itemParts content = [] ++ [item ++ []] := rfl
  have before : ([] : List Bytes).map (fun part => (Management.Item.decode part).outcome) =
      ([] : List Management.Item).map .ok := rfl
  refine ⟨safe, ?_⟩
  rw [safe.layers, outcome_decode, Traced.outcome_bind_of_ok opened, decodeContent]
  apply congrArg Except.ok
  apply Traced.outcome_bind_of_error
  change (Management.Capsule.decode content).outcome = _
  rw [Management.Capsule.outcome_decode_of_listFits listFits shape, part,
    Traced.outcome_mapM_concat_of_error before refused]
  rfl

end Layers

end FirmwareCapsule
