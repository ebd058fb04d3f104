import FirmwareCapsule.Proofs.Management.CapsuleForm
import FirmwareCapsule.Proofs.Safety.Checked

namespace FirmwareCapsule.Management

/-! Management capsules and their items, read with checked operations. -/

namespace Item

/-! ## Items -/

def checkedOptionalWord (present : Bool) (bytes : Bytes) (position : Nat) :
    Checked (Checked.Reading UInt64) :=
  if present then Checked.readAt Layout.word64 bytes position else pure ⟨0, position⟩

def checkedParts (bytes : Bytes) (stop : Nat) (imageSize vendorCodeSize : UInt32) :
    Checked (Bytes × Bytes) := do
  let imageStop ← Checked.add stop imageSize.toNat
  let declared ← Checked.add imageStop vendorCodeSize.toNat
  if declared ≠ bytes.length then
    Checked.refuse (.sizeMismatch declared bytes.length)
  else
    let payloadStop ← Checked.add stop imageSize.toNat
    let payload ← Checked.slice bytes stop payloadStop
    let vendorCode ← Checked.slice bytes payloadStop bytes.length
    return (payload, vendorCode)

def checkedBody (bytes : Bytes) (version : UInt32) (imageType : Guid) (index : UInt8)
    (imageSize vendorCodeSize : UInt32) (position : Nat) : Checked Item := do
  let hardwareInstance ← checkedOptionalWord (2 ≤ version) bytes position
  let capsuleSupport ← checkedOptionalWord (3 ≤ version) bytes hardwareInstance.stop
  if index < 1 then
    Checked.refuse .malformedCapsule
  else
    let parts ← checkedParts bytes capsuleSupport.stop imageSize vendorCodeSize
    return {
      version
      imageType
      index
      hardwareInstance := hardwareInstance.value
      capsuleSupport := capsuleSupport.value
      payload := parts.1
      vendorCode := parts.2 }

def checkedDecode (bytes : Bytes) : Checked Item := do
  let version ← Checked.readAt Layout.word32 bytes 0
  if version.value < 1 then
    Checked.refuse .malformedCapsule
  else
    let imageType ← Checked.readAt Guid.layout bytes version.stop
    let index ← Checked.readAt Layout.byte bytes imageType.stop
    let reservedStop ← Checked.add index.stop 3
    let imageSize ← Checked.readAt Layout.word32 bytes reservedStop
    let vendorCodeSize ← Checked.readAt Layout.word32 bytes imageSize.stop
    checkedBody bytes version.value imageType.value index.value imageSize.value
      vendorCodeSize.value vendorCodeSize.stop

variable {bytes : Bytes} {α : Type}

theorem checkedFields_eq {position : Nat} (fits : bytes.length < UInt64.size)
    (inRange : position + 20 < UInt64.size)
    (next : Guid → UInt8 → UInt32 → UInt32 → Nat → Checked α) :
    (do
      let imageType ← Checked.readAt Guid.layout bytes position
      let index ← Checked.readAt Layout.byte bytes imageType.stop
      let reservedStop ← Checked.add index.stop 3
      let imageSize ← Checked.readAt Layout.word32 bytes reservedStop
      let vendorCodeSize ← Checked.readAt Layout.word32 bytes imageSize.stop
      next imageType.value index.value imageSize.value vendorCodeSize.value
        vendorCodeSize.stop) =
    (do
      let fields ← Checked.readAt Fields.layout bytes position
      next fields.value.imageType fields.value.index fields.value.imageSize
        fields.value.vendorCodeSize fields.stop) := by
  rw [Fields.layout, Checked.readAt_equivalent]
  simp (disch := decide) only [Checked.readAt_pair fits, bind_assoc, pure_bind]
  apply Checked.readAt_bind_congr fits (by decide)
  intro imageType _
  apply Checked.readAt_bind_congr fits (by decide)
  intro index _
  exact Checked.skip_readAt fits (by decide) inRange

theorem checkedOptionalWord_bind_eq {present : Bool} {position : Nat}
    {next : Checked.Reading UInt64 → Checked α} {rest : UInt64 × Bytes → Logged α}
    (fits : bytes.length < UInt64.size) (inside : position ≤ bytes.length)
    (same : ∀ value stop, stop = position + (if present then 8 else 0) → stop ≤ bytes.length →
      next ⟨value, stop⟩ = Checked.ofLogged (rest (value, bytes.drop stop))) :
    checkedOptionalWord present bytes position >>= next =
      Checked.ofLogged (Traced.require .fieldCutShort
        (takeOptionalWord? present (bytes.drop position)) >>= rest) := by
  cases present with
  | true =>
      exact Checked.readAt_bind_eq fits (by decide) fun value long => same value _ rfl long
  | false => exact same 0 position rfl inside

theorem headerSize_eq (version : UInt32) :
    headerSize version =
      32 + (if decide (2 ≤ version) then 8 else 0) + (if decide (3 ≤ version) then 8 else 0) := by
  rw [← length_header version ⟨.zero, 0, .zero 3, 0, 0⟩ 0 0, header]
  simp only [List.length_append, Layout.length_encode, length_optionalWord, width_fieldsLayout]
  change 4 + (28 + _) = _
  omega

theorem headerSize_le (version : UInt32) : headerSize version ≤ 48 := by
  rw [headerSize_eq]
  split <;> split <;> omega

/-- Both sizes are words of 32 bits, so that their sum with a short header is a size. -/
theorem checkedParts_eq {stop : Nat} {imageSize vendorCodeSize : UInt32} (short : stop ≤ 48) :
    checkedParts bytes stop imageSize vendorCodeSize =
      if stop + imageSize.toNat + vendorCodeSize.toNat ≠ bytes.length then
        Checked.refuse
          (.sizeMismatch (stop + imageSize.toNat + vendorCodeSize.toNat) bytes.length)
      else
        pure ((bytes.drop stop).take imageSize.toNat, (bytes.drop stop).drop imageSize.toNat) := by
  have imageBound := imageSize.toNat_lt
  have vendorCodeBound := vendorCodeSize.toNat_lt
  have sizes : UInt64.size = 2 ^ 64 := rfl
  have imageStop : Checked.add stop imageSize.toNat = pure (stop + imageSize.toNat) :=
    Checked.add_of_lt (by omega)
  have declared : Checked.add (stop + imageSize.toNat) vendorCodeSize.toNat =
      pure (stop + imageSize.toNat + vendorCodeSize.toNat) :=
    Checked.add_of_lt (by omega)
  rw [checkedParts, imageStop, pure_bind, declared, pure_bind]
  split
  · rfl
  rename_i whole
  rw [Decidable.not_not] at whole
  have imageInside : stop + imageSize.toNat ≤ bytes.length := by
    omega
  rw [pure_bind, Checked.slice_of_le (Nat.le_add_right _ _) imageInside, pure_bind,
    Checked.slice_to_end imageInside, pure_bind, List.extract_eq_take_drop,
    Nat.add_sub_cancel_left, List.drop_drop]

theorem checkedDecode_eq (fits : bytes.length < UInt64.size) :
    checkedDecode bytes = Checked.ofLogged (decode bytes) := by
  rw [checkedDecode, decode]
  apply Checked.readAt_bind_eq fits (by decide)
  intro version _
  dsimp only
  split
  · rw [Checked.ofLogged_reject]
  rw [checkedFields_eq fits (by decide)]
  apply Checked.readAt_bind_eq fits (by decide)
  intro fields inside
  rw [checkedBody]
  apply checkedOptionalWord_bind_eq fits inside
  intro hardwareInstance instanceStop instanceStop_eq instanceInside
  apply checkedOptionalWord_bind_eq fits instanceInside
  intro capsuleSupport stop stop_eq stopInside
  have header : stop = headerSize version := by
    rw [stop_eq, instanceStop_eq, headerSize_eq]
    rfl
  subst header
  dsimp only
  split
  · rw [Checked.ofLogged_reject]
  rw [checkedParts_eq (headerSize_le version)]
  split
  · rw [Checked.refuse_bind, Checked.ofLogged_reject]
  · rw [pure_bind, Checked.ofLogged_pure]

end Item

namespace Capsule

/-! ## Offset lists -/

def checkedOffsets (buffer : Bytes) (taken : List UInt64) :
    (count position : Nat) → Checked (Checked.Reading (List UInt64))
  | 0, position => pure ⟨taken.reverse, position⟩
  | count + 1, position => do
      let offset ← Checked.readAt Layout.word64 buffer position
      checkedOffsets buffer (offset.value :: taken) count offset.stop

variable {buffer : Bytes} {α : Type}

theorem checkedOffsets_bind_eq {taken : List UInt64} {count position : Nat}
    {next : Checked.Reading (List UInt64) → Checked α} {rest : List UInt64 × Bytes → Logged α}
    (fits : buffer.length < UInt64.size) (inside : position ≤ buffer.length)
    (same : ∀ offsets behind, offsets.length = taken.length + count →
      next ⟨offsets, position + 8 * count⟩ = Checked.ofLogged (rest (offsets, behind))) :
    checkedOffsets buffer taken count position >>= next =
      Checked.ofLogged (Traced.require .fieldCutShort
        (takeOffsetsAfter? taken count (buffer.drop position)) >>= rest) := by
  induction count generalizing taken position with
  | zero => exact same taken.reverse _ List.length_reverse
  | succ count induction =>
      rw [checkedOffsets, bind_assoc, takeOffsetsAfter?]
      rcases Checked.readAt_cases Layout.word64 position fits (by decide) with
        ⟨_, refused, cutShort⟩ | ⟨long, offset, found, taken_eq⟩
      · rw [refused, cutShort]
        rfl
      · rw [found, pure_bind, taken_eq]
        apply induction long
        intro offsets behind length
        have stop : position + Layout.word64.width + 8 * count = position + 8 * (count + 1) := by
          change position + 8 + 8 * count = _
          omega
        rw [stop]
        apply same
        rw [length, List.length_cons]
        omega

/-! ## Items -/

def checkedItems (buffer : Bytes) (offsets : List UInt64) :
    (count index : Nat) → Checked (List Item)
  | 0, _ => pure []
  | count + 1, index => do
      let start ← Checked.entry offsets index
      let next ← Checked.add index 1
      let stop := (offsets[next]?.map UInt64.toNat).getD buffer.length
      let part ← Checked.slice buffer start.toNat stop
      let item ← Item.checkedDecode part
      let later ← checkedItems buffer offsets count next
      return item :: later

theorem partsAt_drop {offsets : List UInt64} {index : Nat} {start : UInt64}
    (here : offsets[index]? = some start) :
    partsAt buffer (offsets.drop index) =
      buffer.extract start.toNat
        ((offsets[index + 1]?.map UInt64.toNat).getD buffer.length) ::
      partsAt buffer (offsets.drop (index + 1)) := by
  rcases List.getElem?_eq_some_iff.mp here with ⟨present, rfl⟩
  have next : offsets[index + 1]? = (offsets.drop (index + 1))[0]? := by
    rw [List.getElem?_drop]
  rw [List.drop_eq_getElem_cons present, next, List.extract_eq_take_drop]
  cases offsets.drop (index + 1) with
  | nil =>
      change [_] = [(buffer.drop _).take (buffer.length - _)]
      rw [← List.length_drop, List.take_length]
  | cons following later => rfl

/-- Offsets that ascend inside the buffer are the bounds of slices. -/
theorem bounds_of_ascending {offsets : List UInt64} {index : Nat}
    (ascending : offsets.Pairwise (· < ·))
    (inside : ∀ offset ∈ offsets, offset.toNat < buffer.length)
    (present : index < offsets.length) :
    offsets[index].toNat ≤ (offsets[index + 1]?.map UInt64.toNat).getD buffer.length ∧
      (offsets[index + 1]?.map UInt64.toNat).getD buffer.length ≤ buffer.length := by
  by_cases more : index + 1 < offsets.length
  · have behind : offsets[index] < offsets[index + 1] :=
      List.pairwise_iff_getElem.mp ascending _ _ _ _ (Nat.lt_succ_self index)
    rw [List.getElem?_eq_getElem more]
    exact ⟨Nat.le_of_lt (UInt64.lt_iff_toNat_lt.mp behind),
      Nat.le_of_lt (inside _ (List.getElem_mem more))⟩
  · rw [List.getElem?_eq_none (Nat.not_lt.mp more)]
    exact ⟨Nat.le_of_lt (inside _ (List.getElem_mem present)), Nat.le_refl _⟩

theorem checkedItems_eq {offsets : List UInt64} {count index : Nat}
    (fits : buffer.length < UInt64.size) (listFits : offsets.length < UInt64.size)
    (ascending : offsets.Pairwise (· < ·))
    (inside : ∀ offset ∈ offsets, offset.toNat < buffer.length)
    (last : index + count = offsets.length) :
    checkedItems buffer offsets count index =
      Checked.ofLogged ((partsAt buffer (offsets.drop index)).mapM Item.decode) := by
  induction count generalizing index with
  | zero =>
      rw [List.drop_eq_nil_of_le (by omega : offsets.length ≤ index)]
      rfl
  | succ count induction =>
      have present : index < offsets.length := by omega
      have here : offsets[index]? = some offsets[index] := List.getElem?_eq_getElem present
      have entry : Checked.entry offsets index = pure offsets[index] := by
        rw [Checked.entry, here]
        rfl
      have bounds := bounds_of_ascending ascending inside present
      let stop := (offsets[index + 1]?.map UInt64.toNat).getD buffer.length
      have partFits : (buffer.extract offsets[index].toNat stop).length < UInt64.size := by
        rw [List.extract_eq_take_drop, List.length_take, List.length_drop]
        omega
      rw [checkedItems, entry, pure_bind, Checked.add_of_lt (by omega), pure_bind]
      change (Checked.slice buffer offsets[index].toNat stop >>= _) = _
      rw [Checked.slice_of_le bounds.1 bounds.2, pure_bind, Item.checkedDecode_eq partFits,
        induction (by omega), partsAt_drop here, List.mapM_cons]
      apply Checked.ofLogged_bind
      intro item _
      apply Checked.ofLogged_bind
      intro later _
      rfl

/-! ## Capsules -/

def Header.checkedRead (buffer : Bytes) : Checked (Checked.Reading Header) := do
  let version ← Checked.readAt Layout.word32 buffer 0
  let driverCount ← Checked.readAt Layout.word16 buffer version.stop
  let itemCount ← Checked.readAt Layout.word16 buffer driverCount.stop
  return ⟨⟨version.value, driverCount.value, itemCount.value⟩, itemCount.stop⟩

theorem Header.checkedRead_eq (fits : buffer.length < UInt64.size) :
    checkedRead buffer = Checked.readAt layout buffer 0 := by
  rw [layout, Checked.readAt_equivalent]
  simp (disch := decide) only [Checked.readAt_pair fits, bind_assoc, pure_bind]
  rfl

/-- Offsets are compared before they are used, which needs no operation that could trap. -/
def checkedDecode (buffer : Bytes) : Checked Capsule := do
  let header ← Header.checkedRead buffer
  if header.value.version ≠ headerVersion then
    Checked.refuse .malformedCapsule
  else if header.value.itemCount = 0 then
    Checked.refuse .malformedCapsule
  else
    let drivers := header.value.driverCount.toNat
    let count ← Checked.add drivers header.value.itemCount.toNat
    let offsets ← checkedOffsets buffer [] count header.stop
    match misplaced? buffer.length offsets.stop offsets.value with
    | some _ => Checked.refuse .malformedCapsule
    | none =>
        let items ← checkedItems buffer offsets.value (count - drivers) drivers
        return ⟨header.value.driverCount, offsets.value, items⟩

theorem checkedDecode_eq (fits : buffer.length < UInt64.size) :
    checkedDecode buffer = Checked.ofLogged (decode buffer) := by
  rw [checkedDecode, Header.checkedRead_eq fits, decode]
  apply Checked.readAt_bind_eq fits (by decide)
  intro header headerInside
  have driverBound := header.driverCount.toNat_lt
  have itemBound := header.itemCount.toNat_lt
  have sizes : UInt64.size = 2 ^ 64 := rfl
  have count : Checked.add header.driverCount.toNat header.itemCount.toNat =
      pure (header.driverCount.toNat + header.itemCount.toNat) :=
    Checked.add_of_lt (by omega)
  dsimp only
  split
  · rw [Checked.ofLogged_reject]
  split
  · rw [Checked.ofLogged_reject]
  rw [count, pure_bind]
  apply checkedOffsets_bind_eq fits headerInside
  intro offsets behind length
  have listEnd_eq : 0 + Header.layout.width +
      8 * (header.driverCount.toNat + header.itemCount.toNat) =
        listEnd (header.driverCount.toNat + header.itemCount.toNat) := by
    rw [Nat.zero_add]
    rfl
  dsimp only
  rw [listEnd_eq]
  cases misplaced : misplaced? buffer.length
    (listEnd (header.driverCount.toNat + header.itemCount.toNat)) offsets with
  | some offset => rfl
  | none =>
      rcases misplaced?_eq_none_iff.mp misplaced with ⟨ascending, placed⟩
      have length_eq : offsets.length =
          header.driverCount.toNat + header.itemCount.toNat := by
        rw [length, List.length_nil, Nat.zero_add]
      have items : checkedItems buffer offsets header.itemCount.toNat header.driverCount.toNat =
          Checked.ofLogged
            ((partsAt buffer (offsets.drop header.driverCount.toNat)).mapM Item.decode) :=
        checkedItems_eq fits (by omega) ascending (fun offset member => (placed offset member).2)
          length_eq.symm
      dsimp only
      rw [Nat.add_sub_cancel_left, items]
      apply Checked.ofLogged_bind
      intro items _
      rw [Checked.ofLogged_debug_bind, Checked.ofLogged_pure]

end Capsule

end FirmwareCapsule.Management
