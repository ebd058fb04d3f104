import FirmwareCapsule.Proofs.AuthenticatedImage.Refusals
import FirmwareCapsule.Proofs.Layers.Form
import FirmwareCapsule.Proofs.Management.Format

namespace FirmwareCapsule

/-! Where the parts of a capsule lie. Each layer says where the next one starts, counted
from its own start, so the place of the image is a sum: the header of the envelope, the
offset of the first item behind the drivers, and the header of that item. -/

/-! ## Layer by layer -/

namespace Management

theorem Item.exists_header_of_form (item : Item) (reserved : Block 3) :
    ∃ header : Bytes, header.length = headerSize item.version ∧
      item.form reserved = header ++ (item.payload ++ item.vendorCode) :=
  ⟨_, length_header _ _ _ _, item.form_eq_header_append reserved⟩

namespace Capsule

theorem endOf_le {buffer : Bytes} {capsule : Capsule}
    (accepted : (decode buffer).outcome = .ok capsule) (index : Nat) :
    capsule.endOf buffer.length index ≤ buffer.length := by
  have format := isFormat_iff.mpr accepted
  rw [endOf]
  cases next : capsule.itemOffsets[index + 1]? with
  | none => exact Nat.le_refl _
  | some offset =>
      exact Nat.le_of_lt (format.inside offset (List.mem_of_getElem? next)).2

theorem exists_front_of_first {buffer : Bytes} {capsule : Capsule} {item : Item}
    (accepted : (decode buffer).outcome = .ok capsule) (first : capsule.items[0]? = some item) :
    let stop := capsule.endOf buffer.length capsule.driverCount.toNat
    ∃ offset front, capsule.itemOffsets[capsule.driverCount.toNat]? = some offset ∧
      front.length = offset.toNat + Item.headerSize item.version ∧
      front.length + item.payload.length + item.vendorCode.length = stop ∧
      buffer = front ++ (item.payload ++ (item.vendorCode ++ buffer.drop stop)) := by
  intro stop
  rcases (isFormat_iff.mpr accepted).items 0 item first with ⟨_, offset, reserved, placed, cut⟩
  have bounded : stop ≤ buffer.length := endOf_le accepted _
  have headerSize := Item.headerSize_ge item.version
  have size := congrArg List.length cut
  change (buffer.extract offset.toNat stop).length = (item.form reserved).length at size
  rw [List.extract_eq_take_drop, List.length_take, List.length_drop, Item.length_form] at size
  have around := eq_append_of_extract (by omega : offset.toNat ≤ stop) cut
  rcases item.exists_header_of_form reserved with ⟨header, headerLength, form_eq⟩
  have frontLength : (buffer.take offset.toNat ++ header).length =
      offset.toNat + Item.headerSize item.version := by
    rw [List.length_append, List.length_take, headerLength]
    omega
  refine ⟨offset, buffer.take offset.toNat ++ header, placed, frontLength, ?_, ?_⟩
  · omega
  · rw [form_eq] at around
    simpa only [List.append_assoc] using around

end Capsule

end Management

namespace AuthenticatedImage

structure LiesAt (image : AuthenticatedImage) (buffer : Bytes) (start : Nat) : Prop where
  bytes : buffer.extract start (start + image.toBytes.length) = image.toBytes
  monotonicCount :
    littleEndianValue (buffer.extract start (start + 8)) = image.monotonicCount.toNat
  publicKey : buffer.extract (start + 48) (start + 304) = image.certificate.publicKey.bytes
  signature : buffer.extract (start + 304) (start + 560) = image.certificate.signature.bytes
  payload : buffer.extract (start + 560) (start + image.toBytes.length) = image.payload

/-- Forty bytes lie between the count and the public key: what is fixed of the header, and
the hash type. -/
theorem exists_toBytes_eq_append (image : AuthenticatedImage) :
    ∃ middle : Bytes, middle.length = 40 ∧
      image.toBytes = littleEndian 8 image.monotonicCount.toNat ++ (middle ++
        (image.certificate.publicKey.bytes ++ (image.certificate.signature.bytes ++
          image.payload))) := by
  let header := Header.ofCount image.monotonicCount
  refine ⟨littleEndian 4 header.length.toNat ++ (littleEndian 2 header.revision.toNat ++
    (littleEndian 2 header.format.toNat ++ (header.certificateType.bytes ++
      image.certificate.hashType.bytes))), by simp, ?_⟩
  simp only [toBytes, encode_headerLayout, Certificate.encode_eq, List.append_assoc]
  rfl

theorem liesAt_append (image : AuthenticatedImage) (front behind : Bytes) :
    image.LiesAt (front ++ (image.toBytes ++ behind)) front.length := by
  rcases image.exists_toBytes_eq_append with ⟨middle, middleSize, toBytes_eq⟩
  have keySize := image.certificate.publicKey.length_bytes
  have signatureSize := image.certificate.signature.length_bytes
  have size : image.toBytes.length = 560 + image.payload.length := image.length_toBytes
  have buffer_eq : front ++ (image.toBytes ++ behind) =
      front ++ (littleEndian 8 image.monotonicCount.toNat ++ (middle ++
        (image.certificate.publicKey.bytes ++ (image.certificate.signature.bytes ++
          (image.payload ++ behind))))) := by
    simp only [toBytes_eq, List.append_assoc]
  have countSize : (littleEndian 8 image.monotonicCount.toNat).length = 8 :=
    length_littleEndian 8 _
  refine ⟨extract_middle rfl rfl, ?_, ?_, ?_, ?_⟩
  · rw [buffer_eq, extract_middle rfl (by rw [countSize]), littleEndianValue_littleEndian]
    exact Nat.mod_eq_of_lt image.monotonicCount.toNat_lt
  · rw [buffer_eq, ← List.append_assoc, ← List.append_assoc]
    exact extract_middle (by simp only [List.length_append]; omega) (by omega)
  · rw [buffer_eq, ← List.append_assoc, ← List.append_assoc, ← List.append_assoc]
    exact extract_middle (by simp only [List.length_append]; omega) (by omega)
  · rw [buffer_eq, ← List.append_assoc, ← List.append_assoc, ← List.append_assoc,
      ← List.append_assoc]
    exact extract_middle (by simp only [List.length_append]; omega) (by omega)

end AuthenticatedImage

namespace Layers

/-! ## All layers -/

structure LieIn (layers : Layers) (buffer : Bytes) (item : Management.Item) (start stop : Nat) :
    Prop where
  image : layers.image.encode.outcome = .ok item.payload
  encoded : buffer.extract start (start + item.payload.length) = item.payload
  monotonicCount :
    littleEndianValue (buffer.extract start (start + 8)) = layers.image.monotonicCount.toNat
  publicKey :
    buffer.extract (start + 48) (start + 304) = layers.image.certificate.publicKey.bytes
  signature :
    buffer.extract (start + 304) (start + 560) = layers.image.certificate.signature.bytes
  payload : buffer.extract (start + 560) (start + item.payload.length) = layers.payload
  vendorCode : buffer.extract (start + item.payload.length) stop = item.vendorCode
  ends : start + item.payload.length + item.vendorCode.length = stop
  inside : stop ≤ buffer.length

theorem lieIn_append {layers : Layers} {item : Management.Item}
    (written : item.payload = layers.image.toBytes) (front rest : Bytes) :
    layers.LieIn (front ++ (item.payload ++ (item.vendorCode ++ rest))) item front.length
      (front.length + item.payload.length + item.vendorCode.length) := by
  have lies := layers.image.liesAt_append front (item.vendorCode ++ rest)
  rw [← written] at lies
  exact {
    image := by rw [AuthenticatedImage.outcome_encode, written]
    encoded := extract_middle rfl rfl
    monotonicCount := lies.monotonicCount
    publicKey := lies.publicKey
    signature := lies.signature
    payload := by
      have payload := lies.payload
      rw [← written] at payload
      exact payload
    vendorCode := by
      rw [← List.append_assoc]
      exact extract_middle List.length_append rfl
    ends := rfl
    inside := by
      simp only [List.length_append]
      omega }

/-- The image of every capsule that is read lies behind the headers that are on the way to
it, whatever else the capsule holds. -/
theorem lieIn_of_outcome_decode {buffer : Bytes} {layers : Layers}
    (accepted : (decode buffer).outcome = .ok layers) :
    ∃ offset item,
      layers.management.itemOffsets[layers.management.driverCount.toNat]? = some offset ∧
      layers.management.items[0]? = some item ∧
      layers.LieIn buffer item
        (layers.envelope.headerSize.toNat + offset.toNat + Management.Item.headerSize item.version)
        ((layers.management.itemOffsets[layers.management.driverCount.toNat + 1]?.map fun next =>
          layers.envelope.headerSize.toNat + next.toNat).getD buffer.length) := by
  rcases outcome_decode_eq_ok_iff.mp accepted with ⟨opened, managed, item, first, authenticated⟩
  rcases Envelope.drop_of_outcome_decode opened with ⟨headerInside, content⟩
  rcases Management.Capsule.exists_front_of_first managed first with
    ⟨offset, front, placed, frontSize, ends, content_eq⟩
  have written := AuthenticatedImage.eq_toBytes_of_outcome_decode authenticated
  let header := buffer.take layers.envelope.headerSize.toNat
  have headerSize : header.length = layers.envelope.headerSize.toNat :=
    List.length_take_of_le headerInside
  have start_eq : layers.envelope.headerSize.toNat + offset.toNat +
      Management.Item.headerSize item.version = (header ++ front).length := by
    rw [List.length_append, headerSize, frontSize, Nat.add_assoc]
  have stop_eq : (layers.management.itemOffsets[layers.management.driverCount.toNat + 1]?.map
      fun next => layers.envelope.headerSize.toNat + next.toNat).getD buffer.length =
      (header ++ front).length + item.payload.length + item.vendorCode.length := by
    have size := Envelope.length_payload_of_outcome_decode opened
    rw [List.length_append, headerSize, Nat.add_assoc, Nat.add_assoc, ← Nat.add_assoc front.length,
      ends, Management.Capsule.endOf]
    cases layers.management.itemOffsets[layers.management.driverCount.toNat + 1]? with
    | none =>
        change buffer.length = layers.envelope.headerSize.toNat + layers.envelope.payload.length
        omega
    | some next => rfl
  have buffer_eq : buffer = (header ++ front) ++ (item.payload ++ (item.vendorCode ++
      layers.envelope.payload.drop (layers.management.endOf layers.envelope.payload.length
        layers.management.driverCount.toNat))) := by
    rw [List.append_assoc, ← content_eq, ← content, List.take_append_drop]
  refine ⟨offset, item, placed, first, ?_⟩
  rw [start_eq, stop_eq]
  have lies := lieIn_append written (header ++ front) (layers.envelope.payload.drop
    (layers.management.endOf layers.envelope.payload.length layers.management.driverCount.toNat))
  rwa [← buffer_eq] at lies

/-- A long header, a driver, and an item of version 3 with vendor code in front of another. -/
theorem lieIn_behind_driver :
    let image : AuthenticatedImage := ⟨5, ⟨.zero, .zero 256, .zero 256⟩, [7]⟩
    let item : Management.Item := ⟨3, .zero, 1, 0, 9, image.toBytes, [1, 2]⟩
    let other : Management.Item := ⟨1, .zero, 1, 0, 0, [], []⟩
    let management : Management.Capsule := ⟨1, [32, 34, 645], [item, other]⟩
    let envelope : Envelope :=
      { Envelope.ofPayload Envelope.managementGuid
          (management.front ++ ([6, 6] ++ (item.toBytes ++ other.toBytes))) with
        headerSize := 36 }
    let layers : Layers := ⟨envelope, management, image⟩
    (decode envelope.toBytes).outcome = .ok layers ∧
      layers.LieIn envelope.toBytes item 118 681 := by
  intro image item other management envelope layers
  have itemFormed : item.WellFormed :=
    ⟨⟨by rw [image.length_toBytes]; decide, by decide⟩, by decide, by decide,
      fun _ => rfl, fun early => absurd early (by decide)⟩
  have otherFormed : other.WellFormed :=
    ⟨⟨by decide, by decide⟩, by decide, by decide, fun _ => rfl, fun _ => rfl⟩
  have itemSize : item.toBytes.length = 611 := by
    rw [Management.Item.toBytes_eq_form, Management.Item.length_form, image.length_toBytes]
    rfl
  have frontSize : (management.front ++ [6, 6]).length = 34 := by
    rw [List.length_append, Management.Capsule.length_front]
    rfl
  have content_eq : envelope.payload =
      (management.front ++ [6, 6]) ++ [item.toBytes, other.toBytes].flatten := by
    simp [envelope, Envelope.ofPayload]
  have size : envelope.payload.length = 677 := by
    rw [content_eq, List.length_append, frontSize, List.flatten_cons, List.length_append, itemSize]
    rfl
  have parts : management.itemParts envelope.payload = [item.toBytes, other.toBytes] := by
    rw [content_eq]
    apply Management.Capsule.partsAt_append_flatten
    rw [frontSize]
    change [34, 645] = [34, 34 + item.toBytes.length]
    rw [itemSize]
  have managed : (Management.Capsule.decode envelope.payload).outcome = .ok management := by
    refine Management.Capsule.outcome_decode_eq_ok_iff.mpr
      ⟨⟨by decide, by decide, rfl, by decide, ?_⟩, ⟨_, rfl⟩, ?_⟩
    · rw [size]
      exact List.forall_mem_cons.mpr ⟨by decide, List.forall_mem_cons.mpr ⟨by decide,
        List.forall_mem_cons.mpr ⟨by decide, List.forall_mem_nil _⟩⟩⟩
    · rw [parts, List.map_cons, List.map_cons, Management.Item.outcome_decode_toBytes itemFormed,
        Management.Item.outcome_decode_toBytes otherFormed]
      rfl
  have fits : envelope.imageSize < UInt32.size := by
    rw [Envelope.imageSize, size]
    decide
  have accepted : (decode envelope.toBytes).outcome = .ok layers :=
    outcome_decode_eq_ok_iff.mpr ⟨Envelope.outcome_decode_toBytes (by decide) fits, managed, item,
      rfl, image.outcome_decode_toBytes⟩
  refine ⟨accepted, ?_⟩
  rcases lieIn_of_outcome_decode accepted with ⟨offset, found, placed, first, lies⟩
  cases placed
  cases first
  exact lies

end Layers

end FirmwareCapsule
