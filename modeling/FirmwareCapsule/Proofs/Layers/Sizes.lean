import FirmwareCapsule.Proofs.AuthenticatedImage.Refusals
import FirmwareCapsule.Proofs.Envelope.Rewriting
import FirmwareCapsule.Proofs.Layers.Form

namespace FirmwareCapsule

/-! Sizes that do not match. A fault of this kind names two sizes: the one that a header
declares, and the one that is there. The envelope and the items keep to that order. The
authenticated image does not: what its header declares is named as found. -/

def Logged.NamesSizes {α : Type} (operation : Logged α) (size present : Nat) : Prop :=
  ∀ declared found, operation.outcome = .error (.sizeMismatch declared found) →
    declared = size ∧ found = present ∧ declared ≠ found

theorem Traced.exists_of_outcome_mapM {event fault α β : Type} {step : α → Traced event fault β}
    {values : List α} {reason : fault} (refused : (values.mapM step).outcome = .error reason) :
    ∃ (index : Nat) (value : α), values[index]? = some value ∧
      (step value).outcome = .error reason := by
  induction values with
  | nil => cases refused
  | cons value values induction =>
      rw [List.mapM_cons] at refused
      rcases Traced.outcome_bind_eq_error_iff.mp refused with here | ⟨first, _, refused⟩
      · exact ⟨0, value, rfl, here⟩
      · rcases Traced.outcome_bind_eq_error_iff.mp refused with later | ⟨rest, _, refused⟩
        · rcases induction later with ⟨index, other, found, refused⟩
          exact ⟨index + 1, other, found, refused⟩
        · cases refused

theorem Traced.outcome_require_ne_error {event fault α : Type} {reason other : fault}
    {found : Option α} (differs : reason ≠ other) :
    (Traced.require reason found : Traced event fault α).outcome ≠ .error other := by
  cases found with
  | none => simpa using differs
  | some value => simp

/-! ## Envelopes -/

namespace Envelope

theorem outcome_decode_eq_sizeMismatch_iff {buffer : Bytes} {declared found : Nat} :
    (decode buffer).outcome = .error (.sizeMismatch declared found) ↔
      28 ≤ headerSizeIn buffer ∧ headerSizeIn buffer ≤ buffer.length ∧
        imageSizeIn buffer ≠ buffer.length ∧
        declared = imageSizeIn buffer ∧ found = buffer.length := by
  by_cases short : buffer.length < fieldsSize
  · rw [outcome_decode_of_length_lt short]
    change buffer.length < 28 at short
    constructor
    · exact nofun
    · rintro ⟨headerLong, headerInside, _⟩
      omega
  · rcases exists_header_of_length_ge (Nat.not_lt.mp short) with ⟨header, body, rfl⟩
    have length_eq : (Header.layout.encode header ++ body).length = fieldsSize + body.length := by
      rw [List.length_append, Layout.length_encode, width_headerLayout]
    rw [outcome_decode_header_append, (words_header_append header body).2.1,
      imageSizeIn_header_append, length_eq]
    change _ ↔ fieldsSize ≤ header.headerSize.toNat ∧ _
    split
    · rename_i headerShort
      exact ⟨nofun, fun described => absurd headerShort (Nat.not_lt.mpr described.1)⟩
    rename_i headerLong
    split
    · rename_i headerCut
      exact ⟨nofun, fun described => absurd headerCut (Nat.not_lt.mpr described.2.1)⟩
    rename_i headerInside
    split
    · rename_i differs
      simp only [Except.error.injEq, Fault.sizeMismatch.injEq, Nat.not_lt.mp headerLong,
        Nat.not_lt.mp headerInside, ne_eq, differs, not_false_eq_true, true_and]
      exact and_congr eq_comm eq_comm
    · rename_i same
      exact ⟨nofun, fun described => absurd described.2.2.1 same⟩

theorem namesSizes_decode (buffer : Bytes) :
    (decode buffer).NamesSizes (imageSizeIn buffer) buffer.length := by
  intro declared found refused
  rcases outcome_decode_eq_sizeMismatch_iff.mp refused with ⟨_, _, differ, rfl, rfl⟩
  exact ⟨rfl, rfl, differ⟩

end Envelope

/-! ## Items -/

namespace Management

namespace Item

def versionIn (bytes : Bytes) : UInt32 :=
  UInt32.ofNat (littleEndianValue (bytes.take 4))

def sizeIn (bytes : Bytes) : Nat :=
  headerSize (versionIn bytes) + littleEndianValue (bytes.extract 24 28) +
    littleEndianValue (bytes.extract 28 32)

theorem sizeIn_header_append (version : UInt32) (fields : Fields)
    (hardwareInstance capsuleSupport : UInt64) (body : Bytes) :
    sizeIn (header version fields hardwareInstance capsuleSupport ++ body) =
      headerSize version + fields.imageSize.toNat + fields.vendorCodeSize.toNat := by
  let front := littleEndian 4 version.toNat ++
    (fields.imageType.bytes ++ ([fields.index] ++ fields.reserved.bytes))
  let behind := optionalWord (2 ≤ version) hardwareInstance ++
    (optionalWord (3 ≤ version) capsuleSupport ++ body)
  have bytes_eq : header version fields hardwareInstance capsuleSupport ++ body =
      front ++ (littleEndian 4 fields.imageSize.toNat ++
        (littleEndian 4 fields.vendorCodeSize.toNat ++ behind)) := by
    simp only [header, encode_fieldsLayout, Layout.encode_word32, List.append_assoc, front, behind]
  have frontSize : front.length = 24 := by
    simp [front, fields.reserved.length_bytes]
  have throughImageSize : (front ++ littleEndian 4 fields.imageSize.toNat).length = 28 := by
    rw [List.length_append, frontSize, length_littleEndian]
  have version_eq : versionIn (header version fields hardwareInstance capsuleSupport ++ body) =
      version := by
    rw [versionIn, header, List.append_assoc, Layout.encode_word32,
      List.take_left' (length_littleEndian 4 _), Envelope.littleEndianValue_word32,
      UInt32.ofNat_toNat]
  have imageSize : (front ++ (littleEndian 4 fields.imageSize.toNat ++
      (littleEndian 4 fields.vendorCodeSize.toNat ++ behind))).extract 24 28 =
        littleEndian 4 fields.imageSize.toNat :=
    extract_middle frontSize (by simp)
  have vendorCodeSize : (front ++ (littleEndian 4 fields.imageSize.toNat ++
      (littleEndian 4 fields.vendorCodeSize.toNat ++ behind))).extract 28 32 =
        littleEndian 4 fields.vendorCodeSize.toNat := by
    rw [← List.append_assoc]
    exact extract_middle throughImageSize (by simp)
  rw [sizeIn, version_eq, bytes_eq, imageSize, vendorCodeSize, Envelope.littleEndianValue_word32,
    Envelope.littleEndianValue_word32]

/-- Whatever else is wrong with an item, a wrong size is named by what its header declares. -/
theorem namesSizes_decode (bytes : Bytes) :
    (decode bytes).NamesSizes (sizeIn bytes) bytes.length := by
  intro declared found refused
  rcases outcome_decode_cases bytes with short | ⟨version, rest, rfl, uncounted⟩ | headed
  · rw [short] at refused
    cases refused
  · rw [outcome_decode_version_append uncounted] at refused
    cases refused
  · rcases headed with ⟨version, fields, hardwareInstance, capsuleSupport, body, rfl, numbered,
      noInstance, noSupport⟩
    rw [outcome_decode_header_append body numbered noInstance noSupport] at refused
    rw [sizeIn_header_append, List.length_append, length_header]
    split at refused
    · cases refused
    split at refused
    · rename_i differ
      cases refused
      exact ⟨rfl, rfl, by omega⟩
    · cases refused

end Item

namespace Capsule

def driverCountIn (buffer : Bytes) : Nat :=
  littleEndianValue (buffer.extract 4 6)

def itemCountIn (buffer : Bytes) : Nat :=
  littleEndianValue (buffer.extract 6 8)

def offsetIn (buffer : Bytes) (place : Nat) : Nat :=
  littleEndianValue (buffer.extract (8 + 8 * place) (16 + 8 * place))

def itemIn (buffer : Bytes) (index : Nat) : Bytes :=
  let place := driverCountIn buffer + index
  buffer.extract (offsetIn buffer place)
    (if index + 1 < itemCountIn buffer then offsetIn buffer (place + 1) else buffer.length)

theorem counts_header_append (header : Header) (rest : Bytes) :
    let buffer := Header.layout.encode header ++ rest
    driverCountIn buffer = header.driverCount.toNat ∧
      itemCountIn buffer = header.itemCount.toNat := by
  intro buffer
  have buffer_eq : buffer = littleEndian 4 header.version.toNat ++
      (littleEndian 2 header.driverCount.toNat ++
        (littleEndian 2 header.itemCount.toNat ++ rest)) := by
    simp only [buffer, encode_headerLayout, List.append_assoc]
  constructor
  · rw [driverCountIn, buffer_eq, extract_middle (length_littleEndian 4 _) (by simp),
      littleEndianValue_littleEndian]
    exact Nat.mod_eq_of_lt header.driverCount.toNat_lt
  · rw [itemCountIn, buffer_eq, ← List.append_assoc, extract_middle (by simp) (by simp),
      littleEndianValue_littleEndian]
    exact Nat.mod_eq_of_lt header.itemCount.toNat_lt

theorem offsetIn_header_append (header : Header) {offsets : List UInt64} (rest : Bytes)
    {place : Nat} {offset : UInt64} (present : offsets[place]? = some offset) :
    offsetIn (Header.layout.encode header ++ (encodeOffsets offsets ++ rest)) place =
      offset.toNat := by
  rcases List.getElem?_eq_some_iff.mp present with ⟨inside, offset_eq⟩
  have split_eq : encodeOffsets offsets = encodeOffsets (offsets.take place) ++
      (littleEndian 8 offset.toNat ++ encodeOffsets (offsets.drop (place + 1))) := by
    conv => lhs; rw [← List.take_append_drop place offsets]
    rw [List.drop_eq_getElem_cons inside, offset_eq, encodeOffsets, encodeOffsets, encodeOffsets,
      List.flatMap_append, List.flatMap_cons, Layout.encode_word64]
  have before : (Header.layout.encode header ++ encodeOffsets (offsets.take place)).length =
      8 + 8 * place := by
    rw [List.length_append, Layout.length_encode, length_encodeOffsets, List.length_take,
      Nat.min_eq_left (Nat.le_of_lt inside)]
    rfl
  rw [offsetIn, split_eq, List.append_assoc, List.append_assoc, ← List.append_assoc,
    extract_middle before (by rw [length_littleEndian]; omega), littleEndianValue_littleEndian]
  exact Nat.mod_eq_of_lt offset.toNat_lt

theorem eq_itemIn_of_getElem?_partsAt {header : Header} {offsets : List UInt64} {rest part : Bytes}
    {index : Nat}
    (offsetCount : offsets.length = header.driverCount.toNat + header.itemCount.toNat) :
    let buffer := Header.layout.encode header ++ (encodeOffsets offsets ++ rest)
    (partsAt buffer (offsets.drop header.driverCount.toNat))[index]? = some part →
      index < itemCountIn buffer ∧ part = itemIn buffer index := by
  intro buffer found
  rcases counts_header_append header (encodeOffsets offsets ++ rest) with ⟨drivers, items⟩
  rw [getElem?_partsAt, Option.map_eq_some_iff] at found
  rcases found with ⟨start, startFound, rfl⟩
  rw [List.getElem?_drop] at startFound
  have inside := (List.getElem?_eq_some_iff.mp startFound).1
  refine ⟨by rw [items]; omega, ?_⟩
  rw [itemIn, drivers, items, offsetIn_header_append header rest startFound, List.getElem?_drop,
    ← Nat.add_assoc]
  split
  · rename_i followed
    have next : header.driverCount.toNat + index + 1 < offsets.length := by
      omega
    rw [List.getElem?_eq_getElem next,
      offsetIn_header_append header rest (List.getElem?_eq_getElem next)]
    rfl
  · rename_i last
    rw [List.getElem?_eq_none (by omega)]
    rfl

/-- A capsule has no size of its own. The one that is wrong is that of an item. -/
theorem exists_item_of_outcome_decode {buffer : Bytes} {declared found : Nat}
    (refused : (decode buffer).outcome = .error (.sizeMismatch declared found)) :
    ∃ index < itemCountIn buffer,
      (Item.decode (itemIn buffer index)).outcome = .error (.sizeMismatch declared found) := by
  rw [decode] at refused
  rcases Traced.outcome_bind_eq_error_iff.mp refused with cut | ⟨⟨header, behind⟩, taken, refused⟩
  · exact absurd cut (Traced.outcome_require_ne_error (by simp))
  rw [Traced.outcome_require_eq_ok_iff, Layout.take?_eq_some_iff] at taken
  dsimp only at refused
  split at refused
  · cases refused
  split at refused
  · cases refused
  rcases Traced.outcome_bind_eq_error_iff.mp refused with cut | ⟨⟨offsets, rest⟩, listed, refused⟩
  · exact absurd cut (Traced.outcome_require_ne_error (by simp))
  rw [Traced.outcome_require_eq_ok_iff, takeOffsets?_eq_some_iff] at listed
  rcases listed with ⟨offsetCount, behind_eq⟩
  dsimp only at refused
  split at refused
  · cases refused
  rcases Traced.outcome_bind_eq_error_iff.mp refused with itemRefused | ⟨items, _, refused⟩
  · rcases Traced.exists_of_outcome_mapM itemRefused with ⟨index, part, present, partRefused⟩
    rw [taken, behind_eq] at present
    rcases eq_itemIn_of_getElem?_partsAt offsetCount present with ⟨inside, part_eq⟩
    rw [taken, behind_eq]
    exact ⟨index, inside, part_eq ▸ partRefused⟩
  · rw [Logged.outcome_debug_bind] at refused
    cases refused

theorem outcome_item_eq_ok_iff {capsule : Capsule} {index : Nat} {item : Item} :
    (capsule.item index).outcome = .ok item ↔ capsule.items[index]? = some item := by
  rw [Capsule.item]
  split
  · rename_i present
    rw [present, Traced.outcome_pure, Except.ok.injEq, Option.some.injEq]
  · rename_i absent
    simp [absent]

end Capsule

end Management

/-! ## Authenticated images -/

namespace AuthenticatedImage

/-- An image names its sizes the other way round: as found the one that the certificate
declares, and as declared the one that every certificate has. -/
theorem namesSizes_decode (buffer : Bytes) :
    (decode buffer).NamesSizes Certificate.size (lengthIn buffer - lengthOverhead) := by
  intro declared found refused
  rcases outcome_decode_cases buffer with ⟨fault, isFirst, given⟩ | ⟨_, image, accepted⟩
  · rw [given, Except.error.injEq] at refused
    rw [refused, refusals] at isFirst
    by_cases short : buffer.length < 32
    · simp [short] at isFirst
    by_cases foreignFormat : revisionIn buffer ≠ 0x0200 ∨ formatIn buffer ≠ 0x0EF1
    · simp [short, foreignFormat] at isFirst
    by_cases foreignType : buffer.extract 16 32 ≠ [0x14, 0x74, 0x71, 0xA7, 0x16, 0xC6, 0x77, 0x49,
        0x94, 0x20, 0x84, 0x47, 0x12, 0xA7, 0x35, 0xBF]
    · rw [if_neg short, if_neg foreignFormat, if_pos foreignType] at isFirst
      cases isFirst
    rw [if_neg short, if_neg foreignFormat, if_neg foreignType] at isFirst
    split at isFirst
    · cases isFirst
    split at isFirst
    · rename_i longer
      cases isFirst
      refine ⟨rfl, rfl, ?_⟩
      omega
    · cases isFirst
  · rw [accepted] at refused
    cases refused

def overlong : Bytes :=
  Header.layout.encode ⟨0, certificateLength + 1, supportedRevision, guidFormat,
    rsa2048Sha256Type⟩ ++ List.replicate (Certificate.size + 1) 0

theorem exists_not_namesSizes_of_certificate :
    ∃ buffer, ∀ present,
      ¬ (decode buffer).NamesSizes (lengthIn buffer - lengthOverhead) present := by
  refine ⟨overlong, fun present named => ?_⟩
  have refused : (decode overlong).outcome = .error (.sizeMismatch 528 529) := by
    decide +kernel
  have declared : lengthIn overlong = 553 := by
    decide +kernel
  have sizes := (named 528 529 refused).1
  rw [declared] at sizes
  cases sizes

end AuthenticatedImage

/-! ## All layers -/

namespace Layers

inductive WrongSize (buffer : Bytes) : (declared found : Nat) → Prop where
  | envelope (differ : Envelope.imageSizeIn buffer ≠ buffer.length) :
      WrongSize buffer (Envelope.imageSizeIn buffer) buffer.length
  | item {envelope : Envelope} (opened : (Envelope.decode buffer).outcome = .ok envelope)
      {index : Nat} (inside : index < Management.Capsule.itemCountIn envelope.payload)
      (differ : Management.Item.sizeIn (Management.Capsule.itemIn envelope.payload index) ≠
        (Management.Capsule.itemIn envelope.payload index).length) :
      WrongSize buffer
        (Management.Item.sizeIn (Management.Capsule.itemIn envelope.payload index))
        (Management.Capsule.itemIn envelope.payload index).length
  | image {envelope : Envelope} (opened : (Envelope.decode buffer).outcome = .ok envelope)
      {management : Management.Capsule}
      (managed : (Management.Capsule.decode envelope.payload).outcome = .ok management)
      {item : Management.Item} (first : management.items[0]? = some item)
      (differ : Certificate.size ≠
        AuthenticatedImage.lengthIn item.payload - AuthenticatedImage.lengthOverhead) :
      WrongSize buffer Certificate.size
        (AuthenticatedImage.lengthIn item.payload - AuthenticatedImage.lengthOverhead)

structure NamesWrongSizes (buffer : Bytes) : Prop where
  envelope : (Envelope.decode buffer).NamesSizes (Envelope.imageSizeIn buffer) buffer.length
  item : (Management.Item.decode buffer).NamesSizes (Management.Item.sizeIn buffer) buffer.length
  management : ∀ declared found,
    (Management.Capsule.decode buffer).outcome = .error (.sizeMismatch declared found) →
      ∃ index < Management.Capsule.itemCountIn buffer,
        let bytes := Management.Capsule.itemIn buffer index
        declared = Management.Item.sizeIn bytes ∧ found = bytes.length ∧ declared ≠ found
  image : (AuthenticatedImage.decode buffer).NamesSizes Certificate.size
    (AuthenticatedImage.lengthIn buffer - AuthenticatedImage.lengthOverhead)
  layers : ∀ declared found,
    (decode buffer).outcome = .error (.sizeMismatch declared found) →
      WrongSize buffer declared found
  message : ∀ declared found,
    (Fault.sizeMismatch declared found).message =
      "size mismatch: header declares " ++ Text.hex declared ++ " bytes, found " ++ Text.hex found

theorem wrongSize_of_outcome_decode {buffer : Bytes} {declared found : Nat}
    (refused : (decode buffer).outcome = .error (.sizeMismatch declared found)) :
    WrongSize buffer declared found := by
  rw [outcome_decode] at refused
  rcases Traced.outcome_bind_eq_error_iff.mp refused with notOpened | ⟨envelope, opened, refused⟩
  · rcases Envelope.namesSizes_decode buffer declared found notOpened with ⟨rfl, rfl, differ⟩
    exact .envelope differ
  rcases Traced.outcome_bind_eq_error_iff.mp refused with
    notManaged | ⟨management, managed, refused⟩
  · rcases Management.Capsule.exists_item_of_outcome_decode notManaged with
      ⟨index, inside, itemRefused⟩
    rcases Management.Item.namesSizes_decode _ declared found itemRefused with ⟨rfl, rfl, differ⟩
    exact .item opened inside differ
  rcases Traced.outcome_bind_eq_error_iff.mp refused with notChosen | ⟨item, chosen, refused⟩
  · rw [Management.Capsule.item] at notChosen
    split at notChosen
    · cases notChosen
    · cases notChosen
  rcases Traced.outcome_bind_eq_error_iff.mp refused with notRead | ⟨image, _, refused⟩
  · rcases AuthenticatedImage.namesSizes_decode _ declared found notRead with ⟨rfl, rfl, differ⟩
    rw [Management.Capsule.outcome_item_eq_ok_iff] at chosen
    exact .image opened managed chosen differ
  · cases refused

theorem namesWrongSizes (buffer : Bytes) : NamesWrongSizes buffer where
  envelope := Envelope.namesSizes_decode buffer
  item := Management.Item.namesSizes_decode buffer
  management := by
    intro declared found refused
    rcases Management.Capsule.exists_item_of_outcome_decode refused with ⟨index, inside, refused⟩
    exact ⟨index, inside, Management.Item.namesSizes_decode _ declared found refused⟩
  image := AuthenticatedImage.namesSizes_decode buffer
  layers := fun _ _ => wrongSize_of_outcome_decode
  message := fun _ _ => rfl

end Layers

end FirmwareCapsule
