import FirmwareCapsule.Proofs.Assembly
import FirmwareCapsule.Proofs.Guid.Writing
import FirmwareCapsule.Proofs.Management.CapsuleForm
import FirmwareCapsule.Proofs.Text.Report
import Mathlib.Data.List.Forall2

namespace FirmwareCapsule

/-! What reports tell apart. The report on a capsule shows every field of its headers, and of
the contents only how long they are, so two reports are the same just if the capsules agree in
all that is shown. Each layer is compared line by line, with whatever follows it. -/

/-! ## Values of fields -/

namespace Guid

theorem toText_inj {guid other : Guid} : guid.toText = other.toText ↔ guid = other := by
  constructor
  · intro same
    apply textDigits_injective
    rw [← (isTextOf_toText guid).digits_eq, same, (isTextOf_toText other).digits_eq]
  · intro same
    rw [same]

theorem isInline_toText (guid : Guid) : Text.IsInline guid.toText := by
  intro member
  rcases eq_dash_or_upperDigit member with dash | ⟨value, bounded, newline⟩
  · cases dash
  · have found := Text.hexDigit?_upperDigit bounded
    rw [← newline] at found
    cases found

@[simp] theorem field_toText_append_eq_iff {width : Nat} {name rest otherRest : String}
    {guid other : Guid} :
    Text.field width name guid.toText ++ rest = Text.field width name other.toText ++ otherRest ↔
      guid = other ∧ rest = otherRest := by
  rw [Text.field_append_eq_iff guid.isInline_toText other.isInline_toText, toText_inj]

end Guid

namespace Certificate

theorem upperHexOfBytes_append_eq_iff {bytes others : Bytes} {rest otherRest : String}
    (sizes : bytes.length = others.length) :
    Text.upperHexOfBytes bytes ++ rest = Text.upperHexOfBytes others ++ otherRest ↔
      bytes = others ∧ rest = otherRest := by
  constructor
  · intro same
    have characters := congrArg String.toList same
    rw [String.toList_append, String.toList_append, Guid.toList_upperHexOfBytes,
      Guid.toList_upperHexOfBytes] at characters
    have digitCounts : ((bytes.flatMap Guid.digitsOfByte).map Text.upperDigit).length =
        ((others.flatMap Guid.digitsOfByte).map Text.upperDigit).length := by
      rw [List.length_map, List.length_map, Guid.length_flatMap_digitsOfByte,
        Guid.length_flatMap_digitsOfByte, sizes]
    rcases List.append_inj characters digitCounts with ⟨digits, rests⟩
    have values := congrArg Guid.digits digits
    rw [Guid.digits_map_upperDigit fun _ => Guid.lt_of_mem_flatMap_digitsOfByte,
      Guid.digits_map_upperDigit fun _ => Guid.lt_of_mem_flatMap_digitsOfByte] at values
    rw [← Guid.joinDigits_flatMap_digitsOfByte bytes, values,
      Guid.joinDigits_flatMap_digitsOfByte]
    exact ⟨rfl, String.toList_inj.mp rests⟩
  · rintro ⟨rfl, rfl⟩
    rfl

theorem isInline_upperHexOfBytes (bytes : Bytes) : Text.IsInline (Text.upperHexOfBytes bytes) := by
  intro member
  rw [Guid.toList_upperHexOfBytes] at member
  rcases List.mem_map.mp member with ⟨value, inside, newline⟩
  have found := Text.hexDigit?_upperDigit (Guid.lt_of_mem_flatMap_digitsOfByte inside)
  rw [newline] at found
  cases found

theorem preview_block (block : Block 256) :
    preview block.bytes = Text.upperHexOfBytes (block.bytes.take 8) ++ ("..." ++
      (Text.upperHexOfBytes (block.bytes.drop 248) ++ " (0x100 bytes)")) := by
  have long : ¬ block.bytes.length ≤ 16 := by
    rw [block.length_bytes]
    decide
  rw [preview, if_neg long, block.length_bytes]
  simp only [String.append_assoc]
  rfl

theorem isInline_preview (block : Block 256) : Text.IsInline (preview block.bytes) := by
  have dots : Text.IsInline "..." := by
    unfold Text.IsInline
    decide
  have size : Text.IsInline " (0x100 bytes)" := by
    unfold Text.IsInline
    decide
  rw [preview_block]
  simp only [Text.isInline_append]
  exact ⟨isInline_upperHexOfBytes _, dots, isInline_upperHexOfBytes _, size⟩

theorem preview_inj {block other : Block 256} :
    preview block.bytes = preview other.bytes ↔
      block.bytes.take 8 = other.bytes.take 8 ∧ block.bytes.drop 248 = other.bytes.drop 248 := by
  have starts : (block.bytes.take 8).length = (other.bytes.take 8).length := by
    simp only [List.length_take, Block.length_bytes]
  have ends : (block.bytes.drop 248).length = (other.bytes.drop 248).length := by
    simp only [List.length_drop, Block.length_bytes]
  rw [preview_block, preview_block, upperHexOfBytes_append_eq_iff starts,
    String.append_right_inj, upperHexOfBytes_append_eq_iff ends, and_iff_left rfl]

@[simp] theorem field_preview_append_eq_iff {width : Nat} {name rest otherRest : String}
    {block other : Block 256} :
    Text.field width name (preview block.bytes) ++ rest =
        Text.field width name (preview other.bytes) ++ otherRest ↔
      (block.bytes.take 8 = other.bytes.take 8 ∧ block.bytes.drop 248 = other.bytes.drop 248) ∧
        rest = otherRest := by
  rw [Text.field_append_eq_iff (isInline_preview block) (isInline_preview other), preview_inj]

/-- Certificates of the same kind whose key and signature begin and end alike. -/
structure LooksLike (left right : Certificate) : Prop where
  hashType : left.hashType = right.hashType
  publicKeyStart : left.publicKey.bytes.take 8 = right.publicKey.bytes.take 8
  publicKeyEnd : left.publicKey.bytes.drop 248 = right.publicKey.bytes.drop 248
  signatureStart : left.signature.bytes.take 8 = right.signature.bytes.take 8
  signatureEnd : left.signature.bytes.drop 248 = right.signature.bytes.drop 248

theorem report_append_eq_iff {left right : Certificate} {rest otherRest : String} :
    left.report ++ rest = right.report ++ otherRest ↔
      left.LooksLike right ∧ rest = otherRest := by
  simp only [report, String.append_assoc, Guid.field_toText_append_eq_iff,
    field_preview_append_eq_iff]
  constructor
  · rintro ⟨hashType, ⟨publicKeyStart, publicKeyEnd⟩, ⟨signatureStart, signatureEnd⟩, rests⟩
    exact ⟨⟨hashType, publicKeyStart, publicKeyEnd, signatureStart, signatureEnd⟩, rests⟩
  · rintro ⟨alike, rests⟩
    exact ⟨alike.hashType, ⟨alike.publicKeyStart, alike.publicKeyEnd⟩,
      ⟨alike.signatureStart, alike.signatureEnd⟩, rests⟩

end Certificate

/-! ## Envelopes -/

namespace Flags

theorem compose_inj {oem otherOem : UInt16}
    {persist populate initiate otherPersist otherPopulate otherInitiate : Bool} :
    compose oem persist populate initiate =
        compose otherOem otherPersist otherPopulate otherInitiate ↔
      oem = otherOem ∧ persist = otherPersist ∧ populate = otherPopulate ∧
        initiate = otherInitiate := by
  constructor
  · intro same
    have oems := congrArg oemBits same
    have persists := congrArg (contains · .persistAcrossReset) same
    have populates := congrArg (contains · .populateSystemTable) same
    have initiates := congrArg (contains · .initiateReset) same
    rw [oemBits_compose, oemBits_compose] at oems
    simp only [contains_compose] at persists populates initiates
    exact ⟨oems, persists, populates, initiates⟩
  · rintro ⟨rfl, rfl, rfl, rfl⟩
    rfl

end Flags

namespace Envelope

structure LooksLike (left right : Envelope) : Prop where
  capsuleGuid : left.capsuleGuid = right.capsuleGuid
  headerSize : left.headerSize = right.headerSize
  oemFlags : left.oemFlags = right.oemFlags
  persistAcrossReset : left.persistAcrossReset = right.persistAcrossReset
  populateSystemTable : left.populateSystemTable = right.populateSystemTable
  initiateReset : left.initiateReset = right.initiateReset
  payloadSize : left.payload.length = right.payload.length

theorem report_append_eq_iff {left right : Envelope} {rest otherRest : String} :
    left.report ++ rest = right.report ++ otherRest ↔
      left.LooksLike right ∧ rest = otherRest := by
  simp only [report, String.append_assoc, Guid.field_toText_append_eq_iff,
    Text.field_upperHex_append_eq_iff, UInt32.toNat_inj, UInt16.toNat_inj]
  constructor
  · rintro ⟨capsuleGuid, headerSize, bits, oemFlags, marks⟩
    have flags : left.flags = right.flags := by
      rw [Flags.mk.injEq]
      exact bits
    -- The flag word settles which of the optional lines are there.
    rcases Flags.compose_inj.mp flags with ⟨_, persist, populate, initiate⟩
    simp only [persist, populate, initiate, String.append_right_inj,
      Text.field_upperHex_append_eq_iff] at marks
    exact ⟨⟨capsuleGuid, headerSize, oemFlags, persist, populate, initiate, marks.2.1⟩, marks.2.2⟩
  · rintro ⟨alike, rests⟩
    have flags : left.flags = right.flags :=
      Flags.compose_inj.mpr ⟨alike.oemFlags, alike.persistAcrossReset, alike.populateSystemTable,
        alike.initiateReset⟩
    have size : left.imageSize = right.imageSize := by
      rw [imageSize, imageSize, alike.headerSize, alike.payloadSize]
    rw [flags, size, alike.persistAcrossReset, alike.populateSystemTable, alike.initiateReset,
      alike.payloadSize, rests]
    exact ⟨alike.capsuleGuid, alike.headerSize, rfl, alike.oemFlags, rfl⟩

end Envelope

/-! ## Items and management capsules -/

namespace Management

namespace Item

structure LooksLike (left right : Item) : Prop where
  version : left.version = right.version
  imageType : left.imageType = right.imageType
  index : left.index = right.index
  hardwareInstance : left.hardwareInstance = right.hardwareInstance
  capsuleSupport : left.capsuleSupport = right.capsuleSupport
  payloadSize : left.payload.length = right.payload.length
  vendorCodeSize : left.vendorCode.length = right.vendorCode.length

theorem optionalField_append_eq_iff {shown : Prop} [Decidable shown] {width : Nat} {name : String}
    {value other : UInt64} {rest otherRest : String} (hidden : ¬ shown → value = other) :
    (if shown then Text.field width name (Text.upperHex 16 value.toNat) else "") ++ rest =
        (if shown then Text.field width name (Text.upperHex 16 other.toNat) else "") ++ otherRest ↔
      value = other ∧ rest = otherRest := by
  split
  · rw [Text.field_upperHex_append_eq_iff, UInt64.toNat_inj]
  · rename_i notShown
    rw [String.append_right_inj, and_iff_right (hidden notShown)]

/-- A field that the version does not have is not shown, and counts as zero. -/
theorem report_append_eq_iff {left right : Item} (wellFormed : left.WellFormed)
    (otherWellFormed : right.WellFormed) {rest otherRest : String} :
    left.report ++ rest = right.report ++ otherRest ↔
      left.LooksLike right ∧ rest = otherRest := by
  simp only [report, String.append_assoc, Guid.field_toText_append_eq_iff,
    Text.field_upperHex_append_eq_iff, UInt32.toNat_inj, UInt8.toNat_inj]
  constructor
  · rintro ⟨version, imageType, index, payloadSize, vendorCodeSize, rests⟩
    have noInstance : ¬ 2 ≤ right.version → left.hardwareInstance = right.hardwareInstance := by
      intro hidden
      have first : right.version < 2 := UInt32.not_le.mp hidden
      rw [wellFormed.hardwareInstance (version ▸ first), otherWellFormed.hardwareInstance first]
    have noSupport : ¬ 3 ≤ right.version → left.capsuleSupport = right.capsuleSupport := by
      intro hidden
      have earlier : right.version < 3 := UInt32.not_le.mp hidden
      rw [wellFormed.capsuleSupport (version ▸ earlier), otherWellFormed.capsuleSupport earlier]
    rw [version, optionalField_append_eq_iff noInstance,
      optionalField_append_eq_iff noSupport, Text.field_upperHex_append_eq_iff,
      Text.field_upperHex_append_eq_iff] at rests
    rcases rests with ⟨hardwareInstance, capsuleSupport, _, _, rests⟩
    exact ⟨⟨version, imageType, index, hardwareInstance, capsuleSupport, payloadSize,
      vendorCodeSize⟩, rests⟩
  · rintro ⟨alike, rests⟩
    rw [alike.version, alike.hardwareInstance, alike.capsuleSupport, alike.payloadSize,
      alike.vendorCodeSize, rests]
    exact ⟨rfl, alike.imageType, alike.index, rfl, rfl, rfl⟩

end Item

namespace Capsule

structure LooksLike (left right : Capsule) : Prop where
  driverCount : left.driverCount = right.driverCount
  itemOffsets : left.itemOffsets = right.itemOffsets
  items : List.Forall₂ Item.LooksLike left.items right.items

theorem offsets_append_eq_iff {left right : List UInt64} {rest otherRest : String}
    (counts : left.length = right.length) (start : Nat) {shown : UInt64 × Nat → String}
    (tells : ∀ offset other index rest otherRest,
      shown (offset, index) ++ rest = shown (other, index) ++ otherRest ↔
        offset = other ∧ rest = otherRest) :
    String.join ((left.zipIdx start).map shown) ++ rest =
        String.join ((right.zipIdx start).map shown) ++ otherRest ↔
      left = right ∧ rest = otherRest := by
  induction left generalizing right start with
  | nil =>
      rw [List.length_eq_zero_iff.mp counts.symm]
      simp
  | cons offset left induction =>
      cases right with
      | nil => cases counts
      | cons other right =>
          rw [List.zipIdx_cons, List.zipIdx_cons, List.map_cons, List.map_cons, String.join_cons,
            String.join_cons, String.append_assoc, String.append_assoc, tells,
            induction (Nat.succ.inj counts), List.cons.injEq, and_assoc]

theorem items_append_eq_iff {left right : List Item} {rest otherRest : String}
    (counts : left.length = right.length) (wellFormed : ∀ item ∈ left, item.WellFormed)
    (otherWellFormed : ∀ item ∈ right, item.WellFormed) :
    String.join (left.map Item.report) ++ rest = String.join (right.map Item.report) ++ otherRest ↔
      List.Forall₂ Item.LooksLike left right ∧ rest = otherRest := by
  induction left generalizing right with
  | nil =>
      rw [List.length_eq_zero_iff.mp counts.symm]
      simp
  | cons item left induction =>
      cases right with
      | nil => cases counts
      | cons other right =>
          rw [List.forall_mem_cons] at wellFormed otherWellFormed
          rw [List.map_cons, List.map_cons, String.join_cons, String.join_cons,
            String.append_assoc, String.append_assoc,
            Item.report_append_eq_iff wellFormed.1 otherWellFormed.1,
            induction (Nat.succ.inj counts) wellFormed.2 otherWellFormed.2, List.forall₂_cons,
            and_assoc]

/-- The counts settle how many of the lines behind them are offsets and items. -/
theorem report_append_eq_iff {left right : Capsule} {leftBuffer rightBuffer : Bytes}
    (accepted : (decode leftBuffer).outcome = .ok left)
    (otherAccepted : (decode rightBuffer).outcome = .ok right) {rest otherRest : String} :
    left.report ++ rest = right.report ++ otherRest ↔
      left.LooksLike right ∧ rest = otherRest := by
  have fits := (outcome_decode_eq_ok_iff.mp accepted).1.offsetCount
  have otherFits := (outcome_decode_eq_ok_iff.mp otherAccepted).1.offsetCount
  have wellFormed := wellFormed_of_outcome_decode accepted
  have otherWellFormed := wellFormed_of_outcome_decode otherAccepted
  simp only [report, String.append_assoc, Text.field_upperHex_append_eq_iff, UInt16.toNat_inj,
    true_and]
  constructor
  · rintro ⟨driverCount, itemCount, rests⟩
    have offsetCount : left.itemOffsets.length = right.itemOffsets.length := by
      rw [fits, otherFits, driverCount, itemCount]
    rw [offsets_append_eq_iff offsetCount 0,
      items_append_eq_iff itemCount wellFormed otherWellFormed] at rests
    · exact ⟨⟨driverCount, rests.1, rests.2.1⟩, rests.2.2⟩
    · intro offset other index rest otherRest
      rw [Text.field_upperHex_append_eq_iff, UInt64.toNat_inj]
  · rintro ⟨alike, rfl⟩
    have itemCount := alike.items.length_eq
    refine ⟨alike.driverCount, itemCount, ?_⟩
    rw [alike.itemOffsets, String.append_right_inj,
      items_append_eq_iff itemCount wellFormed otherWellFormed]
    exact ⟨alike.items, rfl⟩

end Capsule

end Management

/-! ## Authenticated images -/

namespace AuthenticatedImage

structure LooksLike (left right : AuthenticatedImage) : Prop where
  monotonicCount : left.monotonicCount = right.monotonicCount
  payloadSize : left.payload.length = right.payload.length
  certificate : left.certificate.LooksLike right.certificate

theorem report_append_eq_iff {left right : AuthenticatedImage} {rest otherRest : String} :
    left.report ++ rest = right.report ++ otherRest ↔
      left.LooksLike right ∧ rest = otherRest := by
  simp only [report, String.append_assoc, Text.field_upperHex_append_eq_iff, UInt64.toNat_inj,
    Guid.field_toText_append_eq_iff, Certificate.report_append_eq_iff, true_and]
  constructor
  · rintro ⟨monotonicCount, payloadSize, certificate, rests⟩
    exact ⟨⟨monotonicCount, payloadSize, certificate⟩, rests⟩
  · rintro ⟨alike, rests⟩
    exact ⟨alike.monotonicCount, alike.payloadSize, alike.certificate, rests⟩

end AuthenticatedImage

/-! ## All layers -/

namespace Layers

structure LooksLike (left right : Layers) : Prop where
  envelope : left.envelope.LooksLike right.envelope
  management : left.management.LooksLike right.management
  image : left.image.LooksLike right.image

theorem report_eq_iff {left right : Layers} {leftBuffer rightBuffer : Bytes}
    (accepted : (decode leftBuffer).outcome = .ok left)
    (otherAccepted : (decode rightBuffer).outcome = .ok right) :
    left.report = right.report ↔ left.LooksLike right := by
  have managed := (outcome_decode_eq_ok_iff.mp accepted).2.1
  have otherManaged := (outcome_decode_eq_ok_iff.mp otherAccepted).2.1
  rw [report, report]
  simp only [String.append_assoc, String.append_right_inj, Envelope.report_append_eq_iff,
    Management.Capsule.report_append_eq_iff managed otherManaged,
    AuthenticatedImage.report_append_eq_iff, and_true]
  constructor
  · rintro ⟨envelope, management, image⟩
    exact ⟨envelope, management, image⟩
  · intro alike
    exact ⟨alike.envelope, alike.management, alike.image⟩

theorem looksLike_envelope (assembly : Assembly) {content other : Bytes}
    (sizes : content.length = other.length) :
    (assembly.envelope content).LooksLike (assembly.envelope other) :=
  ⟨rfl, rfl, rfl, rfl, rfl, rfl, sizes⟩

/-- Behind one certificate, payloads of the same size are not told apart. -/
theorem looksLike_of_length_eq (assembly : Assembly) (certificate : Certificate)
    {payload other : Bytes} (sizes : payload.length = other.length) :
    (assembly.layers certificate payload).LooksLike (assembly.layers certificate other) where
  envelope := by
    have contentSize (content : Bytes) :
        28 + (Management.Capsule.writtenBytes
          ⟨0, [16], [assembly.item certificate content]⟩).length = content.length + 644 :=
      Assembly.imageSize_layers assembly certificate content
    apply looksLike_envelope
    have left := contentSize payload
    have right := contentSize other
    omega
  management := by
    have itemSize := Assembly.length_payload_item assembly certificate
    have items : (assembly.item certificate payload).payload.length =
        (assembly.item certificate other).payload.length := by
      rw [itemSize payload, itemSize other, sizes]
    exact ⟨rfl, rfl, .cons ⟨rfl, rfl, rfl, rfl, rfl, items, rfl⟩ .nil⟩
  image := ⟨rfl, sizes, ⟨rfl, rfl, rfl, rfl, rfl⟩⟩

theorem report_eq_iff_one_byte :
    let assembly := Assembly.ofImageType .zero
    let certificate : Certificate := ⟨Certificate.sha256HashType, .zero 256, .zero 256⟩
    let left := assembly.layers certificate [1]
    let right := assembly.layers certificate [2]
    (decode left.envelope.toBytes).outcome = .ok left ∧
      (decode right.envelope.toBytes).outcome = .ok right ∧
      (left.report = right.report ↔ left.LooksLike right) ∧ left.LooksLike right := by
  intro assembly certificate left right
  have accepted : (decode left.envelope.toBytes).outcome = .ok left :=
    Assembly.outcome_decode_layers (by decide : 1 + 644 < UInt32.size)
  have otherAccepted : (decode right.envelope.toBytes).outcome = .ok right :=
    Assembly.outcome_decode_layers (by decide : 1 + 644 < UInt32.size)
  exact ⟨accepted, otherAccepted, report_eq_iff accepted otherAccepted,
    looksLike_of_length_eq assembly certificate rfl⟩

end Layers

end FirmwareCapsule
