import FirmwareCapsule.Proofs.Assembly.Form

namespace FirmwareCapsule.Assembly

/-! What the report on an assembled capsule shows, line by line: what was chosen, in numbers and
texts, the sizes that the layers add to that of the payload, and what is the same in all
assembled capsules. -/

variable {assembly : Assembly}

def shownEnvelope (assembly : Assembly) (size : Nat) : String :=
  let field := Text.field 35
  field "EFI_CAPSULE_HEADER.CapsuleGuid" assembly.capsuleGuid.toText ++
    field "EFI_CAPSULE_HEADER.HeaderSize" "0000001C" ++
    field "EFI_CAPSULE_HEADER.Flags" (Text.upperHex 8 assembly.flagWord) ++
    field "  OEM Flags" (Text.upperHex 4 assembly.oemFlags.toNat) ++
    (if assembly.persistAcrossReset then "  CAPSULE_FLAGS_PERSIST_ACROSS_RESET\n" else "") ++
    (if assembly.initiateReset then "  CAPSULE_FLAGS_INITIATE_RESET\n" else "") ++
    field "EFI_CAPSULE_HEADER.CapsuleImageSize" (Text.upperHex 8 (size + 644)) ++
    field "sizeof (Payload)" (Text.upperHex 8 (size + 616))

def shownItem (assembly : Assembly) (size : Nat) : String :=
  let field name value :=
    Text.field 68 ("EFI_FIRMWARE_MANAGEMENT_CAPSULE_IMAGE_HEADER." ++ name) value
  field "Version" "00000002" ++
    field "UpdateImageTypeId" assembly.imageType.toText ++
    field "UpdateImageIndex" "00000001" ++
    field "UpdateImageSize" (Text.upperHex 8 (size + 560)) ++
    field "UpdateVendorCodeSize" "00000000" ++
    field "UpdateHardwareInstance" (Text.upperHex 16 assembly.hardwareInstance.toNat) ++
    Text.field 68 "sizeof (Payload)" (Text.upperHex 8 (size + 560)) ++
    Text.field 68 "sizeof (VendorCodeBytes)" "00000000"

def shownManagement (assembly : Assembly) (size : Nat) : String :=
  let field name value := Text.field 58 ("EFI_FIRMWARE_MANAGEMENT_CAPSULE_HEADER." ++ name) value
  field "Version" "00000001" ++
    field "EmbeddedDriverCount" "00000000" ++
    field "PayloadItemCount" "00000001" ++
    field "ItemOffsetList[0]" "0000000000000010" ++
    assembly.shownItem size

def shownImage (assembly : Assembly) (size : Nat) : String :=
  let field name value := Text.field 63 ("EFI_FIRMWARE_IMAGE_AUTHENTICATION." ++ name) value
  field "MonotonicCount" (Text.upperHex 16 assembly.monotonicCount.toNat) ++
    field "AuthInfo.Hdr.dwLength" "00000228" ++
    field "AuthInfo.Hdr.wRevision" "0200" ++
    field "AuthInfo.Hdr.wCertificateType" "0EF1" ++
    field "AuthInfo.CertType" "A7717414-C616-4977-9420-844712A735BF" ++
    Text.field 63 "sizeof (Payload)" (Text.upperHex 8 size)

def shown (assembly : Assembly) (size : Nat) (certificate : Certificate) : String :=
  "========\n" ++ assembly.shownEnvelope size ++ "--------\n" ++ assembly.shownManagement size ++
    "--------\n" ++ assembly.shownImage size ++ certificate.report ++ "========\n"

theorem report_envelope {content : Bytes} {size : Nat} (sized : content.length = size + 616) :
    (assembly.envelope content).report = assembly.shownEnvelope size := by
  have total : (assembly.envelope content).imageSize = size + 644 := by
    change 28 + content.length = size + 644
    omega
  have flags : (assembly.envelope content).flags.bits.toNat = assembly.flagWord :=
    Flags.toNat_bits_compose assembly.oemFlags assembly.persistAcrossReset false
      assembly.initiateReset
  have length : (assembly.envelope content).payload.length = size + 616 := sized
  have populate : (assembly.envelope content).populateSystemTable = false := rfl
  have headerSize : Text.upperHex 8 (assembly.envelope content).headerSize.toNat = "0000001C" :=
    (by decide : Text.upperHex 8 28 = "0000001C")
  rw [Envelope.report, total, flags, length, headerSize, shownEnvelope]
  simp only [populate, Bool.false_eq_true, if_false, String.append_empty]
  rfl

theorem report_item {image : Bytes} {size : Nat} (sized : image.length = size + 560) :
    (Management.Item.ofPayload assembly.imageType image assembly.hardwareInstance).report =
      assembly.shownItem size := by
  have hasInstance : (2 : UInt32) ≤ 2 := by decide
  have noSupport : ¬ (3 : UInt32) ≤ 2 := by decide
  rw [Management.Item.report, Management.Item.ofPayload, sized]
  dsimp only
  rw [if_pos hasInstance, if_neg noSupport, String.append_empty]
  rfl

theorem report_management {item : Management.Item} {size : Nat}
    (shown : item.report = assembly.shownItem size) :
    Management.Capsule.report ⟨0, [16], [item]⟩ = assembly.shownManagement size := by
  have version : Text.upperHex 8 Management.Capsule.headerVersion.toNat = "00000001" := by decide
  have driverCount : Text.upperHex 8 (0 : UInt16).toNat = "00000000" := by decide
  have itemCount : Text.upperHex 8 1 = "00000001" := by decide
  have offsetName : "ItemOffsetList[" ++ Text.decimal 0 ++ "]" = "ItemOffsetList[0]" := by decide
  have offset : Text.upperHex 16 (16 : UInt64).toNat = "0000000000000010" := by decide
  rw [Management.Capsule.report, shownManagement]
  simp only [List.zipIdx_cons, List.zipIdx_nil, List.map_cons, List.map_nil, String.join_cons,
    String.join_nil, String.append_empty, List.length_singleton, toString, version, driverCount,
    itemCount, offsetName, offset, shown]

theorem report_image (certificate : Certificate) (payload : Bytes) :
    AuthenticatedImage.report ⟨assembly.monotonicCount, certificate, payload⟩ =
      assembly.shownImage payload.length ++ certificate.report :=
  rfl

theorem report_layers (assembly : Assembly) (certificate : Certificate) (payload : Bytes) :
    (assembly.layers certificate payload).report = assembly.shown payload.length certificate := by
  have content : (Management.Capsule.writtenBytes
      ⟨0, [16], [assembly.item certificate payload]⟩).length = payload.length + 616 := by
    have total : 28 + (Management.Capsule.writtenBytes
      ⟨0, [16], [assembly.item certificate payload]⟩).length = _ :=
      imageSize_layers assembly certificate payload
    omega
  have item : (assembly.item certificate payload).report = assembly.shownItem payload.length :=
    report_item (length_payload_item assembly certificate payload)
  unfold Layers.report layers shown
  simp only [report_envelope content, report_management item, report_image, String.append_assoc]

end FirmwareCapsule.Assembly
