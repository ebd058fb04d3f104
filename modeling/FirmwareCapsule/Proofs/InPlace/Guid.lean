import FirmwareCapsule.Guid.Basic
import FirmwareCapsule.Proofs.InPlace.Cursor
import Mathlib.Data.List.Pairwise

namespace FirmwareCapsule

/-! GUIDs that are read and written in place. Sixteen bytes from the offset on are the GUID, in
either byte order; without room for them nothing is done. GUIDs that are written at places
apart are all kept. -/

inductive ByteOrder where
  | littleEndian
  | bigEndian
deriving DecidableEq

namespace Guid

/-- Put the form of a GUID at the front of a buffer. It is the same in either byte order. -/
def putForm (_ : ByteOrder) (guid : Guid) : InPlace Unit :=
  InPlace.put guid.bytes

def takeForm (_ : ByteOrder) : InPlace Guid :=
  Guid.mk <$> InPlace.take 16

def write (order : ByteOrder) (guid : Guid) : InPlace Unit :=
  InPlace.behind (guid.putForm order)

def read (order : ByteOrder) : InPlace Guid :=
  InPlace.behind (takeForm order)

variable {buffer : Bytes} {offset : Nat} {guid : Guid}

theorem write_eq_put (order : ByteOrder) (guid : Guid) :
    guid.write order = InPlace.put guid.bytes :=
  InPlace.behind_behind _

theorem read_eq_take (order : ByteOrder) :
    read order = InPlace.take 16 >>= fun block => pure ⟨block⟩ := by
  rw [read, takeForm, InPlace.behind_map, InPlace.take, InPlace.behind_behind, map_eq_pure_bind]

/-! ## Writing -/

theorem run_write_of_fits (order : ByteOrder) (guid : Guid) (fits : offset + 16 ≤ buffer.length) :
    (guid.write order).run ⟨buffer, offset⟩ =
      .ok () ⟨overwrite buffer offset guid.bytes, offset + 16⟩ := by
  have filled : 0 < guid.bytes.length := by
    rw [guid.length_bytes]
    decide
  have room : offset + guid.bytes.length ≤ buffer.length := by
    rwa [guid.length_bytes]
  rw [write_eq_put, InPlace.run_put_of_fits filled room, guid.length_bytes]

theorem run_write_of_short (order : ByteOrder) (guid : Guid)
    (short : buffer.length < offset + 16) :
    (guid.write order).run ⟨buffer, offset⟩ = .error .fieldCutShort ⟨buffer, offset⟩ := by
  rw [write_eq_put]
  apply InPlace.run_put_of_short
  rwa [guid.length_bytes]

theorem replaces_of_fits (guid : Guid) (fits : offset + 16 ≤ buffer.length) :
    Replaces buffer offset guid.bytes (overwrite buffer offset guid.bytes) :=
  replaces_overwrite (by rwa [guid.length_bytes])

/-! ## Reading -/

theorem run_read_of_fits (order : ByteOrder) (fits : offset + 16 ≤ buffer.length) :
    ∃ guid : Guid, (read order).run ⟨buffer, offset⟩ = .ok guid ⟨buffer, offset + 16⟩ ∧
      guid.bytes = buffer.extract offset (offset + 16) := by
  rcases InPlace.run_take_of_fits (by decide) fits with ⟨block, taken, bytes⟩
  refine ⟨⟨block⟩, ?_, bytes⟩
  rw [read_eq_take, InPlace.run_bind_of_ok taken]
  rfl

theorem run_read_of_short (order : ByteOrder) (short : buffer.length < offset + 16) :
    (read order).run ⟨buffer, offset⟩ = .error .fieldCutShort ⟨buffer, offset⟩ := by
  rw [read_eq_take, InPlace.run_bind_of_error (InPlace.run_take_of_short short)]

theorem run_read_of_extract (order : ByteOrder)
    (here : buffer.extract offset (offset + 16) = guid.bytes) :
    (read order).run ⟨buffer, offset⟩ = .ok guid ⟨buffer, offset + 16⟩ := by
  have size := congrArg List.length here
  rw [List.extract_eq_take_drop, List.length_take, List.length_drop, guid.length_bytes] at size
  have fits : offset + 16 ≤ buffer.length := by omega
  rcases run_read_of_fits order fits with ⟨found, read, bytes⟩
  rw [read, Guid.ext (bytes.trans here)]

theorem readAt?_of_extract (here : buffer.extract offset (offset + 16) = guid.bytes) :
    readAt? buffer offset = some (guid, offset + 16) := by
  have split : buffer.drop offset = layout.encode guid ++ buffer.drop (offset + 16) := by
    rw [encode_layout, ← here, List.extract_eq_take_drop, Nat.add_sub_cancel_left,
      ← List.drop_drop, List.take_append_drop]
  rw [readAt?, split, Layout.take?_encode_append, Option.map_some]

theorem readAt?_of_short (short : buffer.length < offset + 16) : readAt? buffer offset = none := by
  rw [readAt?, Option.map_eq_none_iff, Layout.take?_eq_none_iff, width_layout, List.length_drop]
  omega

/-! ## One GUID -/

theorem needsRoom_write (order : ByteOrder) (guid : Guid) (buffer : Bytes) (offset : Nat) :
    InPlace.NeedsRoom 16 (guid.write order) ⟨buffer, offset⟩ := by
  by_cases fits : offset + 16 ≤ buffer.length
  · exact InPlace.needsRoom_of_ok fits (run_write_of_fits order guid fits)
  · have short := Nat.not_le.mp fits
    exact InPlace.needsRoom_of_error short (run_write_of_short order guid short)

theorem needsRoom_read (order : ByteOrder) (buffer : Bytes) (offset : Nat) :
    InPlace.NeedsRoom 16 (read order) ⟨buffer, offset⟩ := by
  by_cases fits : offset + 16 ≤ buffer.length
  · rcases run_read_of_fits order fits with ⟨guid, done, _⟩
    exact InPlace.needsRoom_of_ok fits done
  · have short := Nat.not_le.mp fits
    exact InPlace.needsRoom_of_error short (run_read_of_short order short)

theorem writeAt?_eq_some_iff (order : ByteOrder) {after : Bytes} {next : Nat} :
    guid.writeAt? buffer offset = some (after, next) ↔
      (guid.write order).run ⟨buffer, offset⟩ = .ok () ⟨after, next⟩ := by
  rw [writeAt?]
  split
  · rename_i fits
    rw [run_write_of_fits order guid fits, overwrite, guid.length_bytes, List.append_assoc]
    simp
  · rename_i short
    rw [run_write_of_short order guid (Nat.not_le.mp short)]
    simp

theorem readAt?_eq_some_iff (order : ByteOrder) {next : Nat} :
    readAt? buffer offset = some (guid, next) ↔
      (read order).run ⟨buffer, offset⟩ = .ok guid ⟨buffer, next⟩ := by
  by_cases fits : offset + 16 ≤ buffer.length
  · rcases run_read_of_fits order fits with ⟨found, done, bytes⟩
    rw [done, readAt?_of_extract bytes.symm]
    simp
  · have short := Nat.not_le.mp fits
    rw [run_read_of_short order short, readAt?_of_short short]
    simp

structure IsWrittenAt (guid : Guid) (buffer : Bytes) (offset : Nat) (order : ByteOrder) :
    Prop where
  needsRoom : InPlace.NeedsRoom 16 (guid.write order) ⟨buffer, offset⟩
  written : ∀ cursor, (guid.write order).run ⟨buffer, offset⟩ = .ok () cursor →
    cursor.offset = offset + 16 ∧ Replaces buffer offset guid.bytes cursor.buffer ∧
      ∀ other, (read other).run ⟨cursor.buffer, offset⟩ = .ok guid cursor
  atOnce : ∀ after next, guid.writeAt? buffer offset = some (after, next) ↔
    (guid.write order).run ⟨buffer, offset⟩ = .ok () ⟨after, next⟩

theorem isWrittenAt (guid : Guid) (buffer : Bytes) (offset : Nat) (order : ByteOrder) :
    IsWrittenAt guid buffer offset order where
  needsRoom := needsRoom_write order guid buffer offset
  written := by
    intro cursor found
    have fits := (needsRoom_write order guid buffer offset).done_iff.mp ⟨(), cursor, found⟩
    have replaces := guid.replaces_of_fits fits
    have here := replaces.inside
    rw [guid.length_bytes] at here
    cases (run_write_of_fits order guid fits).symm.trans found
    exact ⟨rfl, replaces, fun other => run_read_of_extract other here⟩
  atOnce _ _ := writeAt?_eq_some_iff order

structure IsReadAt (buffer : Bytes) (offset : Nat) (order : ByteOrder) : Prop where
  needsRoom : InPlace.NeedsRoom 16 (read order) ⟨buffer, offset⟩
  found : ∀ guid cursor, (read order).run ⟨buffer, offset⟩ = .ok guid cursor →
    guid.bytes = buffer.extract offset (offset + 16) ∧ cursor = ⟨buffer, offset + 16⟩ ∧
      ∀ other, (guid.write other).run ⟨buffer, offset⟩ = .ok () cursor
  atOnce : ∀ guid next, readAt? buffer offset = some (guid, next) ↔
    (read order).run ⟨buffer, offset⟩ = .ok guid ⟨buffer, next⟩

theorem isReadAt (buffer : Bytes) (offset : Nat) (order : ByteOrder) :
    IsReadAt buffer offset order where
  needsRoom := needsRoom_read order buffer offset
  found := by
    intro guid cursor found
    have fits := (needsRoom_read order buffer offset).done_iff.mp ⟨guid, cursor, found⟩
    rcases run_read_of_fits order fits with ⟨here, done, bytes⟩
    cases done.symm.trans found
    have same : overwrite buffer offset guid.bytes = buffer :=
      overwrite_of_extract (by rw [guid.length_bytes, bytes])
    refine ⟨bytes, rfl, fun other => ?_⟩
    rw [run_write_of_fits other guid fits, same]
  atOnce _ _ := readAt?_eq_some_iff order

/-! ## Many GUIDs -/

structure Placement where
  order : ByteOrder
  offset : Nat
  guid : Guid

namespace Placement

def Apart (left right : Placement) : Prop :=
  left.offset + 16 ≤ right.offset ∨ right.offset + 16 ≤ left.offset

instance : Std.Symm Apart where
  symm _ _ := Or.symm

def write (buffer : Bytes) (placement : Placement) : Bytes :=
  ((placement.guid.write placement.order).leaves ⟨buffer, placement.offset⟩).buffer

def Shows (buffer : Bytes) (placement : Placement) : Prop :=
  buffer.extract placement.offset (placement.offset + 16) = placement.guid.bytes

variable {placement other : Placement}

theorem write_of_fits (fits : placement.offset + 16 ≤ buffer.length) :
    placement.write buffer = overwrite buffer placement.offset placement.guid.bytes := by
  rw [write, InPlace.leaves_of_ok (run_write_of_fits _ _ fits)]

theorem write_of_short (short : ¬ placement.offset + 16 ≤ buffer.length) :
    placement.write buffer = buffer := by
  rw [write, InPlace.leaves_of_error (run_write_of_short _ _ (Nat.not_le.mp short))]

theorem length_write (placement : Placement) (buffer : Bytes) :
    (placement.write buffer).length = buffer.length := by
  by_cases fits : placement.offset + 16 ≤ buffer.length
  · rw [write_of_fits fits, (placement.guid.replaces_of_fits fits).length_eq]
  · rw [write_of_short fits]

theorem shows_write (fits : placement.offset + 16 ≤ buffer.length) :
    Shows (placement.write buffer) placement := by
  have inside := (placement.guid.replaces_of_fits fits).inside
  rw [placement.guid.length_bytes] at inside
  rw [Shows, write_of_fits fits, inside]

theorem Shows.write (apart : other.Apart placement) (shown : Shows buffer placement) :
    Shows (other.write buffer) placement := by
  by_cases fits : other.offset + 16 ≤ buffer.length
  · have size := other.guid.length_bytes
    rw [Shows, write_of_fits fits, extract_overwrite_of_apart (by omega)]
    · exact shown
    · rcases apart with behind | before
      · exact .inr (by omega)
      · exact .inl before
  · rwa [write_of_short fits]

theorem write_comm (apart : placement.Apart other) (buffer : Bytes) :
    other.write (placement.write buffer) = placement.write (other.write buffer) := by
  by_cases fits : placement.offset + 16 ≤ buffer.length
  · by_cases otherFits : other.offset + 16 ≤ buffer.length
    · have fitsLater : placement.offset + 16 ≤ (other.write buffer).length := by
        rwa [other.length_write]
      have otherFitsLater : other.offset + 16 ≤ (placement.write buffer).length := by
        rwa [placement.length_write]
      rw [write_of_fits otherFitsLater, write_of_fits fits, write_of_fits fitsLater,
        write_of_fits otherFits]
      have size := placement.guid.length_bytes
      have otherSize := other.guid.length_bytes
      apply overwrite_comm (by omega) (by omega)
      rwa [size, otherSize]
    · have shortLater : ¬ other.offset + 16 ≤ (placement.write buffer).length := by
        rwa [placement.length_write]
      rw [write_of_short shortLater, write_of_short otherFits]
  · have shortLater : ¬ placement.offset + 16 ≤ (other.write buffer).length := by
      rwa [other.length_write]
    rw [write_of_short fits, write_of_short shortLater]

def writeAll (buffer : Bytes) (placements : List Placement) : Bytes :=
  placements.foldl (fun written placement => placement.write written) buffer

theorem Shows.writeAll {placements : List Placement}
    (apart : ∀ other ∈ placements, other.Apart placement) (shown : Shows buffer placement) :
    Shows (writeAll buffer placements) placement := by
  induction placements generalizing buffer with
  | nil => exact shown
  | cons other placements induction =>
    apply induction fun later member => apart later (List.mem_cons_of_mem _ member)
    exact shown.write (apart other List.mem_cons_self)

theorem shows_writeAll {placements : List Placement} (apart : placements.Pairwise Apart)
    (member : placement ∈ placements) (fits : placement.offset + 16 ≤ buffer.length) :
    Shows (writeAll buffer placements) placement := by
  induction placements generalizing buffer with
  | nil => cases member
  | cons first placements induction =>
    rcases List.pairwise_cons.mp apart with ⟨here, later⟩
    -- The later ones keep the first, and the buffer that they meet has the same length.
    rcases List.mem_cons.mp member with rfl | member
    · apply (shows_write fits).writeAll
      exact fun other among => symm (here other among)
    · exact induction later member (by rwa [first.length_write])

theorem writeAll_of_perm {placements reordered : List Placement}
    (apart : placements.Pairwise Apart) (perm : reordered.Perm placements) (buffer : Bytes) :
    writeAll buffer reordered = writeAll buffer placements := by
  symm
  apply perm.symm.foldl_eq'
  intro left leftMember right rightMember written
  by_cases same : left = right
  · rw [same]
  · exact write_comm (apart.forall leftMember rightMember same) written

end Placement

structure AreKept (buffer : Bytes) (placements : List Placement) : Prop where
  readBack : ∀ placement ∈ placements, placement.offset + 16 ≤ buffer.length → ∀ order,
    (read order).run ⟨Placement.writeAll buffer placements, placement.offset⟩ =
      .ok placement.guid ⟨Placement.writeAll buffer placements, placement.offset + 16⟩
  anyOrder : ∀ reordered : List Placement, reordered.Perm placements →
    Placement.writeAll buffer reordered = Placement.writeAll buffer placements

structure IsKeptInPlace (buffer : Bytes) : Prop where
  written : ∀ guid offset order, IsWrittenAt guid buffer offset order
  read : ∀ offset order, IsReadAt buffer offset order
  apart : ∀ placements, placements.Pairwise Placement.Apart → AreKept buffer placements

theorem isKeptInPlace (buffer : Bytes) : IsKeptInPlace buffer where
  written guid offset order := isWrittenAt guid buffer offset order
  read offset order := isReadAt buffer offset order
  apart := by
    intro placements apart
    constructor
    case readBack =>
      intro placement member fits order
      exact run_read_of_extract order (Placement.shows_writeAll apart member fits)
    case anyOrder =>
      intro reordered perm
      exact Placement.writeAll_of_perm apart perm buffer

/-- There is no room for the last byte, and none is written. -/
example : (zero.write .bigEndian).run ⟨List.replicate 20 0xFF, 5⟩ =
    .error .fieldCutShort ⟨List.replicate 20 0xFF, 5⟩ := rfl

end Guid

end FirmwareCapsule
