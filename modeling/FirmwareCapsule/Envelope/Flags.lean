namespace FirmwareCapsule

/-! The flag word of a capsule header. The low sixteen bits belong to the
capsule GUID, three more are defined, and the rest are reserved. -/

structure Flags where
  bits : UInt32
deriving DecidableEq

inductive Flag where
  /-- The bits whose meaning depends on the capsule GUID. -/
  | oem
  | persistAcrossReset
  | populateSystemTable
  | initiateReset
deriving DecidableEq, Repr

namespace Flag

def all : List Flag :=
  [oem, persistAcrossReset, populateSystemTable, initiateReset]

def mask : Flag → UInt32
  | oem => 0x0000FFFF
  | persistAcrossReset => 0x00010000
  | populateSystemTable => 0x00020000
  | initiateReset => 0x00040000

end Flag

namespace Flags

def defined : UInt32 := 0x0007FFFF

example : Flag.all.foldl (fun bits flag => bits ||| flag.mask) 0 = defined := rfl

def contains (flags : Flags) (flag : Flag) : Bool :=
  flags.bits &&& flag.mask = flag.mask

def intersects (flags : Flags) (flag : Flag) : Bool :=
  flags.bits &&& flag.mask ≠ 0

def reserved (flags : Flags) : UInt32 :=
  flags.bits &&& ~~~defined

def truncate (flags : Flags) : Flags :=
  ⟨flags.bits &&& defined⟩

def checked? (flags : Flags) : Option Flags :=
  if flags.reserved = 0 then some flags else none

def complement (flags : Flags) : Flags :=
  ⟨~~~flags.bits &&& defined⟩

def isAll (flags : Flags) : Bool :=
  flags.bits &&& defined = defined

def isEmpty (flags : Flags) : Bool :=
  flags.bits = 0

def choose (flag : Flag) (chosen : Bool) : UInt32 :=
  if chosen then flag.mask else 0

def compose (oem : UInt16) (persist populate initiate : Bool) : Flags :=
  ⟨oem.toUInt32 ||| choose .persistAcrossReset persist |||
    choose .populateSystemTable populate ||| choose .initiateReset initiate⟩

def oemBits (flags : Flags) : UInt16 :=
  (flags.bits &&& Flag.oem.mask).toUInt16

end Flags

end FirmwareCapsule
