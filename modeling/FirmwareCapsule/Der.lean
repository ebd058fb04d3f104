import FirmwareCapsule.Bytes.Number

namespace FirmwareCapsule.Der

/-! The distinguished encoding of ASN.1, as far as private keys need it: an
element is a tag, a length in its shortest form, and as many bytes of content.
The content of a sequence is elements again. -/

structure Element where
  tag : UInt8
  content : Bytes
deriving DecidableEq

def integerTag : UInt8 := 0x02
def octetStringTag : UInt8 := 0x04
def nullTag : UInt8 := 0x05
def objectIdentifierTag : UInt8 := 0x06
def sequenceTag : UInt8 := 0x30

def universalTags : List UInt8 :=
  [0x01, 0x02, 0x03, 0x04, 0x05, 0x06, 0x09, 0x0A, 0x0C, 0x12, 0x13, 0x14, 0x15, 0x16, 0x17,
    0x18, 0x1A, 0x1E, 0x30, 0x31]

/-- A tag of one byte that has a meaning. Outside of the universal class all
have one, but five low bits that are all set announce a longer tag. -/
def isTag (byte : UInt8) : Bool :=
  universalTags.contains byte || (0x40 ≤ byte && byte &&& 0x1F ≠ 0x1F)

/-- Read a length. It is one byte below 128, or the number of its bytes and then
these, without leading zeros. -/
def takeLength? : Bytes → Option (Nat × Bytes)
  | [] => none
  | first :: rest =>
      if first < 0x80 then
        some (first.toNat, rest)
      else
        let count := first.toNat - 0x80
        let digits := rest.take count
        let length := bigEndianValue digits
        if 1 ≤ count ∧ count ≤ 4 ∧ digits.length = count ∧ 128 ≤ length ∧
            byteRange (count - 1) ≤ length then
          some (length, rest.drop count)
        else
          none

def takeElement? : Bytes → Option (Element × Bytes)
  | [] => none
  | tag :: rest =>
      if isTag tag then
        match takeLength? rest with
        | some (length, rest) =>
            let content := rest.take length
            if content.length = length then some (⟨tag, content⟩, rest.drop length) else none
        | none => none
      else
        none

def elementsUpTo? : (limit : Nat) → Bytes → Option (List Element)
  | _, [] => some []
  | 0, _ => none
  | limit + 1, bytes =>
      match takeElement? bytes with
      | some (element, rest) => (elementsUpTo? limit rest).map (element :: ·)
      | none => none

/-- The elements of which a byte string consists. Each takes at least a byte, so
there are no more of them than bytes. -/
def elements? (bytes : Bytes) : Option (List Element) :=
  elementsUpTo? bytes.length bytes

def element? (bytes : Bytes) : Option Element :=
  match takeElement? bytes with
  | some (element, []) => some element
  | _ => none

namespace Element

def content? (element : Element) (tag : UInt8) : Option Bytes :=
  if element.tag = tag then some element.content else none

def sequence? (element : Element) : Option (List Element) :=
  (element.content? sequenceTag).bind elements?

/-- The number that an integer stands for. It must not be negative, and must not
have a leading zero byte that its sign does not ask for. -/
def natural? (element : Element) : Option Nat :=
  match element.content? integerTag with
  | some [0] => some 0
  | some (0 :: second :: rest) =>
      if 0x80 ≤ second then some (bigEndianValue (second :: rest)) else none
  | some (first :: rest) =>
      if first < 0x80 then some (bigEndianValue (first :: rest)) else none
  | _ => none

end Element

example : (element? [0x02, 0x02, 0x00, 0x80]).bind Element.natural? = some 128 := rfl
example : (element? [0x02, 0x02, 0x00, 0x7F]).bind Element.natural? = none := rfl

end FirmwareCapsule.Der
