import FirmwareCapsule.Guid.Basic
import FirmwareCapsule.Text.Blank
import FirmwareCapsule.Text.Digits

namespace FirmwareCapsule.Guid

/-! The registry format: thirty-two hexadecimal digits in five groups, such as
`6DCBD5ED-E82D-4C44-BDA1-7194199AD92A`. The digits name the bytes in an order
of their own, in which the first three groups are turned round. -/

/-- Turn round the bytes of the first three groups. On sixteen bytes this takes
the encoded order to the order of the text, and back. -/
def turnGroups (bytes : Bytes) : Bytes :=
  (bytes.take 4).reverse ++ ((bytes.drop 4).take 2).reverse ++
    ((bytes.drop 6).take 2).reverse ++ bytes.drop 8

theorem length_turnGroups {bytes : Bytes} (size : bytes.length = 16) :
    (turnGroups bytes).length = 16 := by
  simp [turnGroups, size]

/-! ## Printing -/

private def group (bytes : Bytes) (start count : Nat) : String :=
  Text.upperHexOfBytes ((bytes.drop start).take count)

def toText (guid : Guid) : String :=
  let bytes := turnGroups guid.bytes
  group bytes 0 4 ++ "-" ++ group bytes 4 2 ++ "-" ++ group bytes 6 2 ++ "-" ++
    group bytes 8 2 ++ "-" ++ group bytes 10 6

example : (ofGroups 0x6dcbd5ed 0xe82d 0x4c44 0xbda1 0x7194199ad92a).toText =
    "6DCBD5ED-E82D-4C44-BDA1-7194199AD92A" := rfl

/-! ## Reading -/

inductive TextFault where
  | digitCount (found : Nat)
  /-- The text holds a character that is neither a digit nor a separator. -/
  | foreignCharacter (position : Nat) (character : Char)
deriving DecidableEq, Repr

def digitCount : Nat := 32

def TextFault.message : TextFault → String
  | digitCount found =>
      s!"Invalid GUID length: expected {Text.decimal Guid.digitCount} hex characters, found {Text.decimal found}"
  | foreignCharacter position character =>
      "Invalid hex character '" ++ character.toString ++ s!"' at position {Text.decimal position}"

/-- The text of a GUID without what may surround it: blanks, and inside them one
pair of braces. A lone brace stays. -/
def unwrap (characters : List Char) : List Char :=
  let trimmed := Text.trim characters
  match trimmed with
  | '\x7b' :: inner => if inner.getLast? = some '\x7d' then inner.dropLast else trimmed
  | _ => trimmed

def isSeparator (character : Char) : Bool :=
  character = '-' || Text.isAsciiBlank character

def isForeign (character : Char) : Bool :=
  !isSeparator character && (Text.hexDigit? character).isNone

def digits (characters : List Char) : List Nat :=
  characters.filterMap Text.hexDigit?

def joinDigits : List Nat → Bytes
  | high :: low :: rest => UInt8.ofNat (16 * high + low) :: joinDigits rest
  | _ => []

def ofDigits? (digits : List Nat) : Option Guid :=
  if digits.length = digitCount then
    (Block.ofBytes? 16 (turnGroups (joinDigits digits))).map Guid.mk
  else
    none

def byteOffset (part : List Char) : List Char → Nat
  | [] => 0
  | character :: rest =>
      if part.isPrefixOf (character :: rest) then 0
      else character.utf8Size + byteOffset part rest

/-- Read the registry format. A foreign character is reported wherever it
stands, in preference to a wrong number of digits. Its position counts from one:
the bytes in front of the unwrapped text, where that text first occurs, and then
the characters inside it. -/
def ofCharacters? (characters : List Char) : Except TextFault Guid :=
  let inner := unwrap characters
  match inner.findIdx? isForeign, inner.find? isForeign with
  | some index, some character =>
      .error (.foreignCharacter (byteOffset inner characters + index + 1) character)
  | _, _ =>
      match ofDigits? (digits inner) with
      | some guid => .ok guid
      | none => .error (.digitCount (digits inner).length)

def ofText? (text : String) : Except TextFault Guid :=
  ofCharacters? text.toList

end FirmwareCapsule.Guid
