import FirmwareCapsule.Bytes.Basic
import FirmwareCapsule.Text.Digits

namespace FirmwareCapsule.Text

/-! Bytes spelled by two hexadecimal digits each, of either case. -/

inductive HexFault where
  | oddLength
  /-- The byte at `position`, counting from zero, is not a digit. -/
  | foreignByte (byte : UInt8) (position : Nat)
deriving DecidableEq, Repr

def hexDigitOfByte? (byte : UInt8) : Option Nat :=
  hexDigit? (Char.ofNat byte.toNat)

def joinHexDigits : Bytes → Bytes
  | high :: low :: rest =>
      match hexDigitOfByte? high, hexDigitOfByte? low with
      | some high, some low => UInt8.ofNat (16 * high + low) :: joinHexDigits rest
      | _, _ => []
  | _ => []

def ofHexDigits (digits : Bytes) : Except HexFault Bytes :=
  if digits.length % 2 = 1 then
    .error .oddLength
  else
    let isForeign byte := (hexDigitOfByte? byte).isNone
    match digits.findIdx? isForeign, digits.find? isForeign with
    | some position, some byte => .error (.foreignByte byte position)
    | _, _ => .ok (joinHexDigits digits)

def quotedByte (byte : UInt8) : String :=
  let number := byte.toNat
  let shown :=
    if number = 0 then "\\0"
    else if number = 0x09 then "\\t"
    else if number = 0x0A then "\\n"
    else if number = 0x0D then "\\r"
    else if number = 0x27 then "\\'"
    else if number = 0x5C then "\\\\"
    else if number < 0x20 || 0x7F ≤ number && number ≤ 0xA0 || number = 0xAD then
      "\\u\x7b" ++ String.ofList (Nat.toDigits 16 number) ++ "\x7d"
    else
      (Char.ofNat number).toString
  "'" ++ shown ++ "'"

def HexFault.message : HexFault → String
  | oddLength => "Odd number of digits"
  | foreignByte byte position =>
      s!"Invalid character {quotedByte byte} at position {decimal position}"

end FirmwareCapsule.Text
