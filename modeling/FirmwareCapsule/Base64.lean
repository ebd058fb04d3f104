import FirmwareCapsule.Bytes.Basic

namespace FirmwareCapsule.Base64

/-! Base64 in its canonical form: groups of four characters, of which only the
last may end in padding, and no bits that the padding would cut off. -/

def digit? (character : Char) : Option Nat :=
  if 'A' ≤ character ∧ character ≤ 'Z' then
    some (character.toNat - 'A'.toNat)
  else if 'a' ≤ character ∧ character ≤ 'z' then
    some (character.toNat - 'a'.toNat + 26)
  else if '0' ≤ character ∧ character ≤ '9' then
    some (character.toNat - '0'.toNat + 52)
  else if character = '+' then
    some 62
  else if character = '/' then
    some 63
  else
    none

def padding : Char := '='

def group? (first second third fourth : Char) : Option Bytes := do
  let first ← digit? first
  let second ← digit? second
  let third ← digit? third
  let fourth ← digit? fourth
  return [UInt8.ofNat (first * 4 + second / 16), UInt8.ofNat (second % 16 * 16 + third / 4),
    UInt8.ofNat (third % 4 * 64 + fourth)]

def lastGroup? (first second third fourth : Char) : Option Bytes :=
  if fourth ≠ padding then
    group? first second third fourth
  else if third ≠ padding then do
    let first ← digit? first
    let second ← digit? second
    let third ← digit? third
    if third % 4 = 0 then
      return [UInt8.ofNat (first * 4 + second / 16), UInt8.ofNat (second % 16 * 16 + third / 4)]
    else
      none
  else do
    let first ← digit? first
    let second ← digit? second
    if second % 16 = 0 then
      return [UInt8.ofNat (first * 4 + second / 16)]
    else
      none

def decodeAfter? (decoded : Bytes) : List Char → Option Bytes
  | [] => some decoded.reverse
  | [first, second, third, fourth] =>
      (lastGroup? first second third fourth).map fun bytes => decoded.reverse ++ bytes
  | first :: second :: third :: fourth :: rest =>
      match group? first second third fourth with
      | some bytes => decodeAfter? (bytes.reverse ++ decoded) rest
      | none => none
  | _ => none

def decode? (text : List Char) : Option Bytes :=
  decodeAfter? [] text

example : decode? ['T', 'W', 'F', 'u', 'T', 'Q', '=', '='] = some [77, 97, 110, 77] := rfl
example : decode? ['T', 'R', '=', '='] = none := rfl

end FirmwareCapsule.Base64
