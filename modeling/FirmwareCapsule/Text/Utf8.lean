import FirmwareCapsule.Bytes.Basic

namespace FirmwareCapsule.Text

/-! UTF-8. A byte string is read as a row of units: characters, and the
ill-formed pieces between them. A piece is as long as it can be while still
being the start of some character, so a character that is cut short counts as
one piece. -/

inductive Utf8Unit where
  | character (value : Char)
  | illFormed
deriving DecidableEq, Repr

def isContinuation (byte : UInt8) : Bool :=
  0x80 ≤ byte && byte ≤ 0xBF

/-- The second byte of a character of three bytes. Lower ones would spell a
shorter character, and the upper ones after `ED` a surrogate. -/
def isSecondOfThree (lead byte : UInt8) : Bool :=
  (if lead = 0xE0 then 0xA0 else 0x80) ≤ byte && byte ≤ (if lead = 0xED then 0x9F else 0xBF)

/-- The second byte of a character of four bytes. Lower ones would spell a
shorter character, and the upper ones after `F4` a number beyond the last one. -/
def isSecondOfFour (lead byte : UInt8) : Bool :=
  (if lead = 0xF0 then 0x90 else 0x80) ≤ byte && byte ≤ (if lead = 0xF4 then 0x8F else 0xBF)

def continuationBits (byte : UInt8) : Nat :=
  byte.toNat % 64

def unitAt (lead : UInt8) (rest : Bytes) : Utf8Unit × Nat :=
  if lead < 0x80 then
    (.character (Char.ofNat lead.toNat), 0)
  else if 0xC2 ≤ lead && lead ≤ 0xDF then
    match rest with
    | second :: _ =>
        if isContinuation second then
          (.character (Char.ofNat (lead.toNat % 32 * 64 + continuationBits second)), 1)
        else
          (.illFormed, 0)
    | [] => (.illFormed, 0)
  else if 0xE0 ≤ lead && lead ≤ 0xEF then
    match rest with
    | second :: later =>
        if isSecondOfThree lead second then
          match later with
          | third :: _ =>
              if isContinuation third then
                (.character (Char.ofNat ((lead.toNat % 16 * 64 + continuationBits second) * 64 +
                  continuationBits third)), 2)
              else
                (.illFormed, 1)
          | [] => (.illFormed, 1)
        else
          (.illFormed, 0)
    | [] => (.illFormed, 0)
  else if 0xF0 ≤ lead && lead ≤ 0xF4 then
    match rest with
    | second :: later =>
        if isSecondOfFour lead second then
          match later with
          | third :: last =>
              if isContinuation third then
                match last with
                | fourth :: _ =>
                    if isContinuation fourth then
                      (.character (Char.ofNat (((lead.toNat % 8 * 64 + continuationBits second) *
                        64 + continuationBits third) * 64 + continuationBits fourth)), 3)
                    else
                      (.illFormed, 2)
                | [] => (.illFormed, 2)
              else
                (.illFormed, 1)
          | [] => (.illFormed, 1)
        else
          (.illFormed, 0)
    | [] => (.illFormed, 0)
  else
    (.illFormed, 0)

def utf8Units : Bytes → List Utf8Unit
  | [] => []
  | lead :: rest =>
      let (unit, length) := unitAt lead rest
      unit :: utf8Units (rest.drop length)
termination_by bytes => bytes.length
decreasing_by simp only [List.length_drop, List.length_cons]; omega

def ofUtf8Lossy (bytes : Bytes) : List Char :=
  (utf8Units bytes).map fun
    | .character value => value
    | .illFormed => '\ufffd'

def ofUtf8? (bytes : Bytes) : Option (List Char) :=
  (utf8Units bytes).mapM fun
    | .character value => some value
    | .illFormed => none

def utf8 (characters : List Char) : Bytes :=
  characters.flatMap String.utf8EncodeChar

example : ofUtf8Lossy [0x41, 0xC3, 0xA9, 0xE2, 0x82, 0x42] = ['A', 'é', '\ufffd', 'B'] := by
  decide +kernel

end FirmwareCapsule.Text
