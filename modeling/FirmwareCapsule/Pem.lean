import FirmwareCapsule.Base64

namespace FirmwareCapsule

/-! PEM files in their strict form. A file holds one block: a boundary with a
label, the content as base64 in lines of exactly sixty-four characters of which
only the last may be shorter, and a boundary with the same label. Whole lines of
other text may stand in front of the block, and nothing behind it. A line ends
with a line feed, a carriage return, or both. -/

structure Pem where
  label : List Char
  content : Bytes
deriving DecidableEq

namespace Pem

def opening : List Char := "-----BEGIN ".toList

def closing : List Char := "-----END ".toList

def dashes : List Char := "-----".toList

def lineWidth : Nat := 64

def dropStart? (start text : List Char) : Option (List Char) :=
  if start.isPrefixOf text then some (text.drop start.length) else none

def dropEnding? (ending text : List Char) : Option (List Char) :=
  if ending.isSuffixOf text then some (text.take (text.length - ending.length)) else none

def dropLeadingLineEnd? : List Char → Option (List Char)
  | '\r' :: '\n' :: rest => some rest
  | '\r' :: rest => some rest
  | '\n' :: rest => some rest
  | _ => none

theorem length_of_dropLeadingLineEnd? {text rest : List Char}
    (ended : dropLeadingLineEnd? text = some rest) : rest.length < text.length := by
  unfold dropLeadingLineEnd? at ended
  split at ended <;> cases ended <;> simp only [List.length_cons] <;> omega

def dropTrailingLineEnd? (text : List Char) : Option (List Char) :=
  match text.reverse with
  | '\n' :: '\r' :: rest => some rest.reverse
  | '\r' :: rest => some rest.reverse
  | '\n' :: rest => some rest.reverse
  | _ => none

/-- The text from the first opening on that starts a line. No NUL character may
stand in front of it. -/
def findOpening? (text : List Char) : Option (List Char) :=
  if opening.isPrefixOf text then some text else search text
where
  search : List Char → Option (List Char)
    | [] => none
    | character :: rest =>
        if character = '\x00' then none
        else if character = '\n' ∧ opening.isPrefixOf rest = true then some rest
        else search rest

def contentLines? (text : List Char) : Option (List (List Char)) :=
  if text.isEmpty then
    some []
  else if text.length ≤ lineWidth then
    some [(dropTrailingLineEnd? text).getD text]
  else
    match _ended : dropLeadingLineEnd? (text.drop lineWidth) with
    | some rest => (contentLines? rest).map (text.take lineWidth :: ·)
    | none => none
termination_by text.length
decreasing_by
  have shorter := length_of_dropLeadingLineEnd? _ended
  rw [List.length_drop] at shorter
  omega

/-- The bytes that the lines of a content stand for. Padding may only stand in
the last line. -/
def decodeLines? (lines : List (List Char)) : Option Bytes :=
  if lines.dropLast.any (·.contains Base64.padding) then none
  else Base64.decode? lines.flatten

def ofCharacters? (text : List Char) : Option Pem := do
  let block ← findOpening? text
  let labelled ← dropStart? opening block
  let label := labelled.takeWhile (· ≠ '-')
  let afterLabel ← dropStart? dashes (labelled.drop label.length)
  let body ← dropLeadingLineEnd? afterLabel
  let body ← dropEnding? dashes ((dropTrailingLineEnd? body).getD body)
  let body ← dropEnding? label body
  let body ← dropEnding? closing body
  let encoded ← dropTrailingLineEnd? body
  let lines ← contentLines? encoded
  let content ← decodeLines? lines
  return ⟨label, content⟩

end Pem

end FirmwareCapsule
