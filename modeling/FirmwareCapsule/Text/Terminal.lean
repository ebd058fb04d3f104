import FirmwareCapsule.Text.Blank

namespace FirmwareCapsule.Text

/-! Text without terminal control. Messages are not always read on a terminal,
so control characters other than blanks are left out of them, and so are the
sequences that an escape character starts. A sequence ends by the byte that its
kind asks for. -/

inductive TerminalMode where
  | text
  | escape
  /-- An escape sequence that goes on until its final character. -/
  | escapeWithIntermediates
  /-- A control sequence, such as one that sets a colour. -/
  | control
  | device
  | deviceParameters
  | deviceIntermediates
  /-- A string that the byte `9C` ends. -/
  | string
  /-- A string that a bell ends, such as the title of a window. -/
  | command
deriving DecidableEq, Repr

namespace TerminalMode

/-- The blanks that are control characters are carried out inside of escape and
control sequences. -/
def shows : TerminalMode → Char → Bool
  | text, character =>
      isAsciiBlank character || (0x20 ≤ character.toNat && character.toNat ≠ 0x7F)
  | escape, character | escapeWithIntermediates, character | control, character =>
      isAsciiBlank character && character ≠ ' '
  | _, _ => false

def endsString (character : Char) : Bool :=
  (String.utf8EncodeChar character).contains 0x9C

def afterEscape (character : Char) : TerminalMode :=
  let code := character.toNat
  if character = '[' then control
  else if character = ']' then command
  else if character = 'P' then device
  else if character = 'X' || character = '^' || character = '_' then string
  else if 0x20 ≤ code && code ≤ 0x2F then escapeWithIntermediates
  else if 0x30 ≤ code && code ≤ 0x7E then text
  else escape

/-- The mode behind a character. Two control characters break off whatever there
is, and an escape character starts anew. -/
def next (mode : TerminalMode) (character : Char) : TerminalMode :=
  let code := character.toNat
  if code = 0x18 || code = 0x1A then text
  else if code = 0x1B then escape
  else
    match mode with
    | text => text
    | escape => afterEscape character
    | escapeWithIntermediates =>
        if 0x30 ≤ code && code ≤ 0x7E then text else escapeWithIntermediates
    | control => if 0x40 ≤ code && code ≤ 0x7E then text else control
    | device =>
        if 0x20 ≤ code && code ≤ 0x2F then deviceIntermediates
        else if 0x30 ≤ code && code ≤ 0x3F then deviceParameters
        else if 0x40 ≤ code && code ≤ 0x7E then string
        else device
    | deviceParameters =>
        if 0x20 ≤ code && code ≤ 0x2F then deviceIntermediates
        else if 0x3C ≤ code && code ≤ 0x7E then string
        else deviceParameters
    | deviceIntermediates =>
        if 0x30 ≤ code && code ≤ 0x7E then string else deviceIntermediates
    | string => if endsString character then text else string
    | command => if code = 0x07 then text else command

end TerminalMode

/-- What is shown of some characters. A blank that is carried out inside of a
sequence brings back text, up to the next control character; that one finds the
sequence where it was. `showing` says that a character has just been shown. -/
def shownFrom (mode : TerminalMode) (showing : Bool) : List Char → List Char
  | [] => []
  | character :: rest =>
      if showing && TerminalMode.text.shows character then
        character :: shownFrom (if character.toNat < 0x80 then mode else .text) true rest
      else if mode.shows character then
        character :: shownFrom (mode.next character) true rest
      else
        shownFrom (mode.next character) false rest

def plain (text : String) : String :=
  String.ofList (shownFrom .text false text.toList)

theorem shows_text_of_shows {mode : TerminalMode} {character : Char}
    (shown : mode.shows character = true) : TerminalMode.text.shows character = true := by
  cases mode <;> simp_all [TerminalMode.shows]

theorem next_text_of_shows {character : Char}
    (shown : TerminalMode.text.shows character = true) :
    TerminalMode.text.next character = .text := by
  have code : character.toNat ≠ 0x18 ∧ character.toNat ≠ 0x1A ∧ character.toNat ≠ 0x1B := by
    simp only [TerminalMode.shows, isAsciiBlank, Bool.or_eq_true, Bool.and_eq_true,
      decide_eq_true_eq] at shown
    rcases shown with blank | printable
    · rcases blank with (((rfl | rfl) | rfl) | rfl) | rfl <;> decide
    · omega
  simp [TerminalMode.next, code]

theorem shows_of_mem_shownFrom {mode : TerminalMode} {showing : Bool}
    {characters : List Char} {character : Char}
    (member : character ∈ shownFrom mode showing characters) :
    TerminalMode.text.shows character = true := by
  induction characters generalizing mode showing with
  | nil => cases member
  | cons first rest induction =>
      unfold shownFrom at member
      split at member
      · rename_i ordinary
        rcases List.mem_cons.1 member with rfl | later
        · exact (Bool.and_eq_true_iff.1 ordinary).2
        · exact induction later
      · split at member
        · rename_i shown
          rcases List.mem_cons.1 member with rfl | later
          · exact shows_text_of_shows shown
          · exact induction later
        · exact induction member

theorem shownFrom_eq_self {showing : Bool} {characters : List Char}
    (ordinary : ∀ character ∈ characters, TerminalMode.text.shows character = true) :
    shownFrom .text showing characters = characters := by
  induction characters generalizing showing with
  | nil => rfl
  | cons first rest induction =>
      have shown := ordinary first List.mem_cons_self
      have later : ∀ character ∈ rest, TerminalMode.text.shows character = true :=
        fun character member => ordinary character (List.mem_cons_of_mem _ member)
      have stays := next_text_of_shows shown
      unfold shownFrom
      split
      · simp [induction later]
      · simp [stays, induction later]

theorem plain_plain (text : String) : plain (plain text) = plain text := by
  simp only [plain, String.toList_ofList]
  rw [shownFrom_eq_self fun character member => shows_of_mem_shownFrom member]

example : plain "a\x1b[1;31mb\x1b]0;t\x07c" = "abc" := by decide +kernel
example : plain "\x1b(B6 \x08\x7f7" = "6 7" := by decide +kernel
example : plain "2\x1b\t3" = "2\t3" := by decide +kernel

end FirmwareCapsule.Text
