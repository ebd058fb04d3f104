namespace FirmwareCapsule.Text

/-! White space. Text that a user typed is trimmed of every character with the
Unicode property `White_Space`; inside a GUID only the five ASCII blanks are
passed over. -/

/-- The characters with the Unicode property `White_Space`, as inclusive ranges
of code points. -/
def blankRanges : List (Nat × Nat) :=
  [(0x0009, 0x000D), (0x0020, 0x0020), (0x0085, 0x0085), (0x00A0, 0x00A0),
    (0x1680, 0x1680), (0x2000, 0x200A), (0x2028, 0x2029), (0x202F, 0x202F),
    (0x205F, 0x205F), (0x3000, 0x3000)]

def isBlank (character : Char) : Bool :=
  blankRanges.any fun range => range.1 ≤ character.toNat && character.toNat ≤ range.2

/-- Space, tab, line feed, form feed and carriage return. The vertical tab is
not among them, although it is a `White_Space` character. -/
def isAsciiBlank (character : Char) : Bool :=
  character = ' ' || character = '\t' || character = '\n' || character = '\x0c' ||
    character = '\r'

theorem isBlank_of_isAsciiBlank {character : Char} (blank : isAsciiBlank character = true) :
    isBlank character = true := by
  simp only [isAsciiBlank, Bool.or_eq_true, decide_eq_true_eq] at blank
  rcases blank with (((rfl | rfl) | rfl) | rfl) | rfl <;> decide

example : isBlank '\x0b' = true ∧ isAsciiBlank '\x0b' = false := by decide
example : isBlank '\u3000' = true ∧ isBlank '\u200b' = false := by decide

def trim (characters : List Char) : List Char :=
  ((characters.dropWhile isBlank).reverse.dropWhile isBlank).reverse

example : trim [' ', 'a', ' ', 'b', '\n'] = ['a', ' ', 'b'] := rfl

structure IsTrimmed (text : List Char) : Prop where
  first : ∀ character ∈ text.head?, isBlank character = false
  last : ∀ character ∈ text.getLast?, isBlank character = false

theorem dropWhile_isBlank_of_head? {text : List Char}
    (first : ∀ character ∈ text.head?, isBlank character = false) :
    text.dropWhile isBlank = text := by
  cases text with
  | nil => rfl
  | cons character rest =>
    rw [List.dropWhile_cons_of_neg]
    rw [first character rfl]
    exact Bool.false_ne_true

theorem head?_dropWhile_isBlank (text : List Char) :
    ∀ character ∈ (text.dropWhile isBlank).head?, isBlank character = false := by
  intro character found
  have law := List.head?_dropWhile_not isBlank text
  rw [Option.mem_def.mp found] at law
  exact law

theorem trim_append {front inner back : List Char}
    (before : ∀ character ∈ front, isBlank character = true)
    (behind : ∀ character ∈ back, isBlank character = true) (trimmed : IsTrimmed inner) :
    trim (front ++ (inner ++ back)) = inner := by
  rw [trim, List.dropWhile_append_of_pos before]
  cases inner with
  | nil =>
    have none : back.dropWhile isBlank = [] := by
      rw [← List.append_nil back, List.dropWhile_append_of_pos behind, List.dropWhile_nil]
    rw [List.nil_append, none]
    rfl
  | cons first rest =>
    have kept : (first :: rest ++ back).dropWhile isBlank = first :: rest ++ back :=
      dropWhile_isBlank_of_head? trimmed.first
    have turned : ∀ character ∈ back.reverse, isBlank character = true :=
      fun character member => behind character (List.mem_reverse.mp member)
    have ending : ∀ character ∈ (first :: rest).reverse.head?, isBlank character = false := by
      rw [List.head?_reverse]
      exact trimmed.last
    rw [kept, List.reverse_append, List.dropWhile_append_of_pos turned,
      dropWhile_isBlank_of_head? ending, List.reverse_reverse]

theorem exists_trim (text : List Char) :
    ∃ front back, (∀ character ∈ front, isBlank character = true) ∧
      (∀ character ∈ back, isBlank character = true) ∧ IsTrimmed (trim text) ∧
      text = front ++ (trim text ++ back) := by
  have begun := List.takeWhile_append_dropWhile (p := isBlank) (l := text)
  have ended := congrArg List.reverse
    (List.takeWhile_append_dropWhile (p := isBlank) (l := (text.dropWhile isBlank).reverse))
  rw [List.reverse_append, List.reverse_reverse] at ended
  refine ⟨text.takeWhile isBlank, ((text.dropWhile isBlank).reverse.takeWhile isBlank).reverse,
    List.all_eq_true.mp List.all_takeWhile,
    fun character member =>
      List.all_eq_true.mp List.all_takeWhile character (List.mem_reverse.mp member),
    ⟨?_, ?_⟩, ?_⟩
  · intro character found
    refine head?_dropWhile_isBlank text character ?_
    rw [← ended, List.head?_append]
    exact Option.or_eq_some_iff.mpr (.inl found)
  · rw [trim, List.getLast?_reverse]
    exact head?_dropWhile_isBlank _
  · rw [trim, ended, begun]

end FirmwareCapsule.Text
