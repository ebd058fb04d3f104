import FirmwareCapsule.Proofs.Guid.Reading
import FirmwareCapsule.Proofs.Text.Digits

namespace FirmwareCapsule.Guid

/-! The text that is printed for a GUID, and the texts that are read as it. A GUID is printed
with the digits of its bytes in the order of the text; whatever is read as it has the same
digits in the same order, in letters of either case. -/

variable {text : String} {content : List Char} {guid : Guid}

/-! ## The digits of a GUID -/

def textDigits (guid : Guid) : List Nat :=
  (turnGroups guid.bytes).flatMap digitsOfByte

theorem exists_ofFn {bytes : Bytes} {size : Nat} (sized : bytes.length = size) :
    ∃ byte : Fin size → UInt8, bytes = List.ofFn byte := by
  subst sized
  exact ⟨fun place => bytes[place], List.ofFn_getElem.symm⟩

theorem turnGroups_turnGroups {bytes : Bytes} (sized : bytes.length = 16) :
    turnGroups (turnGroups bytes) = bytes := by
  rcases exists_ofFn sized with ⟨byte, rfl⟩
  rfl

theorem lt_of_mem_textDigits {value : Nat} (member : value ∈ guid.textDigits) : value < 16 :=
  lt_of_mem_flatMap_digitsOfByte member

theorem length_textDigits (guid : Guid) : guid.textDigits.length = digitCount := by
  rw [textDigits, length_flatMap_digitsOfByte, length_turnGroups guid.length_bytes, digitCount]

theorem ofDigits?_textDigits (guid : Guid) : ofDigits? guid.textDigits = some guid := by
  rw [ofDigits?, if_pos guid.length_textDigits, textDigits, joinDigits_flatMap_digitsOfByte,
    turnGroups_turnGroups guid.length_bytes]
  exact congrArg _ (Block.ofBytes?_bytes guid.block)

theorem textDigits_injective {other : Guid} (same : guid.textDigits = other.textDigits) :
    guid = other := by
  have found := ofDigits?_textDigits guid
  rw [same, ofDigits?_textDigits] at found
  exact (Option.some.inj found).symm

theorem HasContent.ofText?_eq_ok_iff (has : HasContent text content) :
    ofText? text = .ok guid ↔
      (∀ character ∈ content, isForeign character = false) ∧ digits content = guid.textDigits := by
  constructor
  · intro accepted
    have reading := isReading_of_mapError has.mapError_ofText?
    rw [accepted] at reading
    cases reading with
    | @accepted _ byte known value named =>
      have turned : turnGroups guid.bytes = List.ofFn byte := by
        rw [named, ← turnGroups_ofFn, turnGroups_turnGroups List.length_ofFn]
      rw [textDigits, turned]
      exact ⟨known, value⟩
  · rintro ⟨known, value⟩
    have read : ofContent? content = .ok guid := by
      have nothing : content.find? isForeign = none :=
        List.find?_eq_none.mpr fun character member => Bool.eq_false_iff.mp (known character member)
      rw [ofContent?, nothing, value, ofDigits?_textDigits]
    have accepted : (.ok guid : Except TextFault Guid).mapError TextFault.unplaced = .ok guid := rfl
    rw [← accepted, ← has.mapError_ofText?] at read
    exact (eq_ok_iff_of_mapError read guid).mpr rfl

/-! ## Printing -/

def grouped (digits : List Char) : List Char :=
  digits.take 8 ++ '-' :: ((digits.drop 8).take 4 ++ '-' :: ((digits.drop 12).take 4 ++
    '-' :: ((digits.drop 16).take 4 ++ '-' :: digits.drop 20)))

theorem toList_upperHexOfBytes (bytes : Bytes) :
    (Text.upperHexOfBytes bytes).toList = (bytes.flatMap digitsOfByte).map Text.upperDigit := by
  induction bytes with
  | nil => rfl
  | cons byte rest induction =>
    rw [Text.upperHexOfBytes] at induction ⊢
    rw [List.map_cons, String.join_cons, String.toList_append, induction,
      Text.toList_upperHex_byte]
    rfl

theorem flatMap_digitsOfByte_drop (bytes : Bytes) (count : Nat) :
    (bytes.drop count).flatMap digitsOfByte = (bytes.flatMap digitsOfByte).drop (2 * count) := by
  induction count generalizing bytes with
  | zero => rfl
  | succ count induction =>
    cases bytes with
    | nil => rfl
    | cons byte rest =>
      rw [List.drop_succ_cons, induction]
      rfl

theorem flatMap_digitsOfByte_take (bytes : Bytes) (count : Nat) :
    (bytes.take count).flatMap digitsOfByte = (bytes.flatMap digitsOfByte).take (2 * count) := by
  induction count generalizing bytes with
  | zero => rfl
  | succ count induction =>
    cases bytes with
    | nil => rfl
    | cons byte rest =>
      rw [List.take_succ_cons, List.flatMap_cons, induction]
      rfl

theorem toList_toText (guid : Guid) :
    guid.toText.toList = grouped (guid.textDigits.map Text.upperDigit) := by
  have sized := length_turnGroups guid.length_bytes
  have groups : guid.toText =
      Text.upperHexOfBytes (((turnGroups guid.bytes).drop 0).take 4) ++ "-" ++
        Text.upperHexOfBytes (((turnGroups guid.bytes).drop 4).take 2) ++ "-" ++
        Text.upperHexOfBytes (((turnGroups guid.bytes).drop 6).take 2) ++ "-" ++
        Text.upperHexOfBytes (((turnGroups guid.bytes).drop 8).take 2) ++ "-" ++
        Text.upperHexOfBytes (((turnGroups guid.bytes).drop 10).take 6) := rfl
  have lastSized : ((turnGroups guid.bytes).drop 10).length = 6 := by
    rw [List.length_drop, sized]
  have last : ((turnGroups guid.bytes).drop 10).take 6 = (turnGroups guid.bytes).drop 10 :=
    List.take_of_length_le (Nat.le_of_eq lastSized)
  rw [groups, last, textDigits, grouped]
  simp only [String.toList_append, toList_upperHexOfBytes, flatMap_digitsOfByte_drop,
    flatMap_digitsOfByte_take, List.map_take, List.map_drop, List.append_assoc]
  rfl

theorem append_groups (characters : List Char) :
    characters.take 8 ++ ((characters.drop 8).take 4 ++ ((characters.drop 12).take 4 ++
      ((characters.drop 16).take 4 ++ characters.drop 20))) = characters := by
  have joined (start count : Nat) :
      (characters.drop start).take count ++ characters.drop (start + count) =
        characters.drop start := by
    rw [← List.drop_drop, List.take_append_drop]
  rw [joined 16 4, joined 12 4, joined 8 4, List.take_append_drop]

theorem digits_append (first rest : List Char) :
    digits (first ++ rest) = digits first ++ digits rest :=
  List.filterMap_append

theorem digits_grouped (characters : List Char) :
    digits (grouped characters) = digits characters := by
  have dash (rest : List Char) : digits ('-' :: rest) = digits rest := rfl
  have parts := congrArg digits (append_groups characters)
  rw [grouped]
  simp only [digits_append, dash] at parts ⊢
  exact parts

theorem mem_grouped {character : Char} {characters : List Char}
    (member : character ∈ grouped characters) : character = '-' ∨ character ∈ characters := by
  rw [← append_groups characters]
  simp only [grouped, List.mem_append, List.mem_cons] at member ⊢
  grind

theorem eq_dash_or_upperDigit {character : Char} (member : character ∈ guid.toText.toList) :
    character = '-' ∨ ∃ value < 16, character = Text.upperDigit value := by
  rw [toList_toText] at member
  rcases mem_grouped member with dash | digit
  · exact .inl dash
  · rcases List.mem_map.mp digit with ⟨value, valueMember, rfl⟩
    exact .inr ⟨value, lt_of_mem_textDigits valueMember, rfl⟩

/-! ## Reading what was printed -/

def IsTextOf (guid : Guid) (shown : List Char) : Prop :=
  shown.map Char.toUpper = guid.toText.toList

variable {shown : List Char}

theorem isTextOf_toText (guid : Guid) : IsTextOf guid guid.toText.toList := by
  have kept : ∀ character ∈ guid.toText.toList, character.toUpper = character := by
    intro character member
    rcases eq_dash_or_upperDigit member with rfl | ⟨value, bounded, rfl⟩
    · rfl
    · exact Text.toUpper_of_hexDigit? (Text.hexDigit?_upperDigit bounded)
  rw [IsTextOf, List.map_congr_left kept, List.map_id']

theorem isTextOf_toLower (guid : Guid) :
    IsTextOf guid (guid.toText.toList.map Char.toLower) := by
  have turned : ∀ character ∈ guid.toText.toList, character.toLower.toUpper = character := by
    intro character member
    rcases eq_dash_or_upperDigit member with rfl | ⟨value, bounded, rfl⟩
    · rfl
    · clear member
      revert value
      decide
  rw [IsTextOf, List.map_map, Function.comp_def, List.map_congr_left turned, List.map_id']

theorem digits_map_toUpper (characters : List Char) :
    digits (characters.map Char.toUpper) = digits characters := by
  rw [digits, List.filterMap_map, digits]
  congr 1
  funext character
  exact Text.hexDigit?_toUpper character

theorem digits_map_upperDigit {values : List Nat} (bounded : ∀ value ∈ values, value < 16) :
    digits (values.map Text.upperDigit) = values := by
  induction values with
  | nil => rfl
  | cons value values induction =>
    have first := Text.hexDigit?_upperDigit (bounded value List.mem_cons_self)
    have later := induction fun other member => bounded other (List.mem_cons_of_mem _ member)
    rw [digits] at later ⊢
    rw [List.map_cons, List.filterMap_cons_some first, later]

theorem IsTextOf.digits_eq (isText : IsTextOf guid shown) : digits shown = guid.textDigits := by
  rw [← digits_map_toUpper, isText, toList_toText, digits_grouped,
    digits_map_upperDigit fun value => lt_of_mem_textDigits]

theorem eq_dash_of_toUpper {character : Char} (dash : character.toUpper = '-') :
    character = '-' := by
  rcases Text.toUpper_eq_self_or character with same | ⟨distance, near, rfl⟩
  · rw [← same, dash]
  · revert distance
    decide

theorem IsTextOf.eq_dash_or_digit (isText : IsTextOf guid shown) {character : Char}
    (member : character ∈ shown) :
    character = '-' ∨ ∃ value, Text.hexDigit? character = some value := by
  have upper : character.toUpper ∈ guid.toText.toList :=
    isText ▸ List.mem_map_of_mem member
  rcases eq_dash_or_upperDigit upper with dash | ⟨value, bounded, digit⟩
  · exact .inl (eq_dash_of_toUpper dash)
  · rw [← Text.hexDigit?_toUpper, digit]
    exact .inr ⟨value, Text.hexDigit?_upperDigit bounded⟩

theorem not_isBlank_of_isTextOf (isText : IsTextOf guid shown) :
    ∀ character ∈ shown, Text.isBlank character = false := by
  intro character member
  rcases isText.eq_dash_or_digit member with rfl | ⟨value, digit⟩
  · decide
  · exact Text.isBlank_of_hexDigit? digit

theorem not_isForeign_of_isTextOf (isText : IsTextOf guid shown) :
    ∀ character ∈ shown, isForeign character = false := by
  intro character member
  rcases isText.eq_dash_or_digit member with rfl | ⟨value, digit⟩
  · decide
  · rw [isForeign, digit, Option.isNone_some, Bool.and_false]

theorem ofText?_of_surrounds {front back : List Char} (surrounds : Surrounds front content back)
    (known : ∀ character ∈ content, isForeign character = false)
    (value : digits content = guid.textDigits) :
    ofText? (String.ofList (front ++ (content ++ back))) = .ok guid := by
  have has : HasContent (String.ofList (front ++ (content ++ back))) content :=
    ⟨front, back, surrounds, String.toList_ofList⟩
  exact has.ofText?_eq_ok_iff.mpr ⟨known, value⟩

theorem IsTextOf.surrounds (isText : IsTextOf guid shown) {front back : List Char}
    (before : ∀ character ∈ front, Text.isBlank character = true)
    (behind : ∀ character ∈ back, Text.isBlank character = true) : Surrounds front shown back := by
  have solid := not_isBlank_of_isTextOf isText
  apply Surrounds.blanks before behind
  · exact ⟨fun character member => solid character (List.mem_of_head? member),
      fun character member => solid character (List.mem_of_getLast? member)⟩
  · rintro inner rfl
    have foreign := not_isForeign_of_isTextOf isText '\x7b' List.mem_cons_self
    exact absurd foreign (by decide)

/-! ## Texts that are read as the same GUID -/

def upperDigits (text : String) : List Char :=
  (text.toList.filter fun character => (Text.hexDigit? character).isSome).map Char.toUpper

theorem upperDigits_eq (text : String) :
    upperDigits text = (digits text.toList).map Text.upperDigit := by
  rw [upperDigits]
  generalize text.toList = characters
  induction characters with
  | nil => rfl
  | cons character rest induction =>
    cases found : Text.hexDigit? character with
    | none =>
      rw [List.filter_cons_of_neg (by rw [found]; decide), induction, digits, digits,
        List.filterMap_cons_none found]
    | some value =>
      rw [List.filter_cons_of_pos (by rw [found]; rfl), List.map_cons, induction,
        Text.toUpper_of_hexDigit? found, digits, digits, List.filterMap_cons_some found,
        List.map_cons]

theorem digits_of_isBlank {blanks : List Char}
    (blank : ∀ character ∈ blanks, Text.isBlank character = true) : digits blanks = [] := by
  apply List.filterMap_eq_nil_iff.mpr
  intro character member
  cases digit : Text.hexDigit? character with
  | none => rfl
  | some value =>
    have solid := Text.isBlank_of_hexDigit? digit
    rw [blank character member] at solid
    cases solid

theorem HasContent.digits_toList (has : HasContent text content) :
    digits text.toList = digits content := by
  rcases has with ⟨front, back, surrounds, split⟩
  rw [split]
  cases surrounds with
  | braces before behind =>
    have opening : digits ['\x7b'] = [] := rfl
    have closing (rest : List Char) : digits ('\x7d' :: rest) = digits rest := rfl
    rw [digits_append, digits_append, digits_append, closing, opening, digits_of_isBlank before,
      digits_of_isBlank behind, List.nil_append, List.nil_append, List.append_nil]
  | blanks before behind _ _ =>
    rw [digits_append, digits_append, digits_of_isBlank before, digits_of_isBlank behind,
      List.nil_append, List.append_nil]

structure IsPrintedAsRead (guid : Guid) : Prop where
  letters : IsTextOf guid guid.toText.toList ∧
    IsTextOf guid (guid.toText.toList.map Char.toLower)
  readBack : ∀ shown front back, IsTextOf guid shown →
    (∀ character ∈ front, Text.isBlank character = true) →
    (∀ character ∈ back, Text.isBlank character = true) →
    ofText? (String.ofList (front ++ (shown ++ back))) = .ok guid
  readInBraces : ∀ shown front left right back, IsTextOf guid shown →
    (∀ character ∈ front, Text.isBlank character = true) →
    (∀ character ∈ left, Text.isAsciiBlank character = true) →
    (∀ character ∈ right, Text.isAsciiBlank character = true) →
    (∀ character ∈ back, Text.isBlank character = true) →
    ofText? (String.ofList (front ++ ['\x7b'] ++ (left ++ (shown ++ right) ++ '\x7d' :: back))) =
      .ok guid
  printed : ∀ text, ofText? text = .ok guid → (upperDigits text).length = 32 ∧
    guid.toText.toList = grouped (upperDigits text)
  same : ∀ text other otherGuid, ofText? text = .ok guid → ofText? other = .ok otherGuid →
    (guid = otherGuid ↔ upperDigits text = upperDigits other)

theorem upperDigits_of_ofText? (accepted : ofText? text = .ok guid) :
    upperDigits text = guid.textDigits.map Text.upperDigit := by
  rcases exists_surrounds text.toList with ⟨front, back, surrounds, split⟩
  have has : HasContent text (unwrap text.toList) := ⟨front, back, surrounds, split⟩
  rw [upperDigits_eq, has.digits_toList, (has.ofText?_eq_ok_iff.mp accepted).2]

theorem isPrintedAsRead (guid : Guid) : IsPrintedAsRead guid where
  letters := ⟨isTextOf_toText guid, isTextOf_toLower guid⟩
  readBack := by
    intro shown front back isText before behind
    apply ofText?_of_surrounds (isText.surrounds before behind)
    · exact not_isForeign_of_isTextOf isText
    · exact isText.digits_eq
  readInBraces := by
    intro shown front left right back isText before leftBlank rightBlank behind
    have passed {blanks : List Char}
        (blank : ∀ character ∈ blanks, Text.isAsciiBlank character = true) :
        ∀ character ∈ blanks, isForeign character = false := by
      intro character member
      apply isForeign_of_isSeparator
      rw [isSeparator, blank character member, Bool.or_true]
    have none {blanks : List Char}
        (blank : ∀ character ∈ blanks, Text.isAsciiBlank character = true) : digits blanks = [] :=
      digits_of_isBlank fun character member =>
        Text.isBlank_of_isAsciiBlank (blank character member)
    apply ofText?_of_surrounds (.braces before behind)
    · intro character member
      rcases List.mem_append.mp member with member | member
      · exact passed leftBlank character member
      · rcases List.mem_append.mp member with member | member
        · exact not_isForeign_of_isTextOf isText character member
        · exact passed rightBlank character member
    · rw [digits_append, digits_append, none leftBlank, none rightBlank, List.nil_append,
        List.append_nil]
      exact isText.digits_eq
  printed := by
    intro text accepted
    rw [upperDigits_of_ofText? accepted, toList_toText, List.length_map, length_textDigits]
    exact ⟨rfl, rfl⟩
  same := by
    intro text other otherGuid accepted otherAccepted
    rw [upperDigits_of_ofText? accepted, upperDigits_of_ofText? otherAccepted]
    constructor
    · intro equal
      rw [equal]
    · intro equal
      apply textDigits_injective
      have values := congrArg digits equal
      rwa [digits_map_upperDigit fun _ => lt_of_mem_textDigits,
        digits_map_upperDigit fun _ => lt_of_mem_textDigits] at values

end FirmwareCapsule.Guid
