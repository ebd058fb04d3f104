import FirmwareCapsule.Guid.Text

namespace FirmwareCapsule.Guid

/-! Which texts are read as a GUID, and as which one. A text is its content with blanks and
perhaps braces around it. The content alone decides, and in it only the digits count once no
character is foreign. -/

variable {front content back characters : List Char}

/-! ## The content of a text -/

/-- What may stand around the content of a text: blanks, and inside them one pair of braces.
Without that pair, the content has no blank at its ends and no braces either. -/
inductive Surrounds : List Char → List Char → List Char → Prop
  | braces {front content back : List Char}
      (before : ∀ character ∈ front, Text.isBlank character = true)
      (behind : ∀ character ∈ back, Text.isBlank character = true) :
      Surrounds (front ++ ['\x7b']) content ('\x7d' :: back)
  | blanks {front content back : List Char}
      (before : ∀ character ∈ front, Text.isBlank character = true)
      (behind : ∀ character ∈ back, Text.isBlank character = true)
      (trimmed : Text.IsTrimmed content)
      (bare : ∀ inner, content ≠ '\x7b' :: (inner ++ ['\x7d'])) :
      Surrounds front content back

theorem unwrap_of_braces {inner : List Char}
    (trimmed : Text.trim characters = '\x7b' :: (inner ++ ['\x7d'])) :
    unwrap characters = inner := by
  rw [unwrap, trimmed]
  simp only [List.getLast?_concat, if_true, List.dropLast_concat]

theorem unwrap_of_bare
    (bare : ∀ inner, Text.trim characters ≠ '\x7b' :: (inner ++ ['\x7d'])) :
    unwrap characters = Text.trim characters := by
  rw [unwrap]
  split
  · next inner opened =>
    split
    · next closed =>
      obtain ⟨content, rfl⟩ := List.getLast?_eq_some_iff.mp closed
      exact absurd opened (bare content)
    · rfl
  · rfl

theorem isTrimmed_braces (inner : List Char) :
    Text.IsTrimmed ('\x7b' :: (inner ++ ['\x7d'])) where
  first := by
    rintro character ⟨⟩
    decide
  last := by
    rw [← List.cons_append, List.getLast?_concat]
    rintro character ⟨⟩
    decide

theorem Surrounds.unwrap_eq (surrounds : Surrounds front content back) :
    unwrap (front ++ (content ++ back)) = content := by
  cases surrounds with
  | @braces front content back before behind =>
    refine unwrap_of_braces ?_
    rw [← Text.trim_append before behind (isTrimmed_braces content)]
    simp only [List.append_assoc, List.cons_append, List.nil_append]
  | blanks before behind trimmed bare =>
    have left := Text.trim_append before behind trimmed
    rw [← left] at bare
    rw [unwrap_of_bare bare, left]

theorem exists_surrounds (characters : List Char) :
    ∃ front back, Surrounds front (unwrap characters) back ∧
      characters = front ++ (unwrap characters ++ back) := by
  obtain ⟨front, back, before, behind, trimmed, split⟩ := Text.exists_trim characters
  by_cases wrapped : ∃ inner, Text.trim characters = '\x7b' :: (inner ++ ['\x7d'])
  · obtain ⟨inner, wrapped⟩ := wrapped
    refine ⟨front ++ ['\x7b'], '\x7d' :: back, .braces before behind, ?_⟩
    rw [unwrap_of_braces wrapped]
    rw [wrapped] at split
    rw [split]
    simp only [List.append_assoc, List.cons_append, List.nil_append]
  · have bare := not_exists.mp wrapped
    rw [unwrap_of_bare bare]
    exact ⟨front, back, .blanks before behind trimmed bare, split⟩

theorem Surrounds.between {first last : Char} {inner : List Char}
    (surrounds : Surrounds front (first :: (inner ++ [last])) back) (other : List Char) :
    Surrounds front (first :: (other ++ [last])) back := by
  cases surrounds with
  | braces before behind => exact .braces before behind
  | blanks before behind trimmed bare =>
    refine .blanks before behind ⟨trimmed.first, ?_⟩ ?_
    · have ending := trimmed.last
      rw [← List.cons_append, List.getLast?_concat] at ending ⊢
      exact ending
    · intro wrapped equal
      obtain ⟨opened, rest⟩ := List.cons.inj equal
      obtain ⟨-, closed⟩ := List.append_inj' rest rfl
      exact bare inner (by rw [opened, closed])

/-! ## Digits and bytes -/

def digitsOfByte (byte : UInt8) : List Nat :=
  [byte.toNat / 16, byte.toNat % 16]

theorem joinDigits_flatMap_digitsOfByte (bytes : Bytes) :
    joinDigits (bytes.flatMap digitsOfByte) = bytes := by
  induction bytes with
  | nil => rfl
  | cons byte rest hypothesis =>
    have whole : UInt8.ofNat (16 * (byte.toNat / 16) + byte.toNat % 16) = byte := by
      rw [Nat.div_add_mod, UInt8.ofNat_toNat]
    rw [List.flatMap_cons, digitsOfByte, List.cons_append, List.cons_append, List.nil_append,
      joinDigits, hypothesis, whole]

theorem digitsOfByte_ofNat {high low : Nat} (highBound : high < 16) (lowBound : low < 16) :
    digitsOfByte (UInt8.ofNat (16 * high + low)) = [high, low] := by
  have small : (16 * high + low) % 256 = 16 * high + low := by omega
  rw [digitsOfByte, UInt8.toNat_ofNat', small]
  congr 1
  · omega
  · congr 1
    omega

theorem flatMap_digitsOfByte_joinDigits : ∀ {digits : List Nat},
    (∀ digit ∈ digits, digit < 16) → digits.length % 2 = 0 →
      (joinDigits digits).flatMap digitsOfByte = digits
  | [], _, _ => rfl
  | [_], _, even => absurd even Nat.one_ne_zero
  | high :: low :: rest, bounded, even => by
    have highBound : high < 16 := bounded high List.mem_cons_self
    have lowBound : low < 16 := bounded low (List.mem_cons_of_mem _ List.mem_cons_self)
    have laterBound : ∀ digit ∈ rest, digit < 16 :=
      fun digit member => bounded digit (List.mem_cons_of_mem _ (List.mem_cons_of_mem _ member))
    have laterEven : rest.length % 2 = 0 := by
      simp only [List.length_cons] at even
      omega
    rw [joinDigits, List.flatMap_cons, digitsOfByte_ofNat highBound lowBound,
      flatMap_digitsOfByte_joinDigits laterBound laterEven]
    rfl

/-- The bytes of a GUID in the order of its headers, each by its place in the text. -/
def textOrder : List (Fin 16) :=
  [3, 2, 1, 0, 5, 4, 7, 6, 8, 9, 10, 11, 12, 13, 14, 15]

theorem turnGroups_ofFn (byte : Fin 16 → UInt8) :
    turnGroups (List.ofFn byte) = textOrder.map byte := by
  rfl

theorem lt_of_mem_flatMap_digitsOfByte {bytes : Bytes} {digit : Nat}
    (member : digit ∈ bytes.flatMap digitsOfByte) : digit < 16 := by
  rcases List.mem_flatMap.mp member with ⟨byte, -, digit⟩
  have bound := byte.toNat_lt
  simp only [digitsOfByte, List.mem_cons, List.not_mem_nil, or_false] at digit
  omega

theorem length_flatMap_digitsOfByte (bytes : Bytes) :
    (bytes.flatMap digitsOfByte).length = 2 * bytes.length := by
  induction bytes with
  | nil => rfl
  | cons byte rest hypothesis =>
    rw [List.flatMap_cons, List.length_append, hypothesis, List.length_cons]
    simp only [digitsOfByte, List.length_cons, List.length_nil]
    omega

theorem exists_bytes_of_digits {digits : List Nat} (bounded : ∀ digit ∈ digits, digit < 16)
    (count : digits.length = digitCount) :
    ∃ byte : Fin 16 → UInt8, digits = (List.ofFn byte).flatMap digitsOfByte := by
  have even : digits.length % 2 = 0 := by rw [count, digitCount]
  have pairs := flatMap_digitsOfByte_joinDigits bounded even
  have sixteen : (joinDigits digits).length = 16 := by
    have sizes := length_flatMap_digitsOfByte (joinDigits digits)
    rw [pairs, count, digitCount] at sizes
    omega
  rw [← pairs]
  generalize joinDigits digits = bytes at sixteen
  rw [← sixteen]
  exact ⟨fun place => bytes[place], congrArg _ List.ofFn_getElem.symm⟩

theorem ofDigits?_flatMap_digitsOfByte (byte : Fin 16 → UInt8) :
    ofDigits? ((List.ofFn byte).flatMap digitsOfByte) = some ⟨⟨textOrder.map byte, rfl⟩⟩ := by
  have count : ((List.ofFn byte).flatMap digitsOfByte).length = digitCount := by
    rw [length_flatMap_digitsOfByte, List.length_ofFn, digitCount]
  rw [ofDigits?, if_pos count, joinDigits_flatMap_digitsOfByte, turnGroups_ofFn]
  rfl

/-! ## Reading -/

theorem isForeign_of_isSeparator {character : Char} (separator : isSeparator character = true) :
    isForeign character = false := by
  rw [isForeign, separator]
  rfl

theorem hexDigit?_of_isSeparator {character : Char} (separator : isSeparator character = true) :
    Text.hexDigit? character = none := by
  simp only [isSeparator, Text.isAsciiBlank, Bool.or_eq_true, decide_eq_true_eq] at separator
  rcases separator with rfl | (((rfl | rfl) | rfl) | rfl) | rfl <;> rfl

theorem digit_lt_of_mem_digits {digit : Nat} (member : digit ∈ digits content) : digit < 16 := by
  obtain ⟨character, -, value⟩ := List.mem_filterMap.mp member
  exact (Text.hexDigit?_eq_some_iff.mp value).1

/-- A fault without its position, which depends on what surrounds the content as well. -/
def TextFault.unplaced : TextFault → TextFault
  | foreignCharacter _ character => foreignCharacter 0 character
  | digitCount found => digitCount found

def ofContent? (content : List Char) : Except TextFault Guid :=
  match content.find? isForeign with
  | some character => .error (.foreignCharacter 0 character)
  | none =>
      match ofDigits? (digits content) with
      | some guid => .ok guid
      | none => .error (.digitCount (digits content).length)

theorem mapError_ofCharacters? (characters : List Char) :
    (ofCharacters? characters).mapError TextFault.unplaced = ofContent? (unwrap characters) := by
  rw [ofCharacters?, ofContent?]
  cases found : (unwrap characters).find? isForeign with
  | none =>
    have unplaced : (unwrap characters).findIdx? isForeign = none := by
      rw [List.findIdx?_eq_none_iff]
      exact fun character member => Bool.eq_false_iff.mpr (List.find?_eq_none.mp found _ member)
    rw [unplaced]
    cases ofDigits? (digits (unwrap characters)) with
    | none => rfl
    | some guid => rfl
  | some character =>
    have placed : ((unwrap characters).findIdx? isForeign).isSome = true := by
      rw [List.findIdx?_isSome, List.any_eq_true]
      exact ⟨character, List.mem_of_find?_eq_some found, List.find?_some found⟩
    obtain ⟨index, placed⟩ := Option.isSome_iff_exists.mp placed
    rw [placed]
    rfl

theorem ofContent?_filter (content : List Char) :
    ofContent? (content.filter fun character => !isSeparator character) = ofContent? content := by
  have sameForeign : (content.filter fun character => !isSeparator character).find? isForeign =
      content.find? isForeign := by
    rw [List.find?_filter]
    congr 1
    funext character
    cases separator : isSeparator character with
    | true => rw [isForeign_of_isSeparator separator]; rfl
    | false => simp only [Bool.not_false, true_and, Bool.decide_eq_true]
  have sameDigits :
      digits (content.filter fun character => !isSeparator character) = digits content := by
    rw [digits, List.filterMap_filter, digits]
    congr 1
    funext character
    cases separator : isSeparator character with
    | true => rw [hexDigit?_of_isSeparator separator]; rfl
    | false => rfl
  rw [ofContent?, ofContent?, sameForeign, sameDigits]

inductive IsReading (content : List Char) : Except TextFault Guid → Prop
  | foreign {position : Nat} {known rest : List Char} {character : Char}
      (split : content = known ++ character :: rest)
      (first : ∀ earlier ∈ known, isForeign earlier = false)
      (unknown : isForeign character = true) :
      IsReading content (.error (.foreignCharacter position character))
  | miscounted (known : ∀ character ∈ content, isForeign character = false)
      (count : (digits content).length ≠ 32) :
      IsReading content (.error (.digitCount (digits content).length))
  | accepted {guid : Guid} {byte : Fin 16 → UInt8}
      (known : ∀ character ∈ content, isForeign character = false)
      (value : digits content = (List.ofFn byte).flatMap digitsOfByte)
      (named : guid.bytes = textOrder.map byte) :
      IsReading content (.ok guid)

theorem isReading_of_mapError {result : Except TextFault Guid}
    (outcome : result.mapError TextFault.unplaced = ofContent? content) :
    IsReading content result := by
  rw [ofContent?] at outcome
  cases found : content.find? isForeign with
  | some character =>
    obtain ⟨unknown, known, rest, split, first⟩ := List.find?_eq_some_iff_append.mp found
    rw [found] at outcome
    match result, outcome with
    | .error (.foreignCharacter position _), rfl =>
      exact .foreign split (fun earlier member => by simpa using first earlier member) unknown
  | none =>
    have known : ∀ character ∈ content, isForeign character = false :=
      fun character member => Bool.eq_false_iff.mpr (List.find?_eq_none.mp found _ member)
    rw [found] at outcome
    by_cases count : (digits content).length = digitCount
    · obtain ⟨byte, value⟩ := exists_bytes_of_digits (fun _ => digit_lt_of_mem_digits) count
      rw [value, ofDigits?_flatMap_digitsOfByte] at outcome
      match result, outcome with
      | .ok _, rfl => exact .accepted known value rfl
    · rw [ofDigits?, if_neg count] at outcome
      match result, outcome with
      | .error (.digitCount _), rfl => exact .miscounted known count

/-! ## Texts -/

def HasContent (text : String) (content : List Char) : Prop :=
  ∃ front back, Surrounds front content back ∧ text.toList = front ++ (content ++ back)

theorem HasContent.unwrap_eq {text : String} (has : HasContent text content) :
    unwrap text.toList = content := by
  obtain ⟨front, back, surrounds, split⟩ := has
  rw [split, surrounds.unwrap_eq]

theorem HasContent.mapError_ofText? {text : String} (has : HasContent text content) :
    (ofText? text).mapError TextFault.unplaced = ofContent? content := by
  rw [ofText?, mapError_ofCharacters?, has.unwrap_eq]

/-- Two texts that differ at most in separators behind the first and in front of the last
character of their contents. -/
def DifferInSeparators (text other : String) : Prop :=
  ∃ front first inner otherInner last back,
    Surrounds front (first :: (inner ++ [last])) back ∧
    text.toList = front ++ (first :: (inner ++ [last]) ++ back) ∧
    other.toList = front ++ (first :: (otherInner ++ [last]) ++ back) ∧
    inner.filter (fun character => !isSeparator character) =
      otherInner.filter fun character => !isSeparator character

theorem DifferInSeparators.mapError_ofText? {text other : String}
    (differ : DifferInSeparators text other) :
    (ofText? text).mapError TextFault.unplaced = (ofText? other).mapError TextFault.unplaced := by
  obtain ⟨front, first, inner, otherInner, last, back, surrounds, split, otherSplit, same⟩ := differ
  have has : HasContent text (first :: (inner ++ [last])) := ⟨front, back, surrounds, split⟩
  have otherHas : HasContent other (first :: (otherInner ++ [last])) :=
    ⟨front, back, surrounds.between otherInner, otherSplit⟩
  have sameRest : (first :: (inner ++ [last])).filter (fun character => !isSeparator character) =
      (first :: (otherInner ++ [last])).filter fun character => !isSeparator character := by
    rw [List.filter_cons, List.filter_cons, List.filter_append, List.filter_append, same]
  rw [has.mapError_ofText?, otherHas.mapError_ofText?, ← ofContent?_filter, sameRest,
    ofContent?_filter]

/-- Whatever the position of a foreign character is, it does not decide what is accepted. -/
theorem eq_ok_iff_of_mapError {result other : Except TextFault Guid}
    (same : result.mapError TextFault.unplaced = other.mapError TextFault.unplaced) (guid : Guid) :
    result = .ok guid ↔ other = .ok guid := by
  have kept : ∀ outcome : Except TextFault Guid,
      outcome.mapError TextFault.unplaced = .ok guid ↔ outcome = .ok guid
    | .ok _ => Iff.rfl
    | .error _ => ⟨nofun, nofun⟩
  rw [← kept result, ← kept other, same]

structure IsReadByContent (text : String) : Prop where
  surrounded : ∃ content, HasContent text content ∧
    ∀ other, HasContent text other → other = content
  reading : ∀ content, HasContent text content → IsReading content (ofText? text)
  alone : ∀ other content, HasContent text content → HasContent other content →
    (ofText? text).mapError TextFault.unplaced = (ofText? other).mapError TextFault.unplaced
  separators : ∀ other, DifferInSeparators text other → ∀ guid,
    ofText? text = .ok guid ↔ ofText? other = .ok guid

theorem isReadByContent (text : String) : IsReadByContent text where
  surrounded := by
    obtain ⟨front, back, surrounds, split⟩ := exists_surrounds text.toList
    exact ⟨unwrap text.toList, ⟨front, back, surrounds, split⟩, fun other has => has.unwrap_eq.symm⟩
  reading := fun content has => isReading_of_mapError has.mapError_ofText?
  alone := fun other content has otherHas =>
    has.mapError_ofText?.trans otherHas.mapError_ofText?.symm
  separators := fun other differ => eq_ok_iff_of_mapError differ.mapError_ofText?

example : ofText? "\u3000\x7b6DCBD5ED e82d-4c44 BDA1 7194199ad92a\x7d " =
    .ok (ofGroups 0x6dcbd5ed 0xe82d 0x4c44 0xbda1 0x7194199ad92a) := by rfl

end FirmwareCapsule.Guid
