namespace FirmwareCapsule

/-! Byte strings, and blocks: byte strings whose size is part of their type.
A block is what a fixed field of a header holds, so that a field of the wrong
size cannot be built. -/

abbrev Bytes := List UInt8

theorem take_eq_take_of_agree {left right : Bytes} {size : Nat}
    (agree : ∀ position < size, left[position]? = right[position]?) :
    left.take size = right.take size := by
  apply List.ext_getElem?
  intro position
  by_cases inside : position < size
  · rw [List.getElem?_take_of_lt inside, List.getElem?_take_of_lt inside]
    exact agree position inside
  · have outside := Nat.not_lt.mp inside
    rw [List.getElem?_take_eq_none outside, List.getElem?_take_eq_none outside]

theorem extract_middle {front middle rest : Bytes} {start stop : Nat}
    (starts : front.length = start) (stops : start + middle.length = stop) :
    (front ++ (middle ++ rest)).extract start stop = middle := by
  rw [List.extract_eq_take_drop, List.drop_left' starts]
  exact List.take_left' (by omega)

theorem eq_append_of_extract {bytes middle : Bytes} {start stop : Nat} (ordered : start ≤ stop)
    (cut : bytes.extract start stop = middle) :
    bytes = bytes.take start ++ (middle ++ bytes.drop stop) := by
  have behind : (bytes.drop start).drop (stop - start) = bytes.drop stop := by
    rw [List.drop_drop, Nat.add_sub_cancel' ordered]
  rw [← cut, List.extract_eq_take_drop, ← behind, List.take_append_drop, List.take_append_drop]

structure Block (size : Nat) where
  bytes : Bytes
  length_bytes : bytes.length = size
deriving DecidableEq

namespace Block

@[ext] theorem ext {size : Nat} {left right : Block size}
    (equal : left.bytes = right.bytes) : left = right := by
  cases left
  cases right
  simpa using equal

def ofBytes? (size : Nat) (bytes : Bytes) : Option (Block size) :=
  if fits : bytes.length = size then some ⟨bytes, fits⟩ else none

theorem ofBytes?_eq_some_iff {size : Nat} {bytes : Bytes} {block : Block size} :
    ofBytes? size bytes = some block ↔ block.bytes = bytes := by
  unfold ofBytes?
  split
  · rename_i fits
    constructor
    · intro equal
      cases equal
      rfl
    · intro equal
      exact congrArg some (ext equal.symm)
  · rename_i fits
    constructor
    · intro equal
      cases equal
    · intro equal
      exact absurd (equal ▸ block.length_bytes) fits

theorem ofBytes?_eq_none_iff {size : Nat} {bytes : Bytes} :
    ofBytes? size bytes = none ↔ bytes.length ≠ size := by
  unfold ofBytes?
  split <;> simp_all

@[simp] theorem ofBytes?_bytes {size : Nat} (block : Block size) :
    ofBytes? size block.bytes = some block :=
  ofBytes?_eq_some_iff.mpr rfl

def zero (size : Nat) : Block size :=
  ⟨List.replicate size 0, List.length_replicate⟩

def append {leftSize rightSize : Nat} (left : Block leftSize) (right : Block rightSize) :
    Block (leftSize + rightSize) :=
  ⟨left.bytes ++ right.bytes, by
    rw [List.length_append, left.length_bytes, right.length_bytes]⟩

def left {leftSize rightSize : Nat} (block : Block (leftSize + rightSize)) : Block leftSize :=
  ⟨block.bytes.take leftSize, by
    rw [List.length_take, block.length_bytes]
    omega⟩

def right {leftSize rightSize : Nat} (block : Block (leftSize + rightSize)) : Block rightSize :=
  ⟨block.bytes.drop leftSize, by
    rw [List.length_drop, block.length_bytes]
    omega⟩

@[simp] theorem left_append {leftSize rightSize : Nat} (left : Block leftSize)
    (right : Block rightSize) : (left.append right).left = left :=
  ext (List.take_left' left.length_bytes)

@[simp] theorem right_append {leftSize rightSize : Nat} (left : Block leftSize)
    (right : Block rightSize) : (left.append right).right = right :=
  ext (List.drop_left' left.length_bytes)

@[simp] theorem append_left_right {leftSize rightSize : Nat}
    (block : Block (leftSize + rightSize)) : block.left.append block.right = block :=
  ext (List.take_append_drop leftSize block.bytes)

end Block

end FirmwareCapsule
