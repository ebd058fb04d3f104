import FirmwareCapsule.Bytes.Layout
import FirmwareCapsule.Traced

namespace FirmwareCapsule

/-! Decoding on a machine whose sizes have 64 bits. A sum that is no size, a difference
below zero and a slice that is not inside its buffer stop the machine. That is a trap: it
is neither a value nor a refusal. A decoder in terms of these operations is safe if it
ends in no trap, and right if it ends as the decoder on byte strings does. -/

inductive Trap where
  /-- A sum or difference that is not a size. -/
  | overflow
  /-- An index or slice that is not inside, or a copy between different lengths. -/
  | outside
deriving DecidableEq

abbrev Checked (α : Type) := ExceptT Fault (Except Trap) α

namespace Checked

variable {α β γ : Type}

def trap (reason : Trap) : Checked α :=
  ExceptT.mk (.error reason)

def refuse (fault : Fault) : Checked α :=
  ExceptT.mk (.ok (.error fault))

def ofLogged (operation : Logged α) : Checked α :=
  ExceptT.mk (.ok operation.outcome)

def orTrap (reason : Trap) : Option α → Checked α
  | some value => pure value
  | none => trap reason

/-! ## Operations of the machine -/

def add? (left right : Nat) : Option Nat :=
  if left + right < UInt64.size then some (left + right) else none

def subtract? (left right : Nat) : Option Nat :=
  if right ≤ left then some (left - right) else none

def add (left right : Nat) : Checked Nat :=
  orTrap .overflow (add? left right)

def subtract (left right : Nat) : Checked Nat :=
  orTrap .overflow (subtract? left right)

def slice (buffer : Bytes) (start stop : Nat) : Checked Bytes :=
  if start ≤ stop ∧ stop ≤ buffer.length then pure (buffer.extract start stop) else trap .outside

def entry (values : List α) (index : Nat) : Checked α :=
  orTrap .outside values[index]?

theorem add?_of_lt {left right : Nat} (inRange : left + right < UInt64.size) :
    add? left right = some (left + right) :=
  if_pos inRange

theorem subtract?_of_le {left right : Nat} (ordered : right ≤ left) :
    subtract? left right = some (left - right) :=
  if_pos ordered

theorem subtract?_of_lt {left right : Nat} (below : left < right) :
    subtract? left right = none :=
  if_neg (Nat.not_le.mpr below)

theorem add_of_lt {left right : Nat} (inRange : left + right < UInt64.size) :
    add left right = pure (left + right) := by
  rw [add, add?_of_lt inRange]
  rfl

theorem subtract_of_le {left right : Nat} (ordered : right ≤ left) :
    subtract left right = pure (left - right) := by
  rw [subtract, subtract?_of_le ordered]
  rfl

theorem slice_of_le {buffer : Bytes} {start stop : Nat} (ordered : start ≤ stop)
    (inside : stop ≤ buffer.length) : slice buffer start stop = pure (buffer.extract start stop) :=
  if_pos ⟨ordered, inside⟩

theorem slice_to_end {buffer : Bytes} {start : Nat} (inside : start ≤ buffer.length) :
    slice buffer start buffer.length = pure (buffer.drop start) := by
  rw [slice_of_le inside (Nat.le_refl _), List.extract_eq_take_drop, ← List.length_drop,
    List.take_length]

theorem slice_middle {front middle rest : Bytes} {start stop : Nat}
    (starts : front.length = start) (stops : start + middle.length = stop) :
    slice (front ++ (middle ++ rest)) start stop = pure middle := by
  rw [slice_of_le (by omega) (by simp only [List.length_append]; omega),
    extract_middle starts stops]

/-! ## Operations without traps -/

@[simp] theorem refuse_bind (fault : Fault) (next : α → Checked β) :
    refuse fault >>= next = refuse fault := rfl

@[simp] theorem ofLogged_pure (value : α) : ofLogged (pure value) = pure value := rfl

@[simp] theorem ofLogged_refuse (fault : Fault) :
    ofLogged (Traced.refuse fault : Logged α) = refuse fault := rfl

@[simp] theorem ofLogged_reject (source : Log.Source) (text : String) (fault : Fault) :
    ofLogged (Logged.reject source text fault : Logged α) = refuse fault := rfl

theorem ofLogged_congr {left right : Logged α} (same : left.outcome = right.outcome) :
    ofLogged left = ofLogged right := by
  rw [ofLogged, ofLogged, same]

@[simp] theorem ofLogged_debug_bind (source : Log.Source) (text : String)
    (next : Unit → Logged α) : ofLogged (Logged.debug source text >>= next) = ofLogged (next ()) :=
  ofLogged_congr (Logged.outcome_debug_bind source text next)

@[simp] theorem ofLogged_warn_bind (source : Log.Source) (text : String)
    (next : Unit → Logged α) : ofLogged (Logged.warn source text >>= next) = ofLogged (next ()) :=
  ofLogged_congr (Logged.outcome_warn_bind source text next)

theorem ofLogged_of_ok {operation : Logged α} {value : α}
    (done : operation.outcome = .ok value) : ofLogged operation = pure value := by
  rw [ofLogged, done]
  rfl

theorem ofLogged_of_error {operation : Logged α} {fault : Fault}
    (refused : operation.outcome = .error fault) : ofLogged operation = refuse fault := by
  rw [ofLogged, refused]
  rfl

theorem ofLogged_bind {operation : Logged α} {next : α → Checked β} {rest : α → Logged β}
    (same : ∀ value, operation.outcome = .ok value → next value = ofLogged (rest value)) :
    ofLogged operation >>= next = ofLogged (operation >>= rest) := by
  cases outcome : operation.outcome with
  | error fault =>
      rw [ofLogged_of_error outcome, refuse_bind,
        ofLogged_of_error (Traced.outcome_bind_of_error outcome rest)]
  | ok value =>
      rw [ofLogged_of_ok outcome, pure_bind, same value outcome]
      exact ofLogged_congr (Traced.outcome_bind_of_ok outcome rest).symm

/-! ## Reading fields -/

structure Reading (α : Type) where
  value : α
  stop : Nat

def readAt (layout : Layout α) (buffer : Bytes) (position : Nat) : Checked (Reading α) := do
  if buffer.length ≤ position then
    refuse .fieldCutShort
  else
    let rest ← slice buffer position buffer.length
    if rest.length < layout.width then
      refuse .fieldCutShort
    else
      let bytes ← slice rest 0 layout.width
      let block ← orTrap .outside (Block.ofBytes? layout.width bytes)
      let stop ← add position layout.width
      return ⟨layout.read block, stop⟩

variable {layout : Layout α} {buffer : Bytes} {position : Nat}

theorem readAt_of_short (short : buffer.length ≤ position ∨
    buffer.length < position + layout.width) :
    readAt layout buffer position = refuse .fieldCutShort := by
  rw [readAt]
  split
  · rfl
  · rename_i inside
    rw [slice_to_end (by omega), pure_bind, List.length_drop, if_pos (by omega)]

theorem readAt_of_drop {value : α} {rest : Bytes} (fits : buffer.length < UInt64.size)
    (positive : 0 < layout.width) (here : buffer.drop position = layout.encode value ++ rest) :
    readAt layout buffer position = pure ⟨value, position + layout.width⟩ := by
  have size := congrArg List.length here
  rw [List.length_drop, List.length_append, Layout.length_encode] at size
  have cut : slice ([] ++ (layout.encode value ++ rest)) 0 layout.width =
      pure (layout.encode value) :=
    slice_middle List.length_nil (by rw [Layout.length_encode, Nat.zero_add])
  rw [List.nil_append] at cut
  rw [readAt, if_neg (by omega), slice_to_end (by omega), pure_bind, here, cut, pure_bind,
    if_neg (by rw [List.length_append, Layout.length_encode]; omega), add_of_lt (by omega)]
  change (orTrap .outside (Block.ofBytes? layout.width (layout.write value).bytes) >>= _) = _
  rw [Block.ofBytes?_bytes]
  change (pure (layout.write value) >>= _) = _
  rw [pure_bind, pure_bind, layout.read_write]

theorem drop_of_drop {value : α} {rest : Bytes}
    (here : buffer.drop position = layout.encode value ++ rest) :
    buffer.drop (position + layout.width) = rest := by
  rw [← List.drop_drop, here, List.drop_left' (layout.length_encode value)]

theorem readAt_cases (layout : Layout α) (position : Nat) (fits : buffer.length < UInt64.size)
    (positive : 0 < layout.width) :
    (buffer.length < position + layout.width ∧
      readAt layout buffer position = refuse .fieldCutShort ∧
      layout.take? (buffer.drop position) = none) ∨
    (position + layout.width ≤ buffer.length ∧ ∃ value,
      readAt layout buffer position = pure ⟨value, position + layout.width⟩ ∧
      layout.take? (buffer.drop position) =
        some (value, buffer.drop (position + layout.width))) := by
  by_cases long : position + layout.width ≤ buffer.length
  · have enough : layout.width ≤ (buffer.drop position).length := by
      rw [List.length_drop]
      omega
    rcases layout.exists_encode_append enough with ⟨value, behind, here⟩
    refine .inr ⟨long, value, readAt_of_drop fits positive here, ?_⟩
    rw [drop_of_drop here, here, Layout.take?_encode_append]
  · have short := Nat.not_le.mp long
    refine .inl ⟨short, readAt_of_short (.inr short), ?_⟩
    rw [Layout.take?_eq_none_iff, List.length_drop]
    omega

theorem readAt_bind_of_short {next : Reading α → Checked β} (fits : buffer.length < UInt64.size)
    (positive : 0 < layout.width)
    (short : ∀ value, position + layout.width ≤ buffer.length →
      next ⟨value, position + layout.width⟩ = refuse .fieldCutShort) :
    readAt layout buffer position >>= next = refuse .fieldCutShort := by
  rcases readAt_cases layout position fits positive with
    ⟨_, refused, _⟩ | ⟨long, value, found, _⟩
  · rw [refused, refuse_bind]
  · rw [found, pure_bind, short value long]

theorem readAt_bind_congr {next other : Reading α → Checked β}
    (fits : buffer.length < UInt64.size) (positive : 0 < layout.width)
    (same : ∀ value, position + layout.width ≤ buffer.length →
      next ⟨value, position + layout.width⟩ = other ⟨value, position + layout.width⟩) :
    readAt layout buffer position >>= next = readAt layout buffer position >>= other := by
  rcases readAt_cases layout position fits positive with
    ⟨_, refused, _⟩ | ⟨long, value, found, _⟩
  · rw [refused, refuse_bind, refuse_bind]
  · rw [found, pure_bind, pure_bind, same value long]

theorem readAt_bind_eq {next : Reading α → Checked β} {rest : α × Bytes → Logged β}
    (fits : buffer.length < UInt64.size) (positive : 0 < layout.width)
    (same : ∀ value, position + layout.width ≤ buffer.length →
      next ⟨value, position + layout.width⟩ =
        ofLogged (rest (value, buffer.drop (position + layout.width)))) :
    readAt layout buffer position >>= next =
      ofLogged (Traced.require .fieldCutShort (layout.take? (buffer.drop position)) >>= rest) := by
  rcases readAt_cases layout position fits positive with
    ⟨_, refused, cutShort⟩ | ⟨long, value, found, taken⟩
  · rw [refused, cutShort]
    rfl
  · rw [found, taken, pure_bind, same value long, Traced.require_some, pure_bind]

/-- Bytes that are passed over may as well be read, as long as something is read behind
them. -/
theorem skip_readAt {size : Nat} {next : Reading α → Checked β}
    (fits : buffer.length < UInt64.size) (filled : 0 < size)
    (inRange : position + size < UInt64.size) :
    (do
      let stop ← add position size
      let reading ← readAt layout buffer stop
      next reading) =
    (do
      let skipped ← readAt (Layout.block size) buffer position
      let reading ← readAt layout buffer skipped.stop
      next reading) := by
  rw [add_of_lt inRange, pure_bind]
  rcases readAt_cases (Layout.block size) position fits filled with
    ⟨short, refused, _⟩ | ⟨_, value, found, _⟩
  · have outside : buffer.length ≤ position + size := Nat.le_of_lt short
    rw [refused, refuse_bind, readAt_of_short (.inl outside), refuse_bind]
  · rw [found, pure_bind]
    rfl

/-! ## Reading records field by field -/

theorem readAt_equivalent (forward : α → β) (backward : β → α)
    (backward_forward : ∀ value, backward (forward value) = value)
    (forward_backward : ∀ value, forward (backward value) = value) :
    readAt (layout.equivalent forward backward backward_forward forward_backward) buffer position =
      (do
        let reading ← readAt layout buffer position
        return ⟨forward reading.value, reading.stop⟩) := by
  rw [readAt, readAt]
  split
  · rfl
  · rw [bind_assoc]
    congr
    funext rest
    change (if rest.length < layout.width then _ else _) = _
    split
    · rfl
    · simp only [bind_assoc, pure_bind]
      rfl

theorem readAt_pair {right : Layout β} (fits : buffer.length < UInt64.size)
    (positive : 0 < layout.width) (rightPositive : 0 < right.width) :
    readAt (layout.pair right) buffer position =
      (do
        let first ← readAt layout buffer position
        let second ← readAt right buffer first.stop
        return ⟨(first.value, second.value), second.stop⟩) := by
  by_cases long : position + (layout.width + right.width) ≤ buffer.length
  · have enough : (layout.pair right).width ≤ (buffer.drop position).length := by
      rw [List.length_drop, Layout.width_pair]
      omega
    rcases (layout.pair right).exists_encode_append enough with ⟨value, rest, here⟩
    have both : 0 < (layout.pair right).width := Nat.add_pos_left positive _
    rw [readAt_of_drop fits both here]
    rw [Layout.encode_pair, List.append_assoc] at here
    rw [readAt_of_drop fits positive here, pure_bind,
      readAt_of_drop fits rightPositive (drop_of_drop here), pure_bind, Nat.add_assoc]
    rfl
  · rw [readAt_of_short (.inr (by rw [Layout.width_pair]; omega))]
    symm
    apply readAt_bind_of_short fits positive
    intro first _
    apply readAt_bind_of_short fits rightPositive
    intro second inside
    rw [Nat.add_assoc] at inside
    exact absurd inside long

end Checked

end FirmwareCapsule
