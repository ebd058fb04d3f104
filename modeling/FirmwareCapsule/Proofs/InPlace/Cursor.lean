import FirmwareCapsule.Fault
import FirmwareCapsule.Proofs.InPlace.Overwriting

namespace FirmwareCapsule

/-! Buffers that are read and written in place. Whatever is done at a cursor leaves a cursor
behind, also if it is refused, so that a refusal can be shown to change nothing. -/

structure Cursor where
  buffer : Bytes
  offset : Nat
deriving DecidableEq

/-- Something that is done at a cursor. What it did before it was refused is not undone. -/
abbrev InPlace (α : Type) := EStateM Fault Cursor α

namespace InPlace

variable {α β : Type}

/-- Do something to what follows the offset, as to a buffer of its own. The offset moves by as
much as it moved there, unless it was refused. Nothing is done at the end of a buffer or past
it. -/
def behind (action : InPlace α) : InPlace α := fun cursor =>
  if cursor.offset < cursor.buffer.length then
    match action.run ⟨cursor.buffer.drop cursor.offset, 0⟩ with
    | .ok value inner =>
        .ok value ⟨cursor.buffer.take cursor.offset ++ inner.buffer, cursor.offset + inner.offset⟩
    | .error fault inner =>
        .error fault ⟨cursor.buffer.take cursor.offset ++ inner.buffer, cursor.offset⟩
  else
    .error .fieldCutShort cursor

def putFront (bytes : Bytes) : InPlace Unit := fun cursor =>
  if bytes.length ≤ cursor.buffer.length then
    .ok () ⟨bytes ++ cursor.buffer.drop bytes.length, bytes.length⟩
  else
    .error .fieldCutShort cursor

def takeFront (size : Nat) : InPlace (Block size) := fun cursor =>
  if fits : size ≤ cursor.buffer.length then
    .ok ⟨cursor.buffer.take size, List.length_take_of_le fits⟩ ⟨cursor.buffer, size⟩
  else
    .error .fieldCutShort cursor

def put (bytes : Bytes) : InPlace Unit :=
  behind (putFront bytes)

def take (size : Nat) : InPlace (Block size) :=
  behind (takeFront size)

def leaves (action : InPlace α) (cursor : Cursor) : Cursor :=
  match action.run cursor with
  | .ok _ after => after
  | .error _ after => after

def passOver (action : InPlace Unit) : InPlace Unit := fun cursor =>
  .ok () (action.leaves cursor)

def inTurn : List (InPlace Unit) → InPlace Unit
  | [] => pure ()
  | action :: actions => do
      action
      inTurn actions

theorem leaves_of_ok {action : InPlace α} {cursor after : Cursor} {value : α}
    (done : action.run cursor = .ok value after) : action.leaves cursor = after := by
  rw [leaves, done]

theorem leaves_of_error {action : InPlace α} {cursor after : Cursor} {fault : Fault}
    (refused : action.run cursor = .error fault after) : action.leaves cursor = after := by
  rw [leaves, refused]

/-! ## One thing after the other -/

section Binding

variable {σ : Type} {action : EStateM Fault σ α} {before after : σ}

theorem run_bind_of_ok {value : α} (done : action.run before = .ok value after)
    (next : α → EStateM Fault σ β) : (action >>= next).run before = (next value).run after := by
  rw [EStateM.run_bind, done]

theorem run_bind_of_error {fault : Fault} (refused : action.run before = .error fault after)
    (next : α → EStateM Fault σ β) : (action >>= next).run before = .error fault after := by
  rw [EStateM.run_bind, refused]

end Binding

/-! ## Nested buffers -/

theorem run_behind_of_le (action : InPlace α) {cursor : Cursor}
    (outside : cursor.buffer.length ≤ cursor.offset) :
    (behind action).run cursor = .error .fieldCutShort cursor :=
  if_neg (Nat.not_lt.mpr outside)

theorem run_behind_of_ok {action : InPlace α} {cursor inner : Cursor} {value : α}
    (inside : cursor.offset < cursor.buffer.length)
    (done : action.run ⟨cursor.buffer.drop cursor.offset, 0⟩ = .ok value inner) :
    (behind action).run cursor =
      .ok value ⟨cursor.buffer.take cursor.offset ++ inner.buffer,
        cursor.offset + inner.offset⟩ := by
  rw [EStateM.run, behind, if_pos inside, done]

theorem run_behind_of_error {action : InPlace α} {cursor inner : Cursor} {fault : Fault}
    (inside : cursor.offset < cursor.buffer.length)
    (refused : action.run ⟨cursor.buffer.drop cursor.offset, 0⟩ = .error fault inner) :
    (behind action).run cursor =
      .error fault ⟨cursor.buffer.take cursor.offset ++ inner.buffer, cursor.offset⟩ := by
  rw [EStateM.run, behind, if_pos inside, refused]

theorem length_drop_pos {cursor : Cursor} (inside : cursor.offset < cursor.buffer.length) :
    0 < (cursor.buffer.drop cursor.offset).length := by
  rw [List.length_drop]
  omega

theorem run_behind_of_refused {action : InPlace α} {cursor : Cursor}
    (refused : cursor.offset < cursor.buffer.length →
      action.run ⟨cursor.buffer.drop cursor.offset, 0⟩ =
        .error .fieldCutShort ⟨cursor.buffer.drop cursor.offset, 0⟩) :
    (behind action).run cursor = .error .fieldCutShort cursor := by
  by_cases inside : cursor.offset < cursor.buffer.length
  · rw [run_behind_of_error inside (refused inside), List.take_append_drop]
  · exact run_behind_of_le action (Nat.not_lt.mp inside)

theorem behind_behind (action : InPlace α) : behind (behind action) = behind action := by
  funext cursor
  change (behind (behind action)).run cursor = (behind action).run cursor
  -- The inner offset is zero, so that the inner front is empty.
  by_cases inside : cursor.offset < cursor.buffer.length
  · cases result : action.run ⟨(cursor.buffer.drop cursor.offset).drop 0, 0⟩ with
    | ok value inner =>
      rw [run_behind_of_ok inside (run_behind_of_ok (length_drop_pos inside) result),
        run_behind_of_ok inside result]
      simp
    | error fault inner =>
      rw [run_behind_of_error inside (run_behind_of_error (length_drop_pos inside) result),
        run_behind_of_error inside result]
      simp
  · rw [run_behind_of_le _ (Nat.not_lt.mp inside), run_behind_of_le _ (Nat.not_lt.mp inside)]

theorem behind_map (convert : α → β) (action : InPlace α) :
    behind (convert <$> action) = convert <$> behind action := by
  rw [map_eq_pure_bind, map_eq_pure_bind]
  funext cursor
  change (behind (action >>= _)).run cursor = (behind action >>= _).run cursor
  by_cases inside : cursor.offset < cursor.buffer.length
  · cases result : action.run ⟨cursor.buffer.drop cursor.offset, 0⟩ with
    | ok value inner =>
      have converted : (action >>= fun found => pure (convert found)).run
          ⟨cursor.buffer.drop cursor.offset, 0⟩ = .ok (convert value) inner :=
        run_bind_of_ok result _
      rw [run_behind_of_ok inside converted, run_bind_of_ok (run_behind_of_ok inside result)]
      rfl
    | error fault inner =>
      rw [run_behind_of_error inside (run_bind_of_error result _),
        run_bind_of_error (run_behind_of_error inside result)]
  · have outside := Nat.not_lt.mp inside
    rw [run_behind_of_le _ outside, run_bind_of_error (run_behind_of_le _ outside)]

/-! ## Putting and taking bytes -/

variable {buffer bytes : Bytes} {offset size : Nat}

theorem run_put_of_fits (filled : 0 < bytes.length) (fits : offset + bytes.length ≤ buffer.length) :
    (put bytes).run ⟨buffer, offset⟩ =
      .ok () ⟨overwrite buffer offset bytes, offset + bytes.length⟩ := by
  have inside : offset < buffer.length := by omega
  have room : bytes.length ≤ (buffer.drop offset).length := by
    rw [List.length_drop]
    omega
  have front : (putFront bytes).run ⟨buffer.drop offset, 0⟩ =
      .ok () ⟨bytes ++ (buffer.drop offset).drop bytes.length, bytes.length⟩ :=
    if_pos room
  rw [put, run_behind_of_ok inside front, overwrite, List.drop_drop]

theorem run_put_of_short (short : buffer.length < offset + bytes.length) :
    (put bytes).run ⟨buffer, offset⟩ = .error .fieldCutShort ⟨buffer, offset⟩ := by
  apply run_behind_of_refused
  intro inside
  have noRoom : ¬ bytes.length ≤ (buffer.drop offset).length := by
    change offset < buffer.length at inside
    rw [List.length_drop]
    omega
  exact if_neg noRoom

theorem run_take_of_fits (filled : 0 < size) (fits : offset + size ≤ buffer.length) :
    ∃ block, (take size).run ⟨buffer, offset⟩ = .ok block ⟨buffer, offset + size⟩ ∧
      block.bytes = buffer.extract offset (offset + size) := by
  have inside : offset < buffer.length := by omega
  have room : size ≤ (buffer.drop offset).length := by
    rw [List.length_drop]
    omega
  have front : (takeFront size).run ⟨buffer.drop offset, 0⟩ =
      .ok ⟨(buffer.drop offset).take size, List.length_take_of_le room⟩
        ⟨buffer.drop offset, size⟩ :=
    dif_pos room
  refine ⟨⟨(buffer.drop offset).take size, List.length_take_of_le room⟩, ?_, ?_⟩
  · rw [take, run_behind_of_ok inside front, List.take_append_drop]
  · rw [List.extract_eq_take_drop, Nat.add_sub_cancel_left]

theorem run_take_of_short (short : buffer.length < offset + size) :
    (take size).run ⟨buffer, offset⟩ = .error .fieldCutShort ⟨buffer, offset⟩ := by
  apply run_behind_of_refused
  intro inside
  have noRoom : ¬ size ≤ (buffer.drop offset).length := by
    change offset < buffer.length at inside
    rw [List.length_drop]
    omega
  exact dif_neg noRoom

/-! ## Room behind the offset -/

structure NeedsRoom (size : Nat) (action : InPlace α) (cursor : Cursor) : Prop where
  done_iff : (∃ value after, action.run cursor = .ok value after) ↔
    cursor.offset + size ≤ cursor.buffer.length
  refused : ∀ fault after, action.run cursor = .error fault after →
    fault = .fieldCutShort ∧ after = cursor

theorem needsRoom_of_ok {action : InPlace α} {cursor after : Cursor} {value : α}
    (fits : cursor.offset + size ≤ cursor.buffer.length)
    (done : action.run cursor = .ok value after) : NeedsRoom size action cursor where
  done_iff := ⟨fun _ => fits, fun _ => ⟨value, after, done⟩⟩
  refused := by
    intro fault stopped refusal
    cases done.symm.trans refusal

theorem needsRoom_of_error {action : InPlace α} {cursor : Cursor}
    (short : cursor.buffer.length < cursor.offset + size)
    (refusal : action.run cursor = .error .fieldCutShort cursor) :
    NeedsRoom size action cursor where
  done_iff := by
    constructor
    · rintro ⟨value, after, done⟩
      cases refusal.symm.trans done
    · exact fun fits => absurd fits (Nat.not_le.mpr short)
  refused := by
    intro fault stopped other
    cases refusal.symm.trans other
    exact ⟨rfl, rfl⟩

/-! ## Fields one behind the other -/

/-- Fields that are put one behind the other leave no gap, and none is refused as long as there
is room for all of them. -/
theorem run_inTurn_put {fields : List Bytes} (filled : ∀ field ∈ fields, 0 < field.length)
    (front : Bytes) {back : Bytes} (room : fields.flatten.length ≤ back.length) :
    (inTurn (fields.map put)).run ⟨front ++ back, front.length⟩ =
      .ok () ⟨front ++ (fields.flatten ++ back.drop fields.flatten.length),
        front.length + fields.flatten.length⟩ := by
  induction fields generalizing front back with
  | nil => rfl
  | cons field fields induction =>
    -- A field that was put belongs to the front of those that follow.
    rw [List.flatten_cons, List.length_append] at room
    have fits : front.length + field.length ≤ (front ++ back).length := by
      rw [List.length_append]
      omega
    have written : overwrite (front ++ back) front.length field =
        (front ++ field) ++ back.drop field.length := by
      rw [overwrite, List.take_left, ← List.drop_drop, List.drop_left, List.append_assoc]
    have moved : front.length + field.length = (front ++ field).length :=
      List.length_append.symm
    have first := run_put_of_fits (filled field List.mem_cons_self) fits
    have roomBehind : fields.flatten.length ≤ (back.drop field.length).length := by
      rw [List.length_drop]
      omega
    have later := induction (fun other member => filled other (List.mem_cons_of_mem _ member))
      (front ++ field) roomBehind
    rw [List.map_cons, inTurn, run_bind_of_ok first, written, moved, later, List.drop_drop,
      List.flatten_cons, List.length_append, List.length_append, List.append_assoc,
      List.append_assoc, Nat.add_assoc]

theorem run_inTurn_put_of_sizes {fields : List Bytes}
    (filled : ∀ field ∈ fields, 0 < field.length) (sizes : fields.flatten.length = size)
    (block : Block size) :
    (inTurn (fields.map put)).run ⟨block.bytes, 0⟩ = .ok () ⟨fields.flatten, size⟩ := by
  have same : block.bytes.length = fields.flatten.length := by
    rw [sizes, block.length_bytes]
  have run := run_inTurn_put filled [] (Nat.le_of_eq same.symm)
  rw [← same, List.drop_length, block.length_bytes] at run
  simpa using run

theorem run_inTurn_passOver {actions : List (InPlace Unit)} {cursor after : Cursor}
    (done : (inTurn actions).run cursor = .ok () after) :
    (inTurn (actions.map passOver)).run cursor = .ok () after := by
  induction actions generalizing cursor with
  | nil => exact done
  | cons action actions induction =>
    rw [inTurn] at done
    cases first : action.run cursor with
    | error fault stopped =>
      rw [run_bind_of_error first] at done
      cases done
    | ok value moved =>
      have passed : (passOver action).run cursor = .ok () moved :=
        congrArg _ (leaves_of_ok first)
      rw [run_bind_of_ok first] at done
      rw [List.map_cons, inTurn, run_bind_of_ok passed]
      exact induction done

end InPlace

end FirmwareCapsule
