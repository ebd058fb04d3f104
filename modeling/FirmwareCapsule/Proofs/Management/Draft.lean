import FirmwareCapsule.Proofs.InPlace.Cursor
import FirmwareCapsule.Proofs.Management.Writing

namespace FirmwareCapsule.Management

/-! Capsules that are put together in place. Staging and writing change the capsule at hand one
part after the other, and what was changed before a refusal stays changed. But every refusal
stands in front of the first change, so that both come to what is done at once. -/

structure Draft where
  capsule : Capsule
  /-- What was logged so far, the latest record last. -/
  log : List Log.Record
deriving DecidableEq

/-- Something that is done to a draft. What it did before it was refused is not undone. -/
abbrev Drafting (α : Type) := EStateM Fault Draft α

namespace Draft

/-- The whole effect of an operation at once, if it is not refused. -/
def atOnce {α : Type} (draft : Draft) (operation : Logged (α × Capsule)) :
    EStateM.Result Fault Draft α :=
  match operation.outcome with
  | .ok (value, left) => .ok value ⟨left, draft.log ++ operation.events⟩
  | .error fault => .error fault ⟨draft.capsule, draft.log ++ operation.events⟩

def replace (draft : Draft) (operation : Logged Capsule) : EStateM.Result Fault Draft Unit :=
  draft.atOnce do
    let left ← operation
    return ((), left)

theorem atOnce_of_ok {α : Type} {draft : Draft} {operation : Logged (α × Capsule)} {value : α}
    {left : Capsule} (done : operation.outcome = .ok (value, left)) :
    draft.atOnce operation = .ok value ⟨left, draft.log ++ operation.events⟩ := by
  rw [atOnce, done]

theorem atOnce_of_error {α : Type} {draft : Draft} {operation : Logged (α × Capsule)}
    {fault : Fault} (refused : operation.outcome = .error fault) :
    draft.atOnce operation = .error fault ⟨draft.capsule, draft.log ++ operation.events⟩ := by
  rw [atOnce, refused]

theorem replace_of_ok {draft : Draft} {operation : Logged Capsule} {left : Capsule}
    (done : operation.outcome = .ok left) :
    draft.replace operation = .ok () ⟨left, draft.log ++ operation.events⟩ := by
  have replaced : (operation >>= fun left => pure ((), left)).outcome = .ok ((), left) := by
    rw [Traced.outcome_bind_of_ok done, Traced.outcome_pure]
  rw [replace, atOnce_of_ok replaced, Traced.events_bind_of_ok done, Traced.events_pure,
    List.append_nil]

theorem replace_of_error {draft : Draft} {operation : Logged Capsule} {fault : Fault}
    (refused : operation.outcome = .error fault) :
    draft.replace operation = .error fault ⟨draft.capsule, draft.log ++ operation.events⟩ := by
  rw [replace, atOnce_of_error (Traced.outcome_bind_of_error refused _),
    Traced.events_bind_of_error refused]

end Draft

namespace Drafting

variable {α β : Type} {draft : Draft}

def logged (operation : Logged α) : Drafting α := fun draft =>
  match operation.outcome with
  | .ok value => .ok value { draft with log := draft.log ++ operation.events }
  | .error fault => .error fault { draft with log := draft.log ++ operation.events }

def setItems (items : List Item) : Drafting Unit :=
  modify fun draft => { draft with capsule := { draft.capsule with items } }

def setDriverCount (driverCount : UInt16) : Drafting Unit :=
  modify fun draft => { draft with capsule := { draft.capsule with driverCount } }

def setItemOffsets (itemOffsets : List UInt64) : Drafting Unit :=
  modify fun draft => { draft with capsule := { draft.capsule with itemOffsets } }

def setCapsule (capsule : Capsule) : Drafting Unit :=
  modify fun draft => { draft with capsule }

def filled (size : Nat) (fields : List Bytes) : Drafting Bytes := fun draft =>
  match (InPlace.inTurn (fields.map .put)).run ⟨(Block.zero size).bytes, 0⟩ with
  | .ok _ cursor => .ok cursor.buffer draft
  | .error fault _ => .error fault draft

def addPayload (imageType : Guid) (payload : Bytes) (hardwareInstance : UInt64) :
    Drafting Unit := do
  let draft ← get
  if draft.capsule.items.isEmpty then
    setItems (draft.capsule.items ++ [.ofPayload imageType payload hardwareInstance])
  else
    logged (Logged.reject .management "FMP capsule already holds a payload" .secondPayload)

def fieldsInFront (itemCount : UInt16) (offsets : List UInt64) : List Bytes :=
  [Layout.word32.encode Capsule.headerVersion, Layout.word16.encode 0,
    Layout.word16.encode itemCount] ++ offsets.map Layout.word64.encode

def encode : Drafting Bytes := do
  let draft ← get
  if draft.capsule.items.isEmpty then
    logged (Logged.reject .management "FMP capsule has no payload" .noPayload)
  else
    let items ← logged (Traced.ofExcept (draft.capsule.items.mapM Item.encode))
    if items.length ≥ UInt16.size then
      logged (Traced.refuse .payloadTooLarge)
    else
      let offsets := Capsule.offsetsFrom (Capsule.listEnd items.length) items
      let front ← filled (Capsule.listEnd items.length)
        (fieldsInFront (UInt16.ofNat items.length) offsets)
      let bytes := front ++ items.flatten
      setDriverCount 0
      setItemOffsets offsets
      logged (Logged.debug .management
        s!"FMP capsule header wraps {Text.decimal items.length} item(s), {Text.hex bytes.length} bytes")
      return bytes

def decode (buffer : Bytes) : Drafting Unit := do
  let capsule ← logged (Capsule.decode buffer)
  setCapsule capsule

/-! ## Single actions -/

theorem run_get_bind (next : Draft → Drafting α) :
    (get >>= next : Drafting α).run draft = (next draft).run draft := rfl

theorem run_logged_of_ok {operation : Logged α} {value : α}
    (done : operation.outcome = .ok value) :
    (logged operation).run draft =
      .ok value { draft with log := draft.log ++ operation.events } := by
  rw [EStateM.run, logged, done]

theorem run_logged_of_error {operation : Logged α} {fault : Fault}
    (refused : operation.outcome = .error fault) :
    (logged operation).run draft =
      .error fault { draft with log := draft.log ++ operation.events } := by
  rw [EStateM.run, logged, refused]

theorem run_logged_pure (value : α) : (logged (pure value)).run draft = .ok value draft := by
  rw [run_logged_of_ok rfl, Traced.events_pure, List.append_nil]

theorem run_filled {size : Nat} {fields : List Bytes} (draft : Draft)
    (filledUp : ∀ field ∈ fields, 0 < field.length) (sizes : fields.flatten.length = size) :
    (filled size fields).run draft = .ok fields.flatten draft := by
  rw [EStateM.run, filled, InPlace.run_inTurn_put_of_sizes filledUp sizes]

theorem flatten_fieldsInFront (itemCount : UInt16) (offsets : List UInt64) :
    (fieldsInFront itemCount offsets).flatten =
      Capsule.Header.layout.encode ⟨Capsule.headerVersion, 0, itemCount⟩ ++
        Capsule.encodeOffsets offsets := by
  rw [fieldsInFront, List.flatten_append, Capsule.encodeOffsets, List.flatMap_def]
  rfl

theorem length_pos_of_mem_fieldsInFront {itemCount : UInt16} {offsets : List UInt64}
    {field : Bytes} (member : field ∈ fieldsInFront itemCount offsets) : 0 < field.length := by
  rcases List.mem_append.mp member with member | member
  · simp only [List.mem_cons, List.not_mem_nil, or_false] at member
    rcases member with rfl | rfl | rfl
    · exact Nat.zero_lt_succ 3
    · exact Nat.zero_lt_succ 1
    · exact Nat.zero_lt_succ 1
  · rcases List.mem_map.mp member with ⟨offset, _, rfl⟩
    exact Nat.zero_lt_succ 7

theorem run_filled_fieldsInFront (draft : Draft) (itemCount : UInt16) (items : List Bytes) :
    (filled (Capsule.listEnd items.length) (fieldsInFront itemCount
        (Capsule.offsetsFrom (Capsule.listEnd items.length) items))).run draft =
      .ok (Capsule.Header.layout.encode ⟨Capsule.headerVersion, 0, itemCount⟩ ++
        Capsule.encodeOffsets (Capsule.offsetsFrom (Capsule.listEnd items.length) items)) draft := by
  rw [run_filled draft (fun _ => length_pos_of_mem_fieldsInFront), flatten_fieldsInFront]
  rw [flatten_fieldsInFront, List.length_append, Layout.length_encode,
    Capsule.length_encodeOffsets, Capsule.offsetsFrom_eq_map, List.length_map,
    Capsule.length_startsFrom]
  rfl

/-! ## What is done at once -/

theorem run_addPayload (imageType : Guid) (payload : Bytes) (hardwareInstance : UInt64)
    (draft : Draft) :
    (addPayload imageType payload hardwareInstance).run draft =
      draft.replace (draft.capsule.addPayload imageType payload hardwareInstance) := by
  rw [addPayload, Capsule.addPayload, run_get_bind]
  by_cases unstaged : draft.capsule.items.isEmpty = true
  · rw [if_pos unstaged, if_pos unstaged, Draft.replace_of_ok rfl, List.isEmpty_iff.mp unstaged,
      Traced.events_pure, List.append_nil]
    rfl
  · rw [if_neg unstaged, if_neg unstaged, run_logged_of_error rfl, Draft.replace_of_error rfl]
    rfl

/-- None of the fields in front of the items is refused, so that nothing is refused once there
is something to change. -/
theorem run_encode (draft : Draft) : encode.run draft = draft.atOnce draft.capsule.encode := by
  rw [encode, Capsule.encode, run_get_bind]
  by_cases unstaged : draft.capsule.items.isEmpty = true
  · rw [if_pos unstaged, if_pos unstaged, run_logged_of_error rfl, Draft.atOnce_of_error rfl]
    rfl
  rw [if_neg unstaged, if_neg unstaged]
  cases encoded : draft.capsule.items.mapM Item.encode with
  | error fault =>
    rw [InPlace.run_bind_of_error (run_logged_of_error rfl), Draft.atOnce_of_error rfl]
    rfl
  | ok items =>
    rw [Traced.ofExcept_ok, InPlace.run_bind_of_ok (run_logged_pure items), pure_bind]
    by_cases large : items.length ≥ UInt16.size
    · rw [if_pos large, if_pos large, run_logged_of_error rfl, Draft.atOnce_of_error rfl]
      rfl
    · rw [if_neg large, if_neg large, InPlace.run_bind_of_ok (run_filled_fieldsInFront _ _ _)]
      simp only [List.append_assoc]
      rfl

theorem run_decode (buffer : Bytes) (draft : Draft) :
    (decode buffer).run draft = draft.replace (Capsule.decode buffer) := by
  rw [decode]
  cases read : (Capsule.decode buffer).outcome with
  | error fault =>
    rw [InPlace.run_bind_of_error (run_logged_of_error read), Draft.replace_of_error read]
  | ok capsule =>
    rw [InPlace.run_bind_of_ok (run_logged_of_ok read), Draft.replace_of_ok read]
    rfl

end Drafting

end FirmwareCapsule.Management
