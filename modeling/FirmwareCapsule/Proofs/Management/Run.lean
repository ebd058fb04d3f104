import FirmwareCapsule.Proofs.Management.Draft

namespace FirmwareCapsule.Management

namespace Capsule

/-! Runs of steps on one draft. Items get into a capsule by staging and by reading, and its
offset list is stale after the one and filled by the other. What every step keeps is strong
enough for writing: only a capsule without an item is refused, and what is written is read back
as the capsule that is left behind. A refused step leaves the capsule that was there. -/

inductive Step where
  | clear
  | stage (imageType : Guid) (payload : Bytes) (hardwareInstance : UInt64)
  | write
  | read (buffer : Bytes)

def Step.Admissible : Step → Prop
  | .stage _ payload _ => payload.length < UInt32.size
  | _ => True

def Step.perform : Step → Drafting Unit
  | .clear => Drafting.setCapsule empty
  | .stage imageType payload hardwareInstance =>
      Drafting.addPayload imageType payload hardwareInstance
  | .write => do
      let _ ← Drafting.encode
      return ()
  | .read buffer => Drafting.decode buffer

def attempt (capsule : Capsule) : Step → Logged Capsule
  | .clear => pure empty
  | .stage imageType payload hardwareInstance =>
      capsule.addPayload imageType payload hardwareInstance
  | .write => do
      let (_, left) ← capsule.encode
      return left
  | .read buffer => decode buffer

theorem Step.run_perform (step : Step) (draft : Draft) :
    step.perform.run draft = draft.replace (draft.capsule.attempt step) := by
  cases step with
  | clear =>
      rw [attempt, Draft.replace_of_ok (Traced.outcome_pure empty), Traced.events_pure,
        List.append_nil]
      rfl
  | stage imageType payload hardwareInstance =>
      exact Drafting.run_addPayload imageType payload hardwareInstance draft
  | write =>
      rw [perform, attempt]
      cases written : draft.capsule.encode.outcome with
      | error fault =>
          have run := (Drafting.run_encode draft).trans (Draft.atOnce_of_error written)
          rw [InPlace.run_bind_of_error run, Draft.replace_of_error
            (Traced.outcome_bind_of_error written _), Traced.events_bind_of_error written]
      | ok result =>
          have run := (Drafting.run_encode draft).trans (Draft.atOnce_of_ok written)
          rw [InPlace.run_bind_of_ok run, Draft.replace_of_ok
            (Traced.outcome_bind_of_ok written _), Traced.events_bind_of_ok written,
            Traced.events_pure, List.append_nil]
          rfl
  | read buffer => exact Drafting.run_decode buffer draft

/-! ## What every step keeps -/

/-- The offset list is empty, or it has a place for every driver and item. It can
only be empty if at most one item was staged and nothing was written or read. -/
structure Consistent (capsule : Capsule) : Prop where
  offsets :
    (capsule.itemOffsets = [] ∧ capsule.driverCount = 0 ∧ capsule.items.length ≤ 1) ∨
    (capsule.items ≠ [] ∧
      capsule.itemOffsets.length = capsule.driverCount.toNat + capsule.items.length ∧
      capsule.itemOffsets.Pairwise (· < ·) ∧
      ∀ offset ∈ capsule.itemOffsets, 8 + 8 * capsule.itemOffsets.length ≤ offset.toNat)
  items : ∀ item ∈ capsule.items, item.WellFormed
  itemCount : capsule.items.length ≤ 65535

theorem consistent_empty : empty.Consistent where
  offsets := .inl ⟨rfl, rfl, Nat.zero_le 1⟩
  items := fun _ member => nomatch member
  itemCount := Nat.zero_le 65535

theorem wellFormed_ofPayload (imageType : Guid) {payload : Bytes} (hardwareInstance : UInt64)
    (fits : payload.length < UInt32.size) :
    (Item.ofPayload imageType payload hardwareInstance).WellFormed where
  version := (by decide : (1 : UInt32) ≤ 2)
  index := (by decide : (1 : UInt8) ≤ 1)
  hardwareInstance := fun early => absurd early (by decide : ¬ (2 : UInt32) < 2)
  capsuleSupport := fun _ => rfl
  payload := fits
  vendorCode := (by decide : 0 < UInt32.size)

/-- Without items there is no offset list either, so staging makes no stale one. -/
theorem Consistent.itemOffsets_of_no_items {capsule : Capsule} (consistent : capsule.Consistent)
    (unstaged : capsule.items = []) : capsule.itemOffsets = [] ∧ capsule.driverCount = 0 := by
  rcases consistent.offsets with ⟨noOffsets, noDrivers, _⟩ | ⟨staged, _⟩
  · exact ⟨noOffsets, noDrivers⟩
  · exact absurd unstaged staged

theorem outcome_addPayload (capsule : Capsule) (imageType : Guid) (payload : Bytes)
    (hardwareInstance : UInt64) :
    (capsule.addPayload imageType payload hardwareInstance).outcome =
      if capsule.items = [] then
        .ok { capsule with items := [.ofPayload imageType payload hardwareInstance] }
      else
        .error .secondPayload := by
  rw [addPayload]
  simp only [List.isEmpty_iff]
  split <;> rfl

theorem Consistent.stage {capsule : Capsule} (consistent : capsule.Consistent)
    (unstaged : capsule.items = []) (imageType : Guid) {payload : Bytes}
    (hardwareInstance : UInt64) (fits : payload.length < UInt32.size) :
    Consistent { capsule with items := [.ofPayload imageType payload hardwareInstance] } where
  offsets :=
    have none := consistent.itemOffsets_of_no_items unstaged
    .inl ⟨none.1, none.2, Nat.le_refl 1⟩
  items := by
    intro item member
    rw [List.mem_singleton] at member
    rw [member]
    exact wellFormed_ofPayload imageType hardwareInstance fits
  itemCount := by simp

theorem Consistent.writable {capsule : Capsule} (consistent : capsule.Consistent)
    (staged : capsule.items ≠ []) : capsule.Writable where
  staged := staged
  count := Nat.lt_succ_of_le consistent.itemCount
  fits := fun item member => (consistent.items item member).toFits

/-- A sound offset list stays consistent when the size of its buffer is forgotten. -/
theorem ListFits.consistent {capsule : Capsule} {size : Nat} (fits : capsule.ListFits size)
    (wellFormed : ∀ item ∈ capsule.items, item.WellFormed) : capsule.Consistent where
  offsets := .inr ⟨List.length_pos_iff.mp fits.itemCount_pos, fits.offsetCount, fits.ascending,
    fun offset member => (fits.inside offset member).1⟩
  items := wellFormed
  itemCount := Nat.le_of_lt_succ fits.itemCount_lt

theorem Consistent.written {capsule : Capsule} (consistent : capsule.Consistent)
    (staged : capsule.items ≠ []) : capsule.written.Consistent :=
  (consistent.writable staged).listFits_written.consistent consistent.items

theorem consistent_of_outcome_decode {buffer : Bytes} {capsule : Capsule}
    (accepted : (decode buffer).outcome = .ok capsule) : capsule.Consistent :=
  (outcome_decode_eq_ok_iff.mp accepted).1.consistent (wellFormed_of_outcome_decode accepted)

theorem Consistent.attempt {capsule left : Capsule} (consistent : capsule.Consistent)
    {step : Step} (admissible : step.Admissible)
    (done : (capsule.attempt step).outcome = .ok left) : left.Consistent := by
  cases step with
  | clear =>
      cases done
      exact consistent_empty
  | stage imageType payload hardwareInstance =>
      rw [Capsule.attempt, outcome_addPayload] at done
      split at done
      · rename_i unstaged
        cases done
        exact consistent.stage unstaged imageType hardwareInstance admissible
      · cases done
  | write =>
      rw [Capsule.attempt] at done
      by_cases staged : capsule.items = []
      · rw [Traced.outcome_bind_of_error (outcome_encode_of_no_items staged)] at done
        cases done
      · rw [Traced.outcome_bind_of_ok (consistent.writable staged).outcome_encode] at done
        cases done
        exact consistent.written staged
  | read buffer => exact consistent_of_outcome_decode done

def Step.IsRefused (capsule : Capsule) (fault : Fault) : Step → Prop
  | .clear => False
  | .stage _ _ _ => capsule.items ≠ [] ∧ fault = .secondPayload
  | .write => capsule.items = [] ∧ fault = .noPayload
  | .read buffer => (decode buffer).outcome = .error fault

theorem Consistent.outcome_attempt_eq_error_iff {capsule : Capsule}
    (consistent : capsule.Consistent) {step : Step} {fault : Fault} :
    (capsule.attempt step).outcome = .error fault ↔ step.IsRefused capsule fault := by
  cases step with
  | clear => simp [Capsule.attempt, Step.IsRefused]
  | stage imageType payload hardwareInstance =>
      rw [Capsule.attempt, outcome_addPayload, Step.IsRefused]
      by_cases staged : capsule.items = []
      · simp [staged]
      · simp [staged, eq_comm]
  | write =>
      rw [Capsule.attempt, Step.IsRefused]
      by_cases staged : capsule.items = []
      · rw [Traced.outcome_bind_of_error (outcome_encode_of_no_items staged)]
        simp [staged, eq_comm]
      · rw [Traced.outcome_bind_of_ok (consistent.writable staged).outcome_encode]
        simp [staged]
  | read buffer => rfl

end Capsule

/-! ## Runs -/

namespace Draft

open Capsule (Step)

def after (draft : Draft) (step : Step) : Draft :=
  match step.perform.run draft with
  | .ok _ left => left
  | .error _ left => left

def run (steps : List Step) : Draft :=
  steps.foldl after ⟨.empty, []⟩

theorem capsule_after_of_ok {draft : Draft} {step : Step} {left : Capsule}
    (done : (draft.capsule.attempt step).outcome = .ok left) :
    (draft.after step).capsule = left := by
  rw [after, step.run_perform, replace_of_ok done]

theorem capsule_after_of_error {draft : Draft} {step : Step} {fault : Fault}
    (refused : (draft.capsule.attempt step).outcome = .error fault) :
    (draft.after step).capsule = draft.capsule := by
  rw [after, step.run_perform, replace_of_error refused]

theorem consistent_after {draft : Draft} (consistent : draft.capsule.Consistent) {step : Step}
    (admissible : step.Admissible) : (draft.after step).capsule.Consistent := by
  cases attempted : (draft.capsule.attempt step).outcome with
  | error fault =>
      rw [capsule_after_of_error attempted]
      exact consistent
  | ok left =>
      rw [capsule_after_of_ok attempted]
      exact consistent.attempt admissible attempted

theorem consistent_foldl_after {draft : Draft} {steps : List Step}
    (consistent : draft.capsule.Consistent) (admissible : ∀ step ∈ steps, step.Admissible) :
    (steps.foldl after draft).capsule.Consistent := by
  induction steps generalizing draft with
  | nil => exact consistent
  | cons step steps induction =>
      have first := consistent_after consistent (admissible step List.mem_cons_self)
      exact induction first fun other member =>
        admissible other (List.mem_cons_of_mem step member)

structure Usable (draft : Draft) : Prop extends draft.capsule.Consistent where
  /-- Writing is refused just if there is no item. What it writes is read as the capsule that
  it leaves behind, and is written again from that one. -/
  write :
    (draft.capsule.items = [] ∧
      ∃ log, Drafting.encode.run draft = .error .noPayload { draft with log }) ∨
    (draft.capsule.items ≠ [] ∧ ∃ bytes left, Drafting.encode.run draft = .ok bytes left ∧
      (Capsule.decode bytes).outcome = .ok left.capsule ∧
        ∃ log, Drafting.encode.run left = .ok bytes { left with log })
  refused : ∀ (step : Step) fault, (∃ left, step.perform.run draft = .error fault left) ↔
    step.IsRefused draft.capsule fault
  kept : ∀ (step : Step) fault left, step.perform.run draft = .error fault left →
    left.capsule = draft.capsule
  /-- What is done part by part is what is done to the capsule as a whole. -/
  encoded : Drafting.encode.run draft = draft.atOnce draft.capsule.encode
  performed : ∀ step : Step, step.perform.run draft = draft.replace (draft.capsule.attempt step)

theorem run_perform_eq_error_iff {draft left : Draft} {step : Step} {fault : Fault} :
    step.perform.run draft = .error fault left ↔
      (draft.capsule.attempt step).outcome = .error fault ∧
        left = ⟨draft.capsule, draft.log ++ (draft.capsule.attempt step).events⟩ := by
  rw [step.run_perform]
  cases attempted : (draft.capsule.attempt step).outcome with
  | error other =>
      rw [replace_of_error attempted]
      simp [eq_comm]
  | ok other =>
      rw [replace_of_ok attempted]
      simp

theorem usable_of_consistent {draft : Draft} (consistent : draft.capsule.Consistent) :
    draft.Usable := by
  refine { consistent with
    write := ?_
    refused := ?_
    kept := ?_
    encoded := Drafting.run_encode draft
    performed := fun step => step.run_perform draft }
  · by_cases staged : draft.capsule.items = []
    · have refused := (Drafting.run_encode draft).trans
        (atOnce_of_error (Capsule.outcome_encode_of_no_items staged))
      exact .inl ⟨staged, _, refused⟩
    · have writable := consistent.writable staged
      have again := ((consistent.written staged).writable staged).outcome_encode
      have first := (Drafting.run_encode draft).trans (atOnce_of_ok writable.outcome_encode)
      refine .inr ⟨staged, _, _, first, writable.outcome_decode_writtenBytes consistent.items, ?_⟩
      exact ⟨_, (Drafting.run_encode _).trans (atOnce_of_ok again)⟩
  · intro step fault
    rw [← consistent.outcome_attempt_eq_error_iff]
    simp [run_perform_eq_error_iff]
  · intro step fault left refused
    rw [(run_perform_eq_error_iff.mp refused).2]

theorem usable_run (steps : List Step) (admissible : ∀ step ∈ steps, step.Admissible) :
    (run steps).Usable := by
  have start : (Draft.mk .empty []).capsule.Consistent := Capsule.consistent_empty
  exact usable_of_consistent (consistent_foldl_after start admissible)

theorem usable_run_with_refusals :
    (∀ step ∈ [Step.write, .stage .zero [1, 2, 3] 7, .write, .stage .zero [4] 0, .read [5]],
      step.Admissible) ∧
    (run [.write, .stage .zero [1, 2, 3] 7, .write, .stage .zero [4] 0, .read [5]]).Usable := by
  have admissible :
      ∀ step ∈ [Step.write, .stage .zero [1, 2, 3] 7, .write, .stage .zero [4] 0, .read [5]],
        step.Admissible := by
    simp [Step.Admissible, UInt32.size]
  exact ⟨admissible, usable_run _ admissible⟩

/-- The second image is refused, and the first one stays. -/
example : ((run [.stage .zero [1] 0, .stage .zero [2] 0]).capsule.items.map Item.payload) =
    [[1]] := rfl

end Draft

end FirmwareCapsule.Management
