import FirmwareCapsule.Proofs.Layers.Form

namespace FirmwareCapsule

/-! What decoders refuse bytes for. Each fault is put down to the bytes: either they are
damaged, or they are sound but foreign. -/

namespace Fault

def IsCorruption (fault : Fault) : Prop :=
  fault = .fieldCutShort ∨ fault = .certificateCutShort ∨ fault = .headerCutShort ∨
    (∃ declared found, fault = .sizeMismatch declared found) ∨ fault = .malformedCapsule

def IsForeign (fault : Fault) : Prop :=
  fault = .foreignCertificateFormat ∨ fault = .foreignCertificateType

theorem isCorruption_iff (fault : Fault) :
    fault.IsCorruption ↔ fault.status = .volumeCorrupted := by
  cases fault <;> simp [IsCorruption, status]

theorem isForeign_iff (fault : Fault) : fault.IsForeign ↔ fault.status = .unsupported := by
  cases fault <;> simp [IsForeign, status]

end Fault

/-! ## Operations and the faults they report -/

def Logged.Reports {α : Type} (statuses : List Status) (operation : Logged α) : Prop :=
  ∀ fault, operation.outcome = .error fault → fault.status ∈ statuses

namespace Logged

variable {α β : Type} {statuses : List Status}

theorem reports_pure (value : α) : Reports statuses (pure value) := by
  intro fault refused
  cases refused

theorem reports_emit (record : Log.Record) : Reports statuses (Traced.emit record) := by
  intro fault refused
  cases refused

theorem reports_refuse {fault : Fault} (named : fault.status ∈ statuses) :
    Reports statuses (Traced.refuse fault : Logged α) := by
  intro other refused
  cases refused
  exact named

theorem reports_reject {source : Log.Source} {text : String} {fault : Fault}
    (named : fault.status ∈ statuses) :
    Reports statuses (reject source text fault : Logged α) := by
  intro other refused
  cases refused
  exact named

theorem reports_require {fault : Fault} (found : Option α) (named : fault.status ∈ statuses) :
    Reports statuses (Traced.require fault found) := by
  cases found with
  | none => exact reports_refuse named
  | some value => exact reports_pure value

theorem Reports.bind {operation : Logged α} {next : α → Logged β}
    (first : Reports statuses operation)
    (rest : ∀ value, operation.outcome = .ok value → Reports statuses (next value)) :
    Reports statuses (operation >>= next) := by
  intro fault refused
  rcases Traced.outcome_bind_eq_error_iff.mp refused with here | ⟨value, done, later⟩
  · exact first fault here
  · exact rest value done fault later

theorem reports_mapM {step : α → Logged β} (values : List α)
    (each : ∀ value, Reports statuses (step value)) : Reports statuses (values.mapM step) := by
  induction values with
  | nil => exact reports_pure []
  | cons value values induction =>
      rw [List.mapM_cons]
      apply (each value).bind
      intro result _
      apply induction.bind
      intro results _
      exact reports_pure _

theorem Reports.mono {operation : Logged α} {more : List Status}
    (reports : Reports statuses operation) (among : ∀ status ∈ statuses, status ∈ more) :
    Reports more operation :=
  fun fault refused => among _ (reports fault refused)

end Logged

/-! ## Decoders -/

theorem Certificate.reports_decode (buffer : Bytes) :
    Logged.Reports [.volumeCorrupted] (decode buffer) := by
  rw [decode]
  split
  · exact Logged.reports_pure _
  · exact Logged.reports_reject (by decide)

theorem AuthenticatedImage.reports_decode (buffer : Bytes) :
    Logged.Reports [.volumeCorrupted, .unsupported] (decode buffer) := by
  rw [decode]
  apply (Logged.reports_require _ (by decide)).bind
  intro taken _
  dsimp only
  split
  · exact Logged.reports_reject (by decide)
  split
  · exact Logged.reports_reject (by decide)
  split
  · exact Logged.reports_refuse (by decide)
  split
  · exact Logged.reports_reject (by decide)
  apply ((Certificate.reports_decode _).mono (by decide)).bind
  intro certificate _
  split
  · exact Logged.reports_refuse (by simp [Fault.status])
  · exact Logged.reports_pure _

theorem Management.Item.reports_decode (bytes : Bytes) :
    Logged.Reports [.volumeCorrupted] (decode bytes) := by
  rw [decode]
  apply (Logged.reports_require _ (by decide)).bind
  intro version _
  dsimp only
  split
  · exact Logged.reports_reject (by decide)
  apply (Logged.reports_require _ (by decide)).bind
  intro fields _
  apply (Logged.reports_require _ (by decide)).bind
  intro hardwareInstance _
  apply (Logged.reports_require _ (by decide)).bind
  intro capsuleSupport _
  split
  · exact Logged.reports_reject (by decide)
  split
  · exact Logged.reports_reject (by simp [Fault.status])
  · exact Logged.reports_pure _

theorem Management.Capsule.reports_decode (buffer : Bytes) :
    Logged.Reports [.volumeCorrupted] (decode buffer) := by
  rw [decode]
  apply (Logged.reports_require _ (by decide)).bind
  intro header _
  dsimp only
  split
  · exact Logged.reports_reject (by decide)
  split
  · exact Logged.reports_reject (by decide)
  apply (Logged.reports_require _ (by decide)).bind
  intro offsets _
  split
  · exact Logged.reports_reject (by decide)
  apply (Logged.reports_mapM _ Item.reports_decode).bind
  intro items _
  apply (Logged.reports_emit _).bind
  intro _ _
  exact Logged.reports_pure _

theorem Envelope.reports_decode (buffer : Bytes) :
    Logged.Reports [.volumeCorrupted] (decode buffer) := by
  rw [decode]
  split
  · exact Logged.reports_reject (by decide)
  dsimp only
  split
  · exact Logged.reports_reject (by decide)
  split
  · exact Logged.reports_reject (by decide)
  split
  · exact Logged.reports_reject (by simp [Fault.status])
  split
  · apply (Logged.reports_emit _).bind
    intro _ _
    apply (Logged.reports_emit _).bind
    intro _ _
    exact Logged.reports_pure _
  · apply (Logged.reports_emit _).bind
    intro _ _
    exact Logged.reports_pure _

/-- A management capsule that was read has a first item, so that none is ever missing. -/
theorem Layers.reports_decode (buffer : Bytes) :
    Logged.Reports [.volumeCorrupted, .unsupported] (decode buffer) := by
  intro fault
  rw [outcome_decode]
  revert fault
  apply ((Envelope.reports_decode buffer).mono (by decide)).bind
  intro envelope _
  rw [decodeContent]
  apply ((Management.Capsule.reports_decode _).mono (by decide)).bind
  intro management managed
  have counted := (Management.Capsule.outcome_decode_eq_ok_iff.mp managed).1.itemCount_pos
  have first : management.items[0]? = some management.items[0] := List.getElem?_eq_getElem counted
  rw [Management.Capsule.item, first]
  apply (Logged.reports_pure _).bind
  intro item _
  apply (AuthenticatedImage.reports_decode _).bind
  intro image _
  exact Logged.reports_pure _

end FirmwareCapsule
