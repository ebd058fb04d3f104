import FirmwareCapsule.Files

namespace FirmwareCapsule

/-! What a directory holds once a file in it was written: what is written at a path is read
back from it, and every other file is as it was. -/

theorem except_bind_eq_ok_iff {fault α β : Type} {operation : Except fault α}
    {next : α → Except fault β} {result : β} :
    (operation >>= next) = .ok result ↔
      ∃ value, operation = .ok value ∧ next value = .ok result := by
  cases operation with
  | error reason => exact ⟨nofun, nofun⟩
  | ok value =>
    constructor
    · exact fun done => ⟨value, rfl, done⟩
    · rintro ⟨_, ⟨⟩, done⟩
      exact done

namespace Directory

variable {directory other after : Directory} {path name : String} {content : Bytes}
  {start folder : Folder} {steps : List (List Char)}

theorem write_eq_ok_iff :
    directory.write path content = .ok after ↔
      ∃ name, directory.destination path = .ok name ∧ directory.insert name content = after := by
  rw [write, except_bind_eq_ok_iff]
  simp only [pure, Except.pure, Except.ok.injEq]

theorem step_eq_folder {place : Place} {step : List Char}
    (stays : directory.step place step = .ok (.folder folder)) :
    other.step place step = .ok (.folder folder) := by
  revert stays
  fun_cases directory.step place step
  · exact nofun
  · exact id
  · exact id
  · intro found
    obtain ⟨name, -, found⟩ := except_bind_eq_ok_iff.mp found
    split at found
    · cases found
    · cases found

theorem follow_of_folder {place : Place}
    (reached : steps.foldlM directory.step place = .ok (.folder folder)) :
    steps.foldlM other.step place = .ok (.folder folder) := by
  induction steps generalizing place with
  | nil => exact reached
  | cons step steps hypothesis =>
    rw [List.foldlM_cons, except_bind_eq_ok_iff] at reached ⊢
    obtain ⟨next, stepped, reached⟩ := reached
    cases next with
    | folder inner => exact ⟨.folder inner, step_eq_folder stepped, hypothesis reached⟩
    | file name =>
      -- Nothing is reached from a file, so nothing more is followed.
      cases steps with
      | nil => cases reached
      | cons later steps => cases reached

theorem destination_eq_ok_iff :
    directory.destination path = .ok name ↔
      ∃ start steps last folder, Path.ofString path = .ok ⟨start, steps ++ [last], false⟩ ∧
        directory.follow start steps = .ok (.folder folder) ∧ last ≠ ['.'] ∧ last ≠ ['.', '.'] ∧
        entry folder last = .ok name := by
  rw [destination, except_bind_eq_ok_iff]
  constructor
  · rintro ⟨⟨start, steps, slashed⟩, parsed, found⟩
    obtain ⟨place, followed, entered⟩ := except_bind_eq_ok_iff.mp found
    clear found
    split at entered
    · cases entered
    · cases entered
    · next folder last ends =>
      split at entered
      · cases entered
      · next plain =>
        obtain ⟨front, rfl⟩ := List.getLast?_eq_some_iff.mp ends
        simp only [Bool.or_eq_true, decide_eq_true_eq, not_or, Bool.not_eq_true] at plain
        obtain ⟨⟨rfl, notHere⟩, notAbove⟩ := plain
        rw [List.dropLast_concat] at followed
        exact ⟨start, front, last, folder, parsed, followed, notHere, notAbove, entered⟩
  · rintro ⟨start, steps, last, folder, parsed, followed, notHere, notAbove, named⟩
    refine ⟨_, parsed, except_bind_eq_ok_iff.mpr ⟨.folder folder, ?_, ?_⟩⟩
    · rw [List.dropLast_concat]
      exact followed
    · simp only [List.getLast?_concat]
      rw [if_neg]
      · exact named
      · simp only [Bool.false_or, Bool.or_eq_true, decide_eq_true_eq, not_or]
        exact ⟨notHere, notAbove⟩

theorem read_of_write (written : directory.write path content = .ok after) :
    after.read path = .ok content := by
  obtain ⟨name, found, rfl⟩ := write_eq_ok_iff.mp written
  obtain ⟨start, steps, last, folder, parsed, followed, notHere, notAbove, named⟩ :=
    destination_eq_ok_iff.mp found
  have content_eq : (directory.insert name content).lookup? name = some content := by
    rw [lookup?_insert, if_pos rfl]
  have stepped : (directory.insert name content).step (.folder folder) last = .ok (.file name) := by
    have present : (directory.insert name content).contains name = true := by
      rw [contains, content_eq]
      rfl
    rw [step, named]
    · exact if_pos present
    · exact notHere
    · exact notAbove
  rw [read, except_bind_eq_ok_iff]
  refine ⟨_, parsed, except_bind_eq_ok_iff.mpr ⟨.file name, ?_, ?_⟩⟩
  · rw [follow, List.foldlM_append, except_bind_eq_ok_iff]
    refine ⟨.folder folder, follow_of_folder followed, ?_⟩
    rw [List.foldlM_cons, stepped]
    rfl
  · simp only [content_eq]
    rfl

theorem lookup?_of_write (written : directory.write path content = .ok after)
    (elsewhere : directory.destination path ≠ .ok name) :
    after.lookup? name = directory.lookup? name := by
  obtain ⟨destination, found, rfl⟩ := write_eq_ok_iff.mp written
  rw [lookup?_insert, if_neg]
  rintro rfl
  exact elsewhere found

end Directory

end FirmwareCapsule
