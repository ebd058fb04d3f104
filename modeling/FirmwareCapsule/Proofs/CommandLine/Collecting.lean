import FirmwareCapsule.Proofs.CommandLine.Spelling

namespace FirmwareCapsule.CommandLine

/-! What a draft holds of the entries that it collects. Each value is that of the one text that
was given for its option, flags and switches are kept in their order, and an entry leaves alone
what it does not speak of. -/

namespace Entry

def switch? : Entry → Option Switch
  | .switch given => some given
  | _ => none

def text? (option : Valued) : Entry → Option String
  | .value other text => if other = option then some text else none
  | _ => none

def input? : Entry → Option String
  | .input path => some path
  | _ => none

end Entry

variable {option other : Valued} {text : String} {texts : List String} {entry : Entry}
  {entries : List Entry} {draft next : Draft}

def switchesOf (entries : List Entry) : List Switch :=
  entries.filterMap Entry.switch?

def textsOf (option : Valued) (entries : List Entry) : List String :=
  entries.filterMap (Entry.text? option)

def inputsOf (entries : List Entry) : List String :=
  entries.filterMap Entry.input?

theorem filterMap_concat {α : Type} (what? : Entry → Option α) (entries : List Entry)
    (entry : Entry) :
    (entries ++ [entry]).filterMap what? = entries.filterMap what? ++ (what? entry).toList := by
  rw [List.filterMap_append]
  cases found : what? entry with
  | none => rw [List.filterMap_cons_none found]; rfl
  | some value => rw [List.filterMap_cons_some found]; rfl

theorem filterMap_concat_of_none {α : Type} {what? : Entry → Option α}
    (other : what? entry = none) :
    (entries ++ [entry]).filterMap what? = entries.filterMap what? := by
  rw [filterMap_concat, other, Option.toList_none, List.append_nil]

theorem switchesOf_concat (entries : List Entry) (entry : Entry) :
    switchesOf (entries ++ [entry]) = switchesOf entries ++ entry.switch?.toList :=
  filterMap_concat _ entries entry

theorem textsOf_concat (option : Valued) (entries : List Entry) (entry : Entry) :
    textsOf option (entries ++ [entry]) = textsOf option entries ++ (entry.text? option).toList :=
  filterMap_concat _ entries entry

theorem inputsOf_concat (entries : List Entry) (entry : Entry) :
    inputsOf (entries ++ [entry]) = inputsOf entries ++ entry.input?.toList :=
  filterMap_concat _ entries entry

/-! ## Values that are given once -/

def IsReadFrom {fault α : Type} (read : String → Except fault α) (texts : List String)
    (given : Option α) : Prop :=
  texts.map read = given.toList.map .ok

section

variable {fault α : Type} {read : String → Except fault α} {given found : Option α} {value : α}

theorem isReadFrom_none : IsReadFrom read texts none ↔ texts = [] :=
  List.map_eq_nil_iff

theorem isReadFrom_some :
    IsReadFrom read texts (some value) ↔ ∃ text, texts = [text] ∧ read text = .ok value :=
  List.map_eq_singleton_iff

theorem IsReadFrom.concat (first : IsReadFrom read texts none) (accepted : read text = .ok value) :
    IsReadFrom read (texts ++ [text]) (some value) := by
  rw [isReadFrom_none.mp first]
  exact isReadFrom_some.mpr ⟨text, rfl, accepted⟩

theorem once_eq_ok_iff {value : Except Ending α} :
    Draft.once given value = .ok found ↔ given = none ∧ value.map some = .ok found := by
  rw [Draft.once]
  cases given with
  | none => exact ⟨fun read => ⟨rfl, read⟩, fun both => both.2⟩
  | some value => exact ⟨nofun, fun both => nomatch both.1⟩

theorem IsReadFrom.once {value : Except Ending α} (before : IsReadFrom read texts given)
    (same : ∀ result, value = .ok result → read text = .ok result)
    (added : Draft.once given value = .ok found) : IsReadFrom read (texts ++ [text]) found := by
  obtain ⟨rfl, mapped⟩ := once_eq_ok_iff.mp added
  cases value with
  | error fault => cases mapped
  | ok result =>
      cases mapped
      exact before.concat (same result rfl)

theorem eq_ok_of_checked {read : String → Except ValueFault α}
    (accepted : Draft.checked option text read = .ok value) : read text = .ok value := by
  rw [Draft.checked] at accepted
  split at accepted
  · rename_i found
    cases accepted
    exact found
  · cases accepted

theorem filePath_eq_ok_iff {path : String} :
    Draft.filePath text = .ok path ↔ text ≠ "" ∧ path = text := by
  rw [Draft.filePath]
  split
  · rename_i empty
    exact ⟨nofun, fun both => absurd (String.isEmpty_iff.mp empty) both.1⟩
  · rename_i filled
    rw [Except.ok.injEq]
    exact ⟨fun same => ⟨fun empty => filled (String.isEmpty_iff.mpr empty), same.symm⟩,
      fun both => both.2.symm⟩

end

theorem eq_of_isReadFrom_filePath {path : String}
    (isRead : IsReadFrom Draft.filePath texts (some path)) : texts = [path] ∧ path ≠ "" := by
  obtain ⟨text, only, accepted⟩ := isReadFrom_some.mp isRead
  obtain ⟨named, rfl⟩ := filePath_eq_ok_iff.mp accepted
  exact ⟨only, named⟩

/-! ## Entries one by one -/

namespace Draft

def Holds (draft : Draft) (texts : List String) : Valued → Prop
  | .output => IsReadFrom filePath texts draft.output
  | .capsuleFlag => texts.map CapsuleFlag.ofName? = draft.capsuleFlags.map some
  | .oemFlags => IsReadFrom sixteenBits texts draft.oemFlags
  | .guid => IsReadFrom CommandLine.guid texts draft.guid
  | .hardwareInstance => IsReadFrom integer texts draft.hardwareInstance
  | .monotonicCount => IsReadFrom integer texts draft.monotonicCount
  | .privateKey => IsReadFrom filePath texts draft.privateKey

structure Collects (draft : Draft) (entries : List Entry) : Prop where
  switches : draft.switches = switchesOf entries
  inputFile : IsReadFrom filePath (inputsOf entries) draft.inputFile
  values : ∀ option, draft.Holds (textsOf option entries) option

theorem collects_empty : empty.Collects [] where
  switches := rfl
  inputFile := rfl
  values := fun option => by cases option <;> rfl

theorem Holds.addValue (holds : draft.Holds texts option)
    (added : draft.addValue option text = .ok next) : next.Holds (texts ++ [text]) option := by
  cases option with
  | capsuleFlag =>
      rw [Draft.addValue] at added
      split at added
      · rename_i flag known
        cases added
        change (texts ++ [text]).map CapsuleFlag.ofName? = (draft.capsuleFlags ++ [flag]).map some
        rw [List.map_append, List.map_append, holds, List.map_singleton, known]
        rfl
      · cases added
  | output | privateKey =>
      obtain ⟨value, given, added⟩ := except_bind_eq_ok_iff.mp added
      cases added
      exact IsReadFrom.once holds (fun _ => id) given
  | oemFlags | guid | hardwareInstance | monotonicCount =>
      obtain ⟨value, given, added⟩ := except_bind_eq_ok_iff.mp added
      cases added
      exact IsReadFrom.once holds (fun _ => eq_ok_of_checked) given

theorem addValue_frame (added : draft.addValue option text = .ok next) :
    next.switches = draft.switches ∧ next.inputFile = draft.inputFile ∧
      ∀ other texts, other ≠ option → (next.Holds texts other ↔ draft.Holds texts other) := by
  cases option with
  | capsuleFlag =>
      rw [Draft.addValue] at added
      split at added
      · cases added
        refine ⟨rfl, rfl, fun other texts different => ?_⟩
        cases other <;> first | exact absurd rfl different | exact Iff.rfl
      · cases added
  | output | privateKey | oemFlags | guid | hardwareInstance | monotonicCount =>
      obtain ⟨value, given, added⟩ := except_bind_eq_ok_iff.mp added
      cases added
      refine ⟨rfl, rfl, fun other texts different => ?_⟩
      cases other <;> first | exact absurd rfl different | exact Iff.rfl

theorem Collects.addSwitch {switch : Switch} (collects : draft.Collects entries)
    (added : draft.addSwitch switch = .ok next) :
    next.Collects (entries ++ [.switch switch]) := by
  rw [Draft.addSwitch] at added
  split at added
  · cases added
  · cases added
    refine ⟨?_, ?_, fun option => ?_⟩
    · rw [switchesOf_concat, ← collects.switches]
      rfl
    · rw [inputsOf, filterMap_concat_of_none rfl]
      exact collects.inputFile
    · have held := collects.values option
      rw [textsOf, filterMap_concat_of_none rfl]
      cases option <;> exact held

theorem Collects.addValue (collects : draft.Collects entries)
    (added : draft.addValue option text = .ok next) :
    next.Collects (entries ++ [.value option text]) := by
  obtain ⟨switches, inputFile, others⟩ := addValue_frame added
  refine ⟨?_, ?_, fun other => ?_⟩
  · rw [switches, switchesOf, filterMap_concat_of_none rfl]
    exact collects.switches
  · rw [inputFile, inputsOf, filterMap_concat_of_none rfl]
    exact collects.inputFile
  · by_cases same : option = other
    · subst same
      rw [textsOf_concat, Entry.text?, if_pos rfl]
      exact (collects.values option).addValue added
    · rw [textsOf, filterMap_concat_of_none (if_neg same), others other _ (Ne.symm same)]
      exact collects.values other

theorem Collects.addInput {path : String} (collects : draft.Collects entries)
    (added : draft.addInput path = .ok next) : next.Collects (entries ++ [.input path]) := by
  obtain ⟨value, given, added⟩ := except_bind_eq_ok_iff.mp added
  cases added
  refine ⟨?_, ?_, fun option => ?_⟩
  · rw [switchesOf, filterMap_concat_of_none rfl]
    exact collects.switches
  · rw [inputsOf_concat]
    exact collects.inputFile.once (fun _ => id) given
  · have held := collects.values option
    rw [textsOf, filterMap_concat_of_none rfl]
    cases option <;> exact held

theorem Collects.addEntry (collects : draft.Collects entries)
    (added : draft.addEntry entry = .ok next) : next.Collects (entries ++ [entry]) := by
  cases entry with
  | switch switch => exact collects.addSwitch added
  | value option text => exact collects.addValue added
  | input path => exact collects.addInput added

theorem Collects.addAll {more : List Entry} (collects : draft.Collects entries)
    (added : draft.addAll more = .ok next) : next.Collects (entries ++ more) := by
  induction more generalizing draft entries with
  | nil =>
      cases added
      rwa [List.append_nil]
  | cons entry more induction =>
      rw [addAll_cons, except_bind_eq_ok_iff] at added
      obtain ⟨middle, first, added⟩ := added
      have collected := induction (collects.addEntry first) added
      rwa [List.append_assoc] at collected

end Draft

theorem Spells.collects {arguments : List String} (spelled : Spells none arguments entries)
    (read : Draft.ofArguments arguments = .ok draft) : draft.Collects entries :=
  Draft.collects_empty.addAll (spelled.addAll read)

end FirmwareCapsule.CommandLine
