import FirmwareCapsule.CommandLine.Draft
import FirmwareCapsule.Proofs.Files
import Mathlib.Data.List.TakeWhile

namespace FirmwareCapsule.CommandLine

/-! How arguments are spelled. Options, their values and input files can be given in several
ways. What is read from arguments is what they spell, entry by entry, and arguments that are
read always spell something. -/

inductive Entry where
  | switch (switch : Switch)
  | value (option : Valued) (text : String)
  | input (path : String)
deriving DecidableEq

def StandsAlone (text : String) : Prop :=
  ∀ first rest, text.toList ≠ '-' :: first :: rest

/-- Options by letter behind one dash, and an option whose value is yet to come. A value that
stands behind its letter ends them, with or without an equals sign in front of it. -/
inductive SpellsLetters : List Char → List Entry → Option Valued → Prop
  | nil : SpellsLetters [] [] none
  | switch {letter : Char} {switch : Switch} {letters : List Char} {entries : List Entry}
      {pending : Option Valued} (known : Keyword.ofShort? letter = some (.switch switch))
      (rest : SpellsLetters letters entries pending) :
      SpellsLetters (letter :: letters) (.switch switch :: entries) pending
  | attached {letter first : Char} {option : Valued} {text : List Char}
      (known : Keyword.ofShort? letter = some (.valued option)) (noEquals : first ≠ '=') :
      SpellsLetters (letter :: first :: text) [.value option (String.ofList (first :: text))] none
  | equals {letter : Char} {option : Valued} {text : List Char}
      (known : Keyword.ofShort? letter = some (.valued option)) :
      SpellsLetters (letter :: '=' :: text) [.value option (String.ofList text)] none
  | pending {letter : Char} {option : Valued}
      (known : Keyword.ofShort? letter = some (.valued option)) :
      SpellsLetters [letter] [] (some option)

inductive SpellsOne : Option Valued → String → List Entry → Option Valued → Prop
  | value {option : Valued} {text : String} (alone : StandsAlone text) :
      SpellsOne (some option) text [.value option text] none
  | switch {name : String} {switch : Switch}
      (known : Keyword.ofLong? name = some (.switch switch)) :
      SpellsOne none ("--" ++ name) [.switch switch] none
  | pending {name : String} {option : Valued}
      (known : Keyword.ofLong? name = some (.valued option)) :
      SpellsOne none ("--" ++ name) [] (some option)
  | attached {name text : String} {option : Valued}
      (known : Keyword.ofLong? name = some (.valued option)) :
      SpellsOne none ("--" ++ name ++ "=" ++ text) [.value option text] none
  | letters {letter : Char} {letters : List Char} {entries : List Entry}
      {pending : Option Valued} (spelled : SpellsLetters (letter :: letters) entries pending) :
      SpellsOne none (String.ofList ('-' :: letter :: letters)) entries pending
  | input {path : String} (alone : StandsAlone path) : SpellsOne none path [.input path] none

inductive Spells : Option Valued → List String → List Entry → Prop
  | nil : Spells none [] []
  | cons {pending later : Option Valued} {argument : String} {arguments : List String}
      {first rest : List Entry} (one : SpellsOne pending argument first later)
      (others : Spells later arguments rest) :
      Spells pending (argument :: arguments) (first ++ rest)
  /-- Behind a double dash there are only input files. -/
  | ended (paths : List String) : Spells none ("--" :: paths) (paths.map .input)

namespace Draft

def addEntry (draft : Draft) : Entry → Except Ending Draft
  | .switch switch => draft.addSwitch switch
  | .value option text => draft.addValue option text
  | .input path => draft.addInput path

def addAll (draft : Draft) (entries : List Entry) : Except Ending Draft :=
  entries.foldlM addEntry draft

theorem addAll_singleton (draft : Draft) (entry : Entry) :
    draft.addAll [entry] = draft.addEntry entry := by
  rw [addAll, List.foldlM_cons]
  exact bind_pure _

theorem addAll_append (draft : Draft) (first rest : List Entry) :
    draft.addAll (first ++ rest) = draft.addAll first >>= fun next => next.addAll rest :=
  List.foldlM_append

theorem addAll_cons (draft : Draft) (entry : Entry) (rest : List Entry) :
    draft.addAll (entry :: rest) = draft.addEntry entry >>= fun next => next.addAll rest :=
  List.foldlM_cons

end Draft

/-! ## Names -/

theorem notMem_of_ofLong? {name : String} {keyword : Keyword}
    (known : Keyword.ofLong? name = some keyword) :
    name.toList ≠ [] ∧ '=' ∉ name.toList := by
  have names : ∀ entry ∈ Keyword.longNames, entry.1.toList ≠ [] ∧ '=' ∉ entry.1.toList := by
    decide
  rw [Keyword.ofLong?, List.lookup_eq_some_iff] at known
  rcases known with ⟨front, back, split, _⟩
  exact names (name, keyword) (split ▸ List.mem_append_right front List.mem_cons_self)

theorem ne_dash_of_ofShort? {letter : Char} {keyword : Keyword}
    (known : Keyword.ofShort? letter = some keyword) : letter ≠ '-' := by
  rintro rfl
  cases known

theorem ne_equals_of_notMem {characters : List Char} (noEquals : '=' ∉ characters) :
    ∀ character ∈ characters, decide (character ≠ '=') = true :=
  fun _ inside => decide_eq_true fun same => noEquals (same ▸ inside)

/-- Letters never begin with a dash: with it they would be a long name. -/
theorem SpellsLetters.ne_dash {letter : Char} {letters : List Char} {entries : List Entry}
    {pending : Option Valued} (spelled : SpellsLetters (letter :: letters) entries pending) :
    letter ≠ '-' := by
  cases spelled with
  | switch known => exact ne_dash_of_ofShort? known
  | attached known => exact ne_dash_of_ofShort? known
  | equals known => exact ne_dash_of_ofShort? known
  | pending known => exact ne_dash_of_ofShort? known

/-! ## The forms of an argument -/

inductive ArgumentForm : String → Prop
  | alone {argument : String} (alone : StandsAlone argument) : ArgumentForm argument
  | dashes : ArgumentForm "--"
  | long {name : String} (named : name.toList ≠ []) (noEquals : '=' ∉ name.toList) :
      ArgumentForm ("--" ++ name)
  | attached {name text : String} (noEquals : '=' ∉ name.toList) :
      ArgumentForm ("--" ++ name ++ "=" ++ text)
  | letters {letter : Char} {letters : List Char} (noDash : letter ≠ '-') :
      ArgumentForm (String.ofList ('-' :: letter :: letters))

theorem argumentForm (argument : String) : ArgumentForm argument := by
  by_cases alone : StandsAlone argument
  · exact .alone alone
  · simp only [StandsAlone, Classical.not_forall, ne_eq, Classical.not_not] at alone
    rcases alone with ⟨letter, letters, characters⟩
    obtain rfl : argument = String.ofList ('-' :: letter :: letters) :=
      String.toList_inj.mp (characters.trans String.toList_ofList.symm)
    by_cases dash : letter = '-'
    · subst dash
      -- The first equals sign ends the name, if there is one.
      by_cases equals : '=' ∈ letters
      · rcases List.eq_append_cons_of_mem equals with ⟨name, text, rfl, noEquals⟩
        have split : String.ofList ('-' :: '-' :: (name ++ '=' :: text)) =
            "--" ++ String.ofList name ++ "=" ++ String.ofList text := by
          simp [← String.toList_inj]
        rw [split]
        exact .attached (by rwa [String.toList_ofList])
      · cases letters with
        | nil => exact .dashes
        | cons first long =>
            have split : String.ofList ('-' :: '-' :: first :: long) =
                "--" ++ String.ofList (first :: long) := by
              simp [← String.toList_inj]
            rw [split]
            refine .long ?_ ?_
            · rw [String.toList_ofList]
              exact List.cons_ne_nil _ _
            · rwa [String.toList_ofList]
    · exact .letters dash

namespace Reading

variable {reading next : Reading} {name text argument : String} {option : Valued}
  {pending later : Option Valued} {letters : List Char} {draft : Draft}
  {entries : List Entry} {arguments : List String}

/-! ## Reading an argument -/

structure Awaits (reading : Reading) (pending : Option Valued) : Prop where
  optionsGoOn : reading.optionsEnded = false
  waiting : ∀ option, reading.waiting = .forValue option ↔ pending = some option

theorem awaits_ofDraft (draft : Draft) : (ofDraft draft).Awaits none :=
  ⟨rfl, fun _ => ⟨nofun, nofun⟩⟩

theorem awaits_forValue (draft : Draft) (option : Valued) :
    Awaits { ofDraft draft with waiting := .forValue option } (some option) :=
  ⟨rfl, fun _ => ⟨fun same => congrArg some (Waiting.forValue.inj same),
    fun same => congrArg Waiting.forValue (Option.some.inj same)⟩⟩

theorem awaits_input (goesOn : reading.optionsEnded = false) (path : String) :
    Awaits { reading with draft, waiting := .input path } none :=
  ⟨goesOn, fun _ => ⟨nofun, nofun⟩⟩

theorem Awaits.settled (ready : reading.Awaits none) (option : Valued) :
    reading.waiting ≠ .forValue option :=
  fun waiting => nomatch (ready.waiting option).mp waiting

theorem read_of_pending (awaits : reading.Awaits (some option)) (alone : StandsAlone text) :
    reading.read text = .ok { reading with waiting := .value option text } := by
  rw [read, awaits.optionsGoOn, if_neg Bool.false_ne_true, (awaits.waiting option).mpr rfl]
  split
  · exact absurd ‹_› (alone _ _)
  · rename_i same _
    cases same
    rfl
  all_goals simp_all

theorem standsAlone_of_read (awaits : reading.Awaits (some option))
    (accepted : reading.read text = .ok next) : StandsAlone text := by
  intro first rest characters
  rw [read, awaits.optionsGoOn, if_neg Bool.false_ne_true, (awaits.waiting option).mpr rfl,
    characters] at accepted
  cases accepted

theorem read_of_standsAlone (ready : reading.Awaits none) (alone : StandsAlone text) :
    reading.read text = reading.readInput text := by
  rw [read, ready.optionsGoOn, if_neg Bool.false_ne_true]
  split
  · exact absurd ‹_› (ready.settled _)
  · exact absurd ‹_› (ready.settled _)
  · exact absurd ‹_› (alone _ _)
  · exact absurd ‹_› (alone _ _)
  · exact absurd ‹_› (alone _ _)
  · rfl

theorem read_dashes (ready : reading.Awaits none) :
    reading.read "--" = .ok { reading with optionsEnded := true } := by
  obtain ⟨draft, waiting, ended⟩ := reading
  cases ready.optionsGoOn
  cases waiting with
  | forValue option => exact absurd rfl (ready.settled option)
  | _ => rfl

theorem read_dashed (ready : reading.Awaits none) {first : Char} {long : List Char}
    (characters : argument.toList = '-' :: '-' :: first :: long) :
    reading.read argument =
      reading.readLong (String.ofList ((first :: long).takeWhile (· ≠ '=')))
        (((first :: long).dropWhile (· ≠ '=')).tail?.map String.ofList) := by
  rw [read, ready.optionsGoOn, if_neg Bool.false_ne_true]
  split
  · exact absurd ‹_› (ready.settled _)
  · exact absurd ‹_› (ready.settled _)
  · rename_i same _
    cases same.symm.trans characters
  · rename_i same _
    cases same.symm.trans characters
    split
    · rename_i behind
      rw [behind]
      rfl
    · rename_i behind
      rw [behind]
      rfl
  · rename_i noDash same _
    cases same.symm.trans characters
    exact (noDash rfl).elim
  · rename_i noLetters _
    exact absurd characters (noLetters _ _)

theorem read_name (ready : reading.Awaits none) (named : name.toList ≠ [])
    (noEquals : '=' ∉ name.toList) : reading.read ("--" ++ name) = reading.readLong name none := by
  have others := ne_equals_of_notMem noEquals
  obtain ⟨first, long, split⟩ := List.exists_cons_of_ne_nil named
  have characters : ("--" ++ name).toList = '-' :: '-' :: first :: long := by
    rw [String.toList_append, split]
    rfl
  rw [read_dashed ready characters, ← split, List.takeWhile_eq_self_iff.mpr others,
    List.dropWhile_eq_nil_iff.mpr others, String.ofList_toList]
  rfl

theorem read_nameValue (ready : reading.Awaits none) (noEquals : '=' ∉ name.toList) :
    reading.read ("--" ++ name ++ "=" ++ text) = reading.readLong name (some text) := by
  have others := ne_equals_of_notMem noEquals
  obtain ⟨first, long, split⟩ :=
    List.exists_cons_of_ne_nil (List.append_ne_nil_of_right_ne_nil name.toList
      (List.cons_ne_nil '=' text.toList))
  have characters : ("--" ++ name ++ "=" ++ text).toList = '-' :: '-' :: first :: long := by
    simp [← split]
  rw [read_dashed ready characters, ← split, List.takeWhile_append_of_pos others,
    List.dropWhile_append_of_pos others]
  simp

theorem read_letters (ready : reading.Awaits none) {letter : Char} (noDash : letter ≠ '-') :
    reading.read (String.ofList ('-' :: letter :: letters)) =
      reading.readShort (letter :: letters) := by
  rw [read, ready.optionsGoOn, if_neg Bool.false_ne_true]
  split
  · exact absurd ‹_› (ready.settled _)
  · exact absurd ‹_› (ready.settled _)
  all_goals simp_all

/-! ## What an argument adds -/

def given (reading : Reading) : Except Ending Draft :=
  match reading.waiting with
  | .forValue _ => .ok reading.draft
  | _ => reading.settle

theorem given_of_awaits (ready : reading.Awaits none) : reading.given = reading.settle := by
  rw [given]
  split
  · exact absurd ‹_› (ready.settled _)
  · rfl

structure Adds (reading : Reading) (entries : List Entry) (pending : Option Valued)
    (next : Reading) : Prop where
  awaits : next.Awaits pending
  given_eq : (reading.given >>= fun draft => draft.addAll entries) = next.given

theorem adds_ofDraft {entry : Entry} {next : Draft} (ready : reading.Awaits none)
    (settled : reading.settle = .ok draft) (added : draft.addEntry entry = .ok next) :
    reading.Adds [entry] none (ofDraft next) := by
  refine ⟨awaits_ofDraft next, ?_⟩
  rw [given_of_awaits ready, settled]
  exact (draft.addAll_singleton entry).trans added

theorem adds_forValue (ready : reading.Awaits none) (settled : reading.settle = .ok draft) :
    reading.Adds [] (some option) { ofDraft draft with waiting := .forValue option } := by
  refine ⟨awaits_forValue draft option, ?_⟩
  rw [given_of_awaits ready, settled]
  rfl

theorem Adds.trans {middle : Reading} {first rest : List Entry}
    (adds : reading.Adds first pending middle) (more : middle.Adds rest later next) :
    reading.Adds (first ++ rest) later next := by
  refine ⟨more.awaits, ?_⟩
  rw [← more.given_eq, ← adds.given_eq, bind_assoc]
  simp only [Draft.addAll_append]

theorem adds_of_readInput (ready : reading.Awaits none)
    (accepted : reading.readInput text = .ok next) : reading.Adds [.input text] none next := by
  rw [readInput, ite_eq_iff] at accepted
  rcases accepted with ⟨_, refused⟩ | ⟨_, accepted⟩
  · cases refused
  · obtain ⟨draft, settled, accepted⟩ := except_bind_eq_ok_iff.mp accepted
    cases accepted
    refine ⟨awaits_input ready.optionsGoOn text, ?_⟩
    rw [given_of_awaits ready, settled]
    exact draft.addAll_singleton _

theorem adds_of_readLetters (spelled : SpellsLetters letters entries pending)
    (ready : reading.Awaits none) (accepted : reading.readShort letters = .ok next) :
    reading.Adds entries pending next := by
  induction spelled generalizing reading with
  | nil =>
      cases accepted
      exact ⟨ready, bind_pure _⟩
  | switch known rest induction =>
      rw [readShort, known] at accepted
      obtain ⟨draft, settled, accepted⟩ := except_bind_eq_ok_iff.mp accepted
      obtain ⟨added, switched, accepted⟩ := except_bind_eq_ok_iff.mp accepted
      have first : reading.Adds [.switch _] none (ofDraft added) :=
        adds_ofDraft ready settled switched
      exact first.trans (induction (awaits_ofDraft added) accepted)
  | attached known noEquals =>
      rw [readShort, known] at accepted
      obtain ⟨draft, settled, accepted⟩ := except_bind_eq_ok_iff.mp accepted
      split at accepted
      · contradiction
      · rename_i same
        exact absurd (List.cons.inj same).1 noEquals
      · obtain ⟨added, valued, accepted⟩ := except_bind_eq_ok_iff.mp accepted
        cases accepted
        exact adds_ofDraft ready settled valued
  | equals known =>
      rw [readShort, known] at accepted
      obtain ⟨draft, settled, accepted⟩ := except_bind_eq_ok_iff.mp accepted
      obtain ⟨added, valued, accepted⟩ := except_bind_eq_ok_iff.mp accepted
      cases accepted
      exact adds_ofDraft ready settled valued
  | pending known =>
      rw [readShort, known] at accepted
      obtain ⟨draft, settled, accepted⟩ := except_bind_eq_ok_iff.mp accepted
      cases accepted
      exact adds_forValue ready settled

theorem adds_of_read (spelled : SpellsOne pending argument entries later)
    (awaits : reading.Awaits pending) (accepted : reading.read argument = .ok next) :
    reading.Adds entries later next := by
  cases spelled with
  | @value option text alone =>
      rw [read_of_pending awaits alone] at accepted
      cases accepted
      refine ⟨⟨awaits.optionsGoOn, fun _ => ⟨nofun, nofun⟩⟩, ?_⟩
      rw [given, (awaits.waiting option).mpr rfl]
      exact reading.draft.addAll_singleton _
  | switch known =>
      rw [read_name awaits (notMem_of_ofLong? known).1 (notMem_of_ofLong? known).2,
        readLong.eq_def, known] at accepted
      obtain ⟨draft, settled, accepted⟩ := except_bind_eq_ok_iff.mp accepted
      obtain ⟨added, switched, accepted⟩ := except_bind_eq_ok_iff.mp accepted
      cases accepted
      exact adds_ofDraft awaits settled switched
  | pending known =>
      rw [read_name awaits (notMem_of_ofLong? known).1 (notMem_of_ofLong? known).2,
        readLong.eq_def, known] at accepted
      obtain ⟨draft, settled, accepted⟩ := except_bind_eq_ok_iff.mp accepted
      cases accepted
      exact adds_forValue awaits settled
  | attached known =>
      rw [read_nameValue awaits (notMem_of_ofLong? known).2, readLong.eq_def, known] at accepted
      obtain ⟨draft, settled, accepted⟩ := except_bind_eq_ok_iff.mp accepted
      obtain ⟨added, valued, accepted⟩ := except_bind_eq_ok_iff.mp accepted
      cases accepted
      exact adds_ofDraft awaits settled valued
  | letters spelled =>
      rw [read_letters awaits spelled.ne_dash] at accepted
      exact adds_of_readLetters spelled awaits accepted
  | input alone =>
      rw [read_of_standsAlone awaits alone] at accepted
      exact adds_of_readInput awaits accepted

/-! ## What is read was spelled -/

theorem exists_spellsLetters (accepted : reading.readShort letters = .ok next) :
    ∃ entries pending, SpellsLetters letters entries pending := by
  induction letters generalizing reading with
  | nil => exact ⟨[], none, .nil⟩
  | cons letter letters induction =>
      rw [readShort] at accepted
      split at accepted
      · cases accepted
      · rename_i switch known
        obtain ⟨draft, _, accepted⟩ := except_bind_eq_ok_iff.mp accepted
        obtain ⟨added, _, accepted⟩ := except_bind_eq_ok_iff.mp accepted
        obtain ⟨entries, pending, spelled⟩ := induction accepted
        exact ⟨_, pending, .switch known spelled⟩
      · obtain ⟨_, _, accepted⟩ := except_bind_eq_ok_iff.mp accepted
        cases accepted
      · obtain ⟨_, _, accepted⟩ := except_bind_eq_ok_iff.mp accepted
        cases accepted
      · rename_i option known
        cases letters with
        | nil => exact ⟨[], some option, .pending known⟩
        | cons first text =>
            by_cases equals : first = '='
            · subst equals
              exact ⟨_, none, .equals known⟩
            · exact ⟨_, none, .attached known equals⟩

theorem exists_spellsOne (awaits : reading.Awaits pending)
    (accepted : reading.read argument = .ok next) (more : ¬ (pending = none ∧ argument = "--")) :
    ∃ entries later, SpellsOne pending argument entries later := by
  cases pending with
  | some option => exact ⟨_, none, .value (standsAlone_of_read awaits accepted)⟩
  | none =>
      cases argumentForm argument with
      | alone alone => exact ⟨_, none, .input alone⟩
      | dashes => exact absurd ⟨rfl, rfl⟩ more
      | long named noEquals =>
          rw [read_name awaits named noEquals, readLong.eq_def] at accepted
          split at accepted
          · rename_i known _
            exact ⟨_, none, .switch known⟩
          · rename_i known _
            exact ⟨[], _, .pending known⟩
          · contradiction
          · obtain ⟨_, _, accepted⟩ := except_bind_eq_ok_iff.mp accepted
            cases accepted
          · obtain ⟨_, _, accepted⟩ := except_bind_eq_ok_iff.mp accepted
            cases accepted
          · cases accepted
      | attached noEquals =>
          rw [read_nameValue awaits noEquals, readLong.eq_def] at accepted
          split at accepted
          · contradiction
          · contradiction
          · rename_i known same
            cases same
            exact ⟨_, none, .attached known⟩
          · contradiction
          · contradiction
          · cases accepted
      | letters noDash =>
          rw [read_letters awaits noDash] at accepted
          obtain ⟨entries, later, spelled⟩ := exists_spellsLetters accepted
          exact ⟨entries, later, .letters spelled⟩

/-! ## Reading to the end -/

def finish (reading : Reading) (arguments : List String) : Except Ending Draft := do
  let last ← arguments.foldlM read reading
  last.settle

theorem finish_nil : reading.finish [] = reading.settle := rfl

theorem finish_cons : reading.finish (argument :: arguments) =
    reading.read argument >>= fun next => next.finish arguments := by
  rw [finish, List.foldlM_cons, bind_assoc]
  rfl

theorem addAll_inputs_of_finish {start : Draft} {waiting : Waiting} {paths : List String}
    (finished : finish ⟨start, waiting, true⟩ paths = .ok draft) :
    (settle ⟨start, waiting, true⟩ >>= fun start => start.addAll (paths.map .input)) =
      .ok draft := by
  induction paths generalizing start waiting with
  | nil => exact (bind_pure _).trans finished
  | cons path paths induction =>
      rw [finish_cons, except_bind_eq_ok_iff] at finished
      obtain ⟨next, accepted, finished⟩ := finished
      rw [read, if_pos rfl, readInput, ite_eq_iff] at accepted
      rcases accepted with ⟨_, refused⟩ | ⟨_, accepted⟩
      · cases refused
      · obtain ⟨settled, found, accepted⟩ := except_bind_eq_ok_iff.mp accepted
        cases accepted
        rw [found, List.map_cons]
        exact (settled.addAll_cons _ _).trans (induction finished)

theorem addAll_of_spells (spelled : Spells pending arguments entries)
    (awaits : reading.Awaits pending) (finished : reading.finish arguments = .ok draft) :
    (reading.given >>= fun start => start.addAll entries) = .ok draft := by
  -- What is given so far changes with each argument, so the state is left open.
  induction spelled generalizing reading with
  | nil =>
      rw [given_of_awaits awaits]
      exact (bind_pure _).trans finished
  | cons one others induction =>
      rw [finish_cons, except_bind_eq_ok_iff] at finished
      obtain ⟨next, accepted, finished⟩ := finished
      have adds := adds_of_read one awaits accepted
      simp only [Draft.addAll_append]
      rw [← bind_assoc, adds.given_eq]
      exact induction adds.awaits finished
  | ended paths =>
      rw [finish_cons, read_dashes awaits] at finished
      rw [given_of_awaits awaits]
      exact addAll_inputs_of_finish finished

theorem exists_spells_of_finish (awaits : reading.Awaits pending)
    (finished : reading.finish arguments = .ok draft) :
    ∃ entries, Spells pending arguments entries := by
  induction arguments generalizing reading pending with
  | nil =>
      cases pending with
      | none => exact ⟨[], .nil⟩
      | some option =>
          rw [finish_nil, settle, (awaits.waiting option).mpr rfl] at finished
          cases finished
  | cons argument arguments induction =>
      by_cases ended : pending = none ∧ argument = "--"
      · obtain ⟨rfl, rfl⟩ := ended
        exact ⟨_, .ended arguments⟩
      · rw [finish_cons, except_bind_eq_ok_iff] at finished
        obtain ⟨next, accepted, finished⟩ := finished
        obtain ⟨first, later, one⟩ := exists_spellsOne awaits accepted ended
        obtain ⟨rest, others⟩ := induction (adds_of_read one awaits accepted).awaits finished
        exact ⟨_, .cons one others⟩

end Reading

/-! ## Arguments -/

variable {arguments : List String} {entries : List Entry} {draft : Draft}

theorem exists_spells (read : Draft.ofArguments arguments = .ok draft) :
    ∃ entries, Spells none arguments entries :=
  Reading.exists_spells_of_finish (Reading.awaits_ofDraft .empty) read

theorem Spells.addAll (spelled : Spells none arguments entries)
    (read : Draft.ofArguments arguments = .ok draft) : Draft.empty.addAll entries = .ok draft :=
  Reading.addAll_of_spells spelled (Reading.awaits_ofDraft .empty) read

end FirmwareCapsule.CommandLine
