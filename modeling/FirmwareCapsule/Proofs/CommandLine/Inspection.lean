import FirmwareCapsule.Proofs.Assembly.Shown
import FirmwareCapsule.Proofs.CommandLine.Collecting
import FirmwareCapsule.Proofs.CommandLine.Numbers
import FirmwareCapsule.Proofs.CommandLine.Run
import FirmwareCapsule.Proofs.Guid.Writing

namespace FirmwareCapsule.CommandLine

/-! Inspecting what was encoded. A run that encodes a capsule is followed by one that prints the
headers of the file that was written. What is printed is what was asked for in the arguments of
the first run, down to the texts. -/

variable {surroundings following : Surroundings} {arguments : List String} {entries : List Entry}
  {draft : Draft} {output path : String} {content : Bytes} {layers : Layers}

/-! ## What is asked for -/

def GiveNumber (texts : List String) (number : Nat) : Prop :=
  texts = [] ∧ number = 0 ∨
    ∃ text, texts = [text] ∧ WritesNumber (Text.trim text.toList) number

structure AskFor (entries : List Entry) (assembly : Assembly) : Prop where
  capsuleGuid : assembly.capsuleGuid.toText = "6DCBD5ED-E82D-4C44-BDA1-7194199AD92A"
  /-- The digits of the given text in upper case, in the groups of the registry format. -/
  imageType : ∃ text, textsOf .guid entries = [text] ∧ (Guid.upperDigits text).length = 32 ∧
    assembly.imageType.toText.toList = Guid.grouped (Guid.upperDigits text)
  hardwareInstance :
    GiveNumber (textsOf .hardwareInstance entries) assembly.hardwareInstance.toNat
  monotonicCount : GiveNumber (textsOf .monotonicCount entries) assembly.monotonicCount.toNat
  oemFlags : GiveNumber (textsOf .oemFlags entries) assembly.oemFlags.toNat
  persistAcrossReset : assembly.persistAcrossReset = true ↔
    "PersistAcrossReset" ∈ textsOf .capsuleFlag entries
  initiateReset : assembly.initiateReset = true ↔ "InitiateReset" ∈ textsOf .capsuleFlag entries

theorem giveNumber_of_isReadFrom {word : Type} {read : String → Except ValueFault word}
    {toNat : word → Nat} {zero : word} {texts : List String} {given : Option word}
    (none : toNat zero = 0)
    (written : ∀ {text value}, read text = .ok value →
      WritesNumber (Text.trim text.toList) (toNat value))
    (isRead : IsReadFrom read texts given) : GiveNumber texts (toNat (given.getD zero)) := by
  cases given with
  | none => exact .inl ⟨isReadFrom_none.mp isRead, none⟩
  | some value =>
      obtain ⟨text, only, accepted⟩ := isReadFrom_some.mp isRead
      exact .inr ⟨text, only, written accepted⟩

theorem ofText?_of_guid {text : String} {imageType : Guid} (accepted : guid text = .ok imageType) :
    Guid.ofText? text = .ok imageType := by
  rw [guid] at accepted
  split at accepted
  · rename_i found
    cases accepted
    exact found
  · cases accepted

namespace CapsuleFlag

def name : CapsuleFlag → String
  | persistAcrossReset => "PersistAcrossReset"
  | initiateReset => "InitiateReset"

theorem ofName?_eq_some_iff {text : String} {flag : CapsuleFlag} :
    ofName? text = some flag ↔ text = flag.name := by
  rw [ofName?]
  split
  · rename_i same
    subst same
    cases flag <;> decide
  · rename_i other
    split
    · rename_i same
      subst same
      cases flag <;> decide
    · rename_i another
      cases flag
      · exact ⟨nofun, fun same => absurd same other⟩
      · exact ⟨nofun, fun same => absurd same another⟩

theorem contains_iff_of_map {texts : List String} {flags : List CapsuleFlag}
    (read : texts.map ofName? = flags.map some) (flag : CapsuleFlag) :
    flags.contains flag = true ↔ flag.name ∈ texts := by
  rw [List.contains_iff_mem]
  constructor
  · intro inside
    have known : some flag ∈ texts.map ofName? := read ▸ List.mem_map_of_mem inside
    obtain ⟨text, given, found⟩ := List.mem_map.mp known
    exact ofName?_eq_some_iff.mp found ▸ given
  · intro given
    have known : ofName? flag.name ∈ flags.map some := read ▸ List.mem_map_of_mem given
    rw [ofName?_eq_some_iff.mpr rfl] at known
    obtain ⟨other, inside, same⟩ := List.mem_map.mp known
    exact Option.some.inj same ▸ inside

end CapsuleFlag

theorem Draft.Collects.askFor {imageType : Guid} (collects : draft.Collects entries)
    (given : draft.guid = some imageType) : AskFor entries (draft.assembly imageType) where
  capsuleGuid := (by decide : Envelope.managementGuid.toText = _)
  imageType := by
    have isRead : IsReadFrom CommandLine.guid (textsOf .guid entries) draft.guid :=
      collects.values .guid
    rw [given] at isRead
    obtain ⟨text, only, accepted⟩ := isReadFrom_some.mp isRead
    have digits := Guid.upperDigits_of_ofText? (ofText?_of_guid accepted)
    refine ⟨text, only, ?_, ?_⟩
    · rw [digits, List.length_map, Guid.length_textDigits]
      rfl
    · rw [digits]
      exact imageType.toList_toText
  hardwareInstance :=
    giveNumber_of_isReadFrom rfl integer_eq_ok_iff.mp (collects.values .hardwareInstance)
  monotonicCount :=
    giveNumber_of_isReadFrom rfl integer_eq_ok_iff.mp (collects.values .monotonicCount)
  oemFlags := giveNumber_of_isReadFrom rfl sixteenBits_eq_ok_iff.mp (collects.values .oemFlags)
  persistAcrossReset := CapsuleFlag.contains_iff_of_map (collects.values .capsuleFlag) _
  initiateReset := CapsuleFlag.contains_iff_of_map (collects.values .capsuleFlag) _

/-! ## Inspecting a file -/

theorem ofArguments_dumpInfo (plain : output.toList.head? ≠ some '-') (named : output ≠ "") :
    Draft.ofArguments [output, "--dump-info"] =
      .ok { Draft.empty with switches := [.dumpInfo], inputFile := some output } := by
  have alone : StandsAlone output := by
    intro first rest characters
    rw [characters] at plain
    exact plain rfl
  have path : Draft.filePath output = .ok output := filePath_eq_ok_iff.mpr ⟨named, rfl⟩
  have ready : Reading.start.Awaits none := Reading.awaits_ofDraft .empty
  have first : Reading.start.read output = .ok ⟨.empty, .input output, false⟩ := by
    rw [Reading.read_of_standsAlone ready alone]
    rfl
  have settled : Reading.settle ⟨.empty, .input output, false⟩ =
      .ok { Draft.empty with inputFile := some output } := by
    change Draft.empty.addInput output = _
    rw [Draft.addInput, Draft.once, path]
    rfl
  have second : Reading.read ⟨.empty, .input output, false⟩ "--dump-info" =
      .ok (.ofDraft
        { Draft.empty with switches := [.dumpInfo], inputFile := some output }) := by
    have awaits : Reading.Awaits ⟨.empty, .input output, false⟩ none :=
      Reading.awaits_input ready.optionsGoOn output
    change Reading.read _ ("--" ++ "dump-info") = _
    rw [Reading.read_name awaits (by decide) (by decide)]
    change (Reading.settle _ >>= fun settled => settled.addSwitch .dumpInfo >>= fun added =>
      .ok (Reading.ofDraft added)) = _
    rw [settled]
    rfl
  change Reading.start.finish _ = _
  rw [Reading.finish_cons, first]
  change Reading.finish ⟨.empty, .input output, false⟩ ["--dump-info"] = _
  rw [Reading.finish_cons, second]
  rfl

def Outcome.ReportsOn (outcome : Outcome) (layers : Layers) : Prop :=
  outcome.exitCode = 0 ∧ outcome.printed = layers.report

theorem run_dumpInfo (plain : output.toList.head? ≠ some '-') (named : output ≠ "")
    (found : following.readFile output = .ok content)
    (decoded : (Layers.decode content).outcome = .ok layers) :
    (run following [output, "--dump-info"]).ReportsOn layers := by
  have read := ofArguments_dumpInfo plain named
  have done : ((Request.dumpInfo output).perform following false).outcome =
      .ok ⟨layers.report, none⟩ := by
    have peeled : (Step.ofLogged .notDecoded (Layers.decode content)).outcome = .ok layers :=
      outcome_ofAction_eq_ok_iff.mpr decoded
    rw [Request.perform, Traced.outcome_bind_of_ok (outcome_readInput_eq_ok_iff.mpr found),
      Traced.outcome_bind_of_ok peeled]
    rfl
  have ended : run following [output, "--dump-info"] =
      .ofStep false ((Request.dumpInfo output).perform following false) := by
    rw [run, read]
    rfl
  rw [ended, Outcome.ofStep, done]
  exact ⟨rfl, rfl⟩

/-! ## One run after the other -/

structure IsInspected (surroundings : Surroundings) (entries : List Entry) (outcome : Outcome)
    (output : String) (assembly : Assembly) (payload capsule : Bytes) (layers : Layers) :
    Prop where
  asked : AskFor entries assembly
  input : ∃ path, inputsOf entries = [path] ∧ surroundings.readFile path = .ok payload
  destination : textsOf .output entries = [output]
  written : outcome.written = some (output, capsule)
  decoded : (Layers.decode capsule).outcome = .ok layers
  content : layers.payload = payload
  report : layers.report = assembly.shown payload.length layers.image.certificate
  inspected : ∀ following : Surroundings, following.readFile output = .ok capsule →
    (run following [output, "--dump-info"]).ReportsOn layers
  /-- In the directory that the first run leaves behind. -/
  inspectedInDirectory : ∀ before opensslDirectory program, surroundings.Cover before →
    (run (.ofDirectory (outcome.directory before) opensslDirectory program)
      [output, "--dump-info"]).ReportsOn layers

theorem directory_of_written {outcome : Outcome} {before after : Directory} {capsule : Bytes}
    (written : outcome.written = some (output, capsule))
    (wrote : before.write output capsule = .ok after) : outcome.directory before = after := by
  rw [Outcome.directory, written]
  simp only [wrote]

theorem showsWhatWasAsked (read : Draft.ofArguments arguments = .ok draft)
    (encodes : .encode ∈ draft.switches) (given : draft.output = some output)
    (plain : output.toList.head? ≠ some '-')
    (done : (run surroundings arguments).exitCode = 0) :
    (∃ entries, Spells none arguments entries) ∧
      ∀ entries, Spells none arguments entries → ∃ assembly payload capsule layers,
        IsInspected surroundings entries (run surroundings arguments) output assembly payload
          capsule layers := by
  refine ⟨exists_spells read, fun entries spelled => ?_⟩
  have collects := spelled.collects read
  obtain ⟨-, other, capsule, ⟨inputFile, imageType, path, payload, signer, input, guid, -, same,
    found, -, built⟩, writable, written⟩ := (runForm surroundings arguments).makes read encodes done
  cases Option.some.inj (given.symm.trans same)
  obtain ⟨certificate, -, decoded⟩ := Assembly.exists_layers_of_outcome_encode built
  have outputs : IsReadFrom Draft.filePath (textsOf .output entries) draft.output :=
    collects.values .output
  rw [given] at outputs
  obtain ⟨onlyOutput, named⟩ := eq_of_isReadFrom_filePath outputs
  have inputs := collects.inputFile
  rw [input] at inputs
  obtain ⟨onlyInput, -⟩ := eq_of_isReadFrom_filePath inputs
  -- Wherever the file is found intact, its layers are those that were assembled.
  have shown (following : Surroundings) (intact : following.readFile output = .ok capsule) :=
    run_dumpInfo plain named intact decoded
  exact ⟨draft.assembly imageType, payload, capsule,
    (draft.assembly imageType).layers certificate payload, {
    asked := collects.askFor guid
    input := ⟨inputFile, onlyInput, found⟩
    destination := onlyOutput
    written := written
    decoded := decoded
    content := rfl
    report := Assembly.report_layers _ certificate payload
    inspected := shown
    inspectedInDirectory := by
      intro before opensslDirectory program cover
      obtain ⟨after, wrote⟩ := cover output capsule writable
      rw [directory_of_written written wrote]
      exact shown _ (Directory.read_of_write wrote) }⟩

theorem showsWhatWasAsked_three_bytes :
    let before : Directory := ⟨[("in.bin", [1, 2, 3])]⟩
    let key : Openssl.Program := ⟨fun _ => true, fun arguments _ =>
      if arguments.head? = some "rsa" then ⟨"Modulus=05".toUTF8.data.toList, [], 0⟩
      else ⟨List.replicate 256 7, [], 0⟩⟩
    let surroundings := Surroundings.ofDirectory before none fun _ => some key
    let arguments := ["in.bin", "-eo", "out.bin", "--guid=\x7b6dcbd5ede82d4c44bda17194199ad92a\x7d",
      "--private-key", "key.pem", "--openssl", "--capoemflag", "0x2A", "--capflag",
      "PersistAcrossReset"]
    (run surroundings arguments).exitCode = 0 ∧ (∃ entries, Spells none arguments entries) ∧
      ∀ entries, Spells none arguments entries → ∃ assembly payload capsule layers,
        IsInspected surroundings entries (run surroundings arguments) "out.bin" assembly payload
          capsule layers := by
  intro before key surroundings arguments
  have read : Draft.ofArguments arguments = .ok {
      switches := [.encode, .openssl]
      inputFile := some "in.bin"
      output := some "out.bin"
      capsuleFlags := [.persistAcrossReset]
      oemFlags := some 42
      guid := some Envelope.managementGuid
      hardwareInstance := none
      monotonicCount := none
      privateKey := some "key.pem" } := by decide +kernel
  have done : (run surroundings arguments).exitCode = 0 := by decide +kernel
  exact ⟨done, showsWhatWasAsked read List.mem_cons_self rfl (by decide) done⟩

end FirmwareCapsule.CommandLine
