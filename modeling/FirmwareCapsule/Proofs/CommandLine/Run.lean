import FirmwareCapsule.Proofs.Assembly.Form
import FirmwareCapsule.Proofs.CommandLine.Perform
import FirmwareCapsule.Proofs.Files

namespace FirmwareCapsule.CommandLine

/-! A run is all or nothing. It writes its file once everything else is done, and a run that
fails leaves nothing behind. What it starts on the way is known from its arguments. -/

variable {surroundings : Surroundings} {arguments : List String} {draft other : Draft}
  {outcome : Outcome}

/-! ## Requests -/

namespace Draft

/-- What a draft asks for: a capsule, with all that it takes and flags that go together, or
a report and nothing else. -/
inductive Asks (draft : Draft) : Request → Prop
  | encode {inputFile path output : String} {imageType : Guid}
      (given : draft.inputFile = some inputFile) (encodes : .encode ∈ draft.switches)
      (noDump : .dumpInfo ∉ draft.switches) (guid : draft.guid = some imageType)
      (privateKey : draft.privateKey = some path) (destination : draft.output = some output)
      (kept : (draft.assembly imageType).initiateReset = true →
        (draft.assembly imageType).persistAcrossReset = true) :
      draft.Asks
        (.encode inputFile output ⟨path, .openssl ∈ draft.switches⟩ (draft.assembly imageType))
  | dumpInfo {inputFile : String} (given : draft.inputFile = some inputFile)
      (dumps : .dumpInfo ∈ draft.switches) (noEncode : .encode ∉ draft.switches)
      (noOutput : draft.output = none) : draft.Asks (.dumpInfo inputFile)

theorem asks_of_request {request : Request} (requested : draft.request = .ok (.ok request)) :
    draft.Asks request := by
  rw [Draft.request] at requested
  split at requested
  · next given encodes noDump =>
    have asked := Except.ok.inj requested
    rw [Draft.encodeRequest] at asked
    split at asked
    · cases asked
    · cases asked
    · cases asked
    · next imageType path output guid privateKey destination =>
      dsimp only at asked
      split at asked
      · cases asked
      · next consistent =>
        cases asked
        refine .encode given (of_decide_eq_true encodes) (of_decide_eq_false noDump) guid privateKey
          destination fun initiate => ?_
        simpa only [initiate, Bool.true_and, Bool.not_eq_true', Bool.not_eq_false] using consistent
  · next given noEncode dumps =>
    have asked := Except.ok.inj requested
    rw [Draft.dumpInfoRequest] at asked
    split at asked
    · cases asked
    · next noOutput =>
      cases asked
      exact .dumpInfo given (of_decide_eq_true dumps) (of_decide_eq_false noEncode)
        (Option.not_isSome_iff_eq_none.mp noOutput)
  · cases requested

theorem request_of_asks {request : Request} (asks : draft.Asks request) :
    draft.request = .ok (.ok request) := by
  cases asks with
  | @encode inputFile path output imageType given encodes noDump guid privateKey destination kept =>
    have consistent : ¬ ((draft.assembly imageType).initiateReset &&
        !(draft.assembly imageType).persistAcrossReset) = true := by
      intro refused
      rw [Bool.and_eq_true, Bool.not_eq_true'] at refused
      exact Bool.false_ne_true (refused.2.symm.trans (kept refused.1))
    rw [Draft.request, given, decide_eq_true encodes, decide_eq_false noDump]
    dsimp only
    rw [Draft.encodeRequest, guid, privateKey, destination]
    dsimp only
    rw [if_neg consistent]
  | dumpInfo given dumps noEncode noOutput =>
    rw [Draft.request, given, decide_eq_false noEncode, decide_eq_true dumps]
    dsimp only
    rw [Draft.dumpInfoRequest, noOutput]
    rfl

/-- Flags count once, in any order. -/
theorem assembly_eq_of_flags (flags : ∀ flag, flag ∈ draft.capsuleFlags ↔ flag ∈ other.capsuleFlags)
    (rest : { draft with capsuleFlags := [] } = { other with capsuleFlags := [] })
    (imageType : Guid) : draft.assembly imageType = other.assembly imageType := by
  have contains (flag : CapsuleFlag) :
      draft.capsuleFlags.contains flag = other.capsuleFlags.contains flag := by
    rw [Bool.eq_iff_iff, List.contains_iff_mem, List.contains_iff_mem, flags]
  obtain ⟨-, -, -, -, oemFlags, -, hardwareInstance, monotonicCount, -⟩ := Draft.mk.inj rest
  rw [Draft.assembly, Draft.assembly, contains, contains, oemFlags, hardwareInstance,
    monotonicCount]

theorem request_eq_of_flags
    (flags : ∀ flag, flag ∈ draft.capsuleFlags ↔ flag ∈ other.capsuleFlags)
    (rest : { draft with capsuleFlags := [] } = { other with capsuleFlags := [] }) :
    draft.request = other.request := by
  have assembly := assembly_eq_of_flags flags rest
  obtain ⟨switches, inputFile, output, -, -, guid, -, -, privateKey⟩ := Draft.mk.inj rest
  simp only [Draft.request, Draft.encodeRequest, Draft.dumpInfoRequest, assembly, switches,
    inputFile, output, guid, privateKey]

def commands (draft : Draft) (path : String) : List (List String) :=
  (if .verbose ∈ draft.switches then [["version"]] else []) ++
    [["rsa", "-in", path, "-modulus", "-noout"], ["dgst", "-sha256", "-sign", path]]

theorem probes_append_signings (draft : Draft) (path : String) :
    KeyChoice.probes ⟨path, true⟩ (.verbose ∈ draft.switches) ++ KeyChoice.signings ⟨path, true⟩ =
      draft.commands path := by
  rw [KeyChoice.probes, Bool.true_and, KeyChoice.signings, if_pos rfl, commands]
  simp only [decide_eq_true_eq]

end Draft

/-! ## Forms of a run -/

theorem ofStep_perform_cases (surroundings : Surroundings) (verbose : Bool) (request : Request) :
    (∃ product, (request.perform surroundings verbose).outcome = .ok product ∧
      (Outcome.ofStep verbose (request.perform surroundings verbose)).exitCode = 0 ∧
      (Outcome.ofStep verbose (request.perform surroundings verbose)).printed = product.printed ∧
      (Outcome.ofStep verbose (request.perform surroundings verbose)).written = product.written) ∨
    ((Outcome.ofStep verbose (request.perform surroundings verbose)).exitCode = 1 ∧
      (Outcome.ofStep verbose (request.perform surroundings verbose)).printed = "" ∧
      (Outcome.ofStep verbose (request.perform surroundings verbose)).written = none) := by
  cases ended : (request.perform surroundings verbose).outcome with
  | ok product =>
    left
    rw [Outcome.ofStep, ended]
    exact ⟨product, rfl, rfl, rfl, rfl⟩
  | error failure =>
    right
    rw [Outcome.ofStep, ended]
    exact ⟨exitCode_of_outcome_perform ended, rfl, rfl⟩

theorem Outcome.processes_ofStep (verbose : Bool) (step : Step Product) :
    (Outcome.ofStep verbose step).processes = Signing.runsOf step.events := by
  rw [Outcome.ofStep]
  split <;> rfl

inductive RunForm (surroundings : Surroundings) (arguments : List String) : Outcome → Prop
  | shown (text : String) (unread : ∀ draft, Draft.ofArguments arguments ≠ .ok draft) :
      RunForm surroundings arguments (.ofText text)
  | misused (failure : Failure) (code : failure.exitCode = 2) :
      RunForm surroundings arguments (.ofFailure failure)
  | performed {draft : Draft} {request : Request}
      (read : Draft.ofArguments arguments = .ok draft) (asks : draft.Asks request) :
      RunForm surroundings arguments
        (.ofStep (.verbose ∈ draft.switches)
          (request.perform surroundings (.verbose ∈ draft.switches)))

theorem runForm (surroundings : Surroundings) (arguments : List String) :
    RunForm surroundings arguments (run surroundings arguments) := by
  rw [run]
  split
  · next stops => exact .shown helpText fun draft read => by rw [stops] at read; cases read
  · next stops => exact .shown versionText fun draft read => by rw [stops] at read; cases read
  · exact .misused .misuse rfl
  · next option value fault _ => exact .misused (.badValue option value fault) rfl
  · next draft read =>
    split
    · exact .misused .misuse rfl
    · next fault _ => exact .misused (.badRequest fault) rfl
    · next request requested => exact .performed read (Draft.asks_of_request requested)

namespace RunForm

theorem of_exitCode_ne_zero (form : RunForm surroundings arguments outcome)
    (failed : outcome.exitCode ≠ 0) : outcome.printed = "" ∧ outcome.written = none := by
  cases form with
  | shown text unread => exact absurd rfl failed
  | misused failure code => exact ⟨rfl, rfl⟩
  | @performed draft request read asks =>
    rcases ofStep_perform_cases surroundings (.verbose ∈ draft.switches) request with
      ⟨product, _, succeeded, _⟩ | ⟨_, nothing⟩
    · exact absurd succeeded failed
    · exact nothing

theorem of_exitCode_eq_two (form : RunForm surroundings arguments outcome)
    (misused : outcome.exitCode = 2) : outcome.processes = [] := by
  cases form with
  | shown text unread => rfl
  | misused failure code => rfl
  | @performed draft request read asks =>
    rcases ofStep_perform_cases surroundings (.verbose ∈ draft.switches) request with
      ⟨product, _, succeeded, _⟩ | ⟨failed, _⟩
    · rw [succeeded] at misused
      cases misused
    · rw [failed] at misused
      cases misused

theorem processes_eq_nil {starting : Step Product} (starts : Signing.StartsInTurn [] starting)
    (verbose : Bool) : (Outcome.ofStep verbose starting).processes = [] := by
  rw [Outcome.processes_ofStep]
  exact List.map_eq_nil_iff.mp (List.prefix_nil.mp starts.first)

theorem exists_of_processes_ne_nil (form : RunForm surroundings arguments outcome)
    (started : outcome.processes ≠ []) :
    ∃ draft path, Draft.ofArguments arguments = .ok draft ∧ .dumpInfo ∉ draft.switches ∧
      .openssl ∈ draft.switches ∧ draft.privateKey = some path ∧
      outcome.processes.map Signing.ProcessRun.arguments <+: draft.commands path := by
  cases form with
  | shown text unread => exact absurd rfl started
  | misused failure code => exact absurd rfl started
  | @performed draft request read asks =>
    cases asks with
    | dumpInfo given dumps noEncode noOutput =>
      exact absurd (processes_eq_nil (startsInTurn_perform_dumpInfo _) _) started
    | @encode inputFile path output imageType given encodes noDump guid privateKey =>
      generalize chosen : decide (.openssl ∈ draft.switches) = useOpenssl at started
      have starts : Signing.StartsInTurn _ ((Request.encode inputFile output ⟨path, useOpenssl⟩
          (draft.assembly imageType)).perform surroundings (.verbose ∈ draft.switches)) :=
        startsInTurn_perform_encode inputFile output (draft.assembly imageType)
      cases useOpenssl with
      | false => exact absurd (processes_eq_nil starts _) started
      | true =>
        rw [Outcome.processes_ofStep]
        refine ⟨draft, path, read, noDump, of_decide_eq_true chosen, privateKey, ?_⟩
        rw [← draft.probes_append_signings]
        exact starts.first

theorem exists_product (form : RunForm surroundings arguments outcome)
    (read : Draft.ofArguments arguments = .ok draft) (encodes : .encode ∈ draft.switches)
    (done : outcome.exitCode = 0) :
    ∃ inputFile imageType path output product,
      draft.inputFile = some inputFile ∧ draft.guid = some imageType ∧
      draft.privateKey = some path ∧ draft.output = some output ∧
      let performed := (Request.encode inputFile output ⟨path, .openssl ∈ draft.switches⟩
        (draft.assembly imageType)).perform surroundings (.verbose ∈ draft.switches)
      performed.outcome = .ok product ∧ outcome.printed = product.printed ∧
        outcome.written = product.written ∧
        outcome.processes = Signing.runsOf performed.events := by
  cases form with
  | shown text unread => exact absurd read (unread draft)
  | misused failure code =>
    have succeeded : failure.exitCode = 0 := done
    rw [code] at succeeded
    cases succeeded
  | @performed other request otherRead asks =>
    cases Except.ok.inj (read.symm.trans otherRead)
    cases asks with
    | dumpInfo given dumps noEncode => exact absurd encodes noEncode
    | @encode inputFile path output imageType given _ _ guid privateKey destination =>
      rcases ofStep_perform_cases surroundings (.verbose ∈ draft.switches)
        (.encode inputFile output ⟨path, .openssl ∈ draft.switches⟩ (draft.assembly imageType)) with
        ⟨product, ended, _, printed, written⟩ | ⟨failed, _⟩
      · exact ⟨inputFile, imageType, path, output, product, given, guid, privateKey, destination,
          ended, printed, written, Outcome.processes_ofStep _ _⟩
      · rw [failed] at done
        cases done

theorem arguments_of_exitCode_eq_zero {path : String}
    (form : RunForm surroundings arguments outcome)
    (read : Draft.ofArguments arguments = .ok draft) (encodes : .encode ∈ draft.switches)
    (useOpenssl : .openssl ∈ draft.switches) (privateKey : draft.privateKey = some path)
    (done : outcome.exitCode = 0) :
    outcome.processes.map Signing.ProcessRun.arguments = draft.commands path := by
  obtain ⟨inputFile, imageType, otherPath, output, product, -, -, otherKey, -, ended, -, -,
    processes⟩ := form.exists_product read encodes done
  cases Option.some.inj (privateKey.symm.trans otherKey)
  rw [processes, ← draft.probes_append_signings]
  simp only [useOpenssl, decide_true] at ended ⊢
  exact (startsInTurn_perform_encode inputFile output _).all product ended

theorem written_of_dumpInfo (form : RunForm surroundings arguments outcome)
    (read : Draft.ofArguments arguments = .ok draft) (dumps : .dumpInfo ∈ draft.switches) :
    outcome.written = none := by
  cases form with
  | shown text unread => rfl
  | misused failure code => rfl
  | @performed other request otherRead asks =>
    cases Except.ok.inj (read.symm.trans otherRead)
    cases asks with
    | encode given encodes noDump => exact absurd dumps noDump
    | @dumpInfo inputFile =>
      rcases ofStep_perform_cases surroundings (.verbose ∈ draft.switches)
        (.dumpInfo inputFile) with ⟨product, done, _, _, written⟩ | ⟨_, _, unwritten⟩
      · rw [written, written_of_perform_dumpInfo done]
      · exact unwritten

end RunForm

/-! ## What a run leaves behind -/

/-- A capsule that is assembled as a draft says, and the path where it is to go. The payload
is what the input file holds before anything is written. -/
def Draft.Makes (draft : Draft) (surroundings : Surroundings) (output : String)
    (capsule : Bytes) : Prop :=
  ∃ inputFile imageType path payload signer,
    draft.inputFile = some inputFile ∧ draft.guid = some imageType ∧
    draft.privateKey = some path ∧ draft.output = some output ∧
    surroundings.readFile inputFile = .ok payload ∧
    (chooseSigner surroundings (.verbose ∈ draft.switches)
      ⟨path, .openssl ∈ draft.switches⟩).outcome = .ok signer ∧
    ((draft.assembly imageType).encode payload signer).outcome = .ok capsule

theorem RunForm.makes (form : RunForm surroundings arguments outcome)
    (read : Draft.ofArguments arguments = .ok draft) (encodes : .encode ∈ draft.switches)
    (done : outcome.exitCode = 0) :
    outcome.printed = "" ∧ ∃ output capsule, draft.Makes surroundings output capsule ∧
      surroundings.writeFault? output = none ∧ outcome.written = some (output, capsule) := by
  obtain ⟨inputFile, imageType, path, output, product, given, guid, privateKey, destination, ended,
    printed, written, -⟩ := form.exists_product read encodes done
  obtain ⟨payload, signer, capsule, found, chosen, built, writable, rfl⟩ :=
    outcome_perform_encode_eq_ok_iff.mp ended
  exact ⟨printed, output, capsule, ⟨inputFile, imageType, path, payload, signer, given, guid,
    privateKey, destination, found, chosen, built⟩, writable, written⟩

theorem exitCode_of_makes {output : String} {capsule : Bytes}
    (read : Draft.ofArguments arguments = .ok draft) (encodes : .encode ∈ draft.switches)
    (noDump : .dumpInfo ∉ draft.switches) (makes : draft.Makes surroundings output capsule)
    (writable : surroundings.writeFault? output = none) :
    (run surroundings arguments).exitCode = 0 := by
  obtain ⟨inputFile, imageType, path, payload, signer, given, guid, privateKey, destination, found,
    chosen, built⟩ := makes
  have requested := Draft.request_of_asks (.encode given encodes noDump guid privateKey destination
    (Assembly.persistAcrossReset_of_outcome_encode built))
  have ended := outcome_perform_encode_eq_ok_iff.mpr
    ⟨payload, signer, capsule, found, chosen, built, writable, rfl⟩
  rw [run, read]
  dsimp only
  rw [requested]
  dsimp only
  rw [Outcome.ofStep, ended]

def Surroundings.Cover (surroundings : Surroundings) (before : Directory) : Prop :=
  ∀ path content, surroundings.writeFault? path = none →
    ∃ after, before.write path content = .ok after

theorem cover_ofDirectory (before : Directory) (opensslDirectory : Option String)
    (program : String → Option Openssl.Program) :
    (Surroundings.ofDirectory before opensslDirectory program).Cover before := by
  intro path content faultless
  rw [Surroundings.ofDirectory] at faultless
  dsimp only at faultless
  split at faultless
  · next emptied written =>
    obtain ⟨name, found, -⟩ := Directory.write_eq_ok_iff.mp written
    exact ⟨_, Directory.write_eq_ok_iff.mpr ⟨name, found, rfl⟩⟩
  · cases faultless

structure IsAllOrNothing (surroundings : Surroundings) (arguments : List String)
    (outcome : Outcome) : Prop where
  failed : outcome.exitCode ≠ 0 → outcome.printed = "" ∧
    ∀ before, outcome.directory before = before
  misused : outcome.exitCode = 2 → outcome.processes = []
  dumped : ∀ draft, Draft.ofArguments arguments = .ok draft → .dumpInfo ∈ draft.switches →
    outcome.processes = [] ∧ ∀ before, outcome.directory before = before
  encoded : ∀ draft, Draft.ofArguments arguments = .ok draft → .encode ∈ draft.switches →
    outcome.exitCode = 0 → outcome.printed = "" ∧
      ∃ output capsule, draft.Makes surroundings output capsule ∧
        outcome.written = some (output, capsule) ∧
        ∀ before, surroundings.Cover before →
          (outcome.directory before).read output = .ok capsule ∧
          ∀ name, before.destination output ≠ .ok name →
            (outcome.directory before).lookup? name = before.lookup? name
  /-- Nothing else than what a capsule takes can make a run fail. -/
  succeeds : ∀ draft output capsule, Draft.ofArguments arguments = .ok draft →
    .encode ∈ draft.switches → .dumpInfo ∉ draft.switches →
    draft.Makes surroundings output capsule → surroundings.writeFault? output = none →
    outcome.exitCode = 0
  flags : ∀ draft otherArguments other, Draft.ofArguments arguments = .ok draft →
    Draft.ofArguments otherArguments = .ok other →
    (∀ flag, flag ∈ draft.capsuleFlags ↔ flag ∈ other.capsuleFlags) →
    { draft with capsuleFlags := [] } = { other with capsuleFlags := [] } →
    run surroundings otherArguments = outcome
  started : outcome.processes ≠ [] → ∃ draft path, Draft.ofArguments arguments = .ok draft ∧
    .openssl ∈ draft.switches ∧ draft.privateKey = some path ∧
    outcome.processes.map Signing.ProcessRun.arguments <+: draft.commands path
  allStarted : ∀ draft path, Draft.ofArguments arguments = .ok draft → .encode ∈ draft.switches →
    .openssl ∈ draft.switches → draft.privateKey = some path → outcome.exitCode = 0 →
    outcome.processes.map Signing.ProcessRun.arguments = draft.commands path
  consistent : ∀ draft inputFile output key assembly, Draft.ofArguments arguments = .ok draft →
    draft.request = .ok (.ok (.encode inputFile output key assembly)) →
    ∀ payload signer, (assembly.encode payload signer).outcome ≠ .error .resetWithoutPersistence

theorem directory_of_written_none (outcome : Outcome) (unwritten : outcome.written = none)
    (before : Directory) : outcome.directory before = before := by
  rw [Outcome.directory, unwritten]

theorem isAllOrNothing (surroundings : Surroundings) (arguments : List String) :
    IsAllOrNothing surroundings arguments (run surroundings arguments) := by
  have form := runForm surroundings arguments
  constructor
  case failed =>
    intro failed
    obtain ⟨printed, written⟩ := form.of_exitCode_ne_zero failed
    exact ⟨printed, directory_of_written_none _ written⟩
  case misused => exact form.of_exitCode_eq_two
  case dumped =>
    intro draft read dumps
    refine ⟨?_, directory_of_written_none _ (form.written_of_dumpInfo read dumps)⟩
    by_cases started : (run surroundings arguments).processes = []
    · exact started
    · obtain ⟨other, _, otherRead, noDump, _⟩ := form.exists_of_processes_ne_nil started
      cases Except.ok.inj (read.symm.trans otherRead)
      exact absurd dumps noDump
  case encoded =>
    intro draft read encodes done
    obtain ⟨printed, output, capsule, makes, writable, written⟩ := form.makes read encodes done
    refine ⟨printed, output, capsule, makes, written, fun before cover => ?_⟩
    obtain ⟨after, wrote⟩ := cover output capsule writable
    have changed : (run surroundings arguments).directory before = after := by
      rw [Outcome.directory, written]
      simp only [wrote]
    rw [changed]
    exact ⟨Directory.read_of_write wrote, fun name => Directory.lookup?_of_write wrote⟩
  case succeeds =>
    intro draft output capsule read encodes noDump makes writable
    exact exitCode_of_makes read encodes noDump makes writable
  case flags =>
    intro draft otherArguments other read otherRead flags rest
    rw [run, run, read, otherRead]
    simp only [Draft.request_eq_of_flags flags rest, (Draft.mk.inj rest).1]
  case started =>
    intro started
    obtain ⟨draft, path, read, -, useOpenssl, privateKey, starts⟩ :=
      form.exists_of_processes_ne_nil started
    exact ⟨draft, path, read, useOpenssl, privateKey, starts⟩
  case allStarted =>
    intro draft path read encodes useOpenssl privateKey done
    exact form.arguments_of_exitCode_eq_zero read encodes useOpenssl privateKey done
  case consistent =>
    intro draft inputFile output key assembly read requested payload signer
    cases Draft.asks_of_request requested with
    | encode _ _ _ _ _ _ kept =>
      exact Assembly.outcome_encode_ne_resetWithoutPersistence kept payload signer

/-- Unless it is to be shown, the version of the `openssl` program is not asked for. -/
theorem exists_run_without_probe :
    let silent : Openssl.Program := ⟨fun _ => true, fun _ _ => ⟨[], [], 0⟩⟩
    let surroundings : Surroundings := ⟨fun _ => .ok [], fun _ => none, none, fun _ => some silent⟩
    let outcome := run surroundings
      ["payload.bin", "-e", "-o", "out.bin", "--guid", "6dcbd5ed-e82d-4c44-bda1-7194199ad92a",
        "--private-key", "key.pem", "--openssl"]
    ¬ outcome.processes.map Signing.ProcessRun.arguments <+:
      [["version"], ["rsa", "-in", "key.pem", "-modulus", "-noout"],
        ["dgst", "-sha256", "-sign", "key.pem"]] := by
  decide +kernel

end FirmwareCapsule.CommandLine
