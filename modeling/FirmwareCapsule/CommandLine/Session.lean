import FirmwareCapsule.CommandLine.Request
import FirmwareCapsule.Layers
import FirmwareCapsule.Openssl.Signer
import FirmwareCapsule.Rsa.Signer

namespace FirmwareCapsule.CommandLine

/-! One run of the tool, as a function of its arguments and its surroundings.
A run writes at most one file, and only as its last step. -/

/-- What a run finds. A log filter that is set in the environment would come before the level
that the arguments ask for; here none is set. -/
structure Surroundings where
  readFile : (path : String) → Except FileFault Bytes
  /-- Why nothing can be written to a path, if there is a reason. -/
  writeFault? : (path : String) → Option FileFault
  /-- Where the user says that the `openssl` program is. -/
  opensslDirectory : Option String
  program : (command : String) → Option Openssl.Program

inductive Failure where
  | misuse
  | badValue (option : Valued) (value : String) (fault : ValueFault)
  | badRequest (fault : RequestFault)
  | unreadableInput (path : String) (fault : FileFault)
  | unusableSigner (fault : Fault)
  | notEncoded (fault : Fault)
  | unwritableOutput (path : String) (fault : FileFault)
  | notDecoded (fault : Fault)

namespace Failure

def exitCode : Failure → Nat
  | misuse | badValue _ _ _ | badRequest _ => 2
  | _ => 1

/-- What the user is told. On misuse that is how the tool is used, in place of a
message of its own. A value is shown without terminal control, and so is what is
said about it: a sequence that is left open in the one does not reach the other. -/
def complaint? : Failure → Option String
  | misuse => none
  | badValue option value fault =>
      some ("error: invalid value '" ++ Text.plain value ++ "' for '" ++ option.placeholder ++
        "': " ++ Text.plain fault.message)
  | badRequest fault => some ("error: " ++ fault.message)
  | unreadableInput path fault =>
      some s!"generate_capsule: error: can not read binary input file {path}: {fault.message}"
  | unusableSigner fault =>
      some s!"generate_capsule: error: can not sign payload: {fault.message}"
  | notEncoded fault =>
      some s!"generate_capsule: error: can not encode capsule: {fault.message}"
  | unwritableOutput path fault =>
      some s!"generate_capsule: error: can not write binary output file {path}: {fault.message}"
  | notDecoded fault =>
      some s!"generate_capsule: error: can not decode capsule: {fault.message}"

end Failure

structure Product where
  /-- The standard output. -/
  printed : String
  written : Option (String × Bytes)

abbrev Step (α : Type) := Traced Signing.Event Failure α

namespace Step

def ofAction {α : Type} (toFailure : Fault → Failure) (action : Signing.Action α) : Step α :=
  action.recover fun fault => .refuse (toFailure fault)

def ofLogged {α : Type} (toFailure : Fault → Failure) (operation : Logged α) : Step α :=
  ofAction toFailure (operation.mapEvents .logged)

def announce (text : String) : Step Unit :=
  Traced.emit (.logged ⟨.info, .tool, text⟩)

end Step

def readInput (surroundings : Surroundings) (path : String) : Step Bytes := do
  Step.announce s!"Read binary input file {path}"
  match surroundings.readFile path with
  | .ok content => return content
  | .error fault => Traced.refuse (.unreadableInput path fault)

/-- The signer that was chosen. The version of the `openssl` program is only asked for when it is
going to be shown, which without a log filter in the environment is just when `verbose` is. -/
def chooseSigner (surroundings : Surroundings) (verbose : Bool) (key : KeyChoice) :
    Signing.Action Signing.Signer := do
  if key.useOpenssl then
    let path := Openssl.commandPath surroundings.opensslDirectory
    let file : Openssl.KeyFile := ⟨⟨path, surroundings.program path⟩, key.path⟩
    if verbose then
      let version ← file.version
      Logged.info .tool s!"Using {version}"
    return file.signer
  else
    let signingKey ← Rsa.SigningKey.ofFile key.path (surroundings.readFile key.path)
    return signingKey.signer

def Request.perform (surroundings : Surroundings) (verbose : Bool) : Request → Step Product
  | .encode inputFile output key assembly => do
      let payload ← readInput surroundings inputFile
      let signer ← Step.ofAction .unusableSigner (chooseSigner surroundings verbose key)
      let capsule ← Step.ofAction .notEncoded (assembly.encode payload signer)
      Step.announce s!"Write binary output file {output}"
      match surroundings.writeFault? output with
      | some fault => Traced.refuse (.unwritableOutput output fault)
      | none =>
          Step.announce "Success"
          return ⟨"", some (output, capsule)⟩
  | .dumpInfo inputFile => do
      let buffer ← readInput surroundings inputFile
      let layers ← Step.ofLogged .notDecoded (Layers.decode buffer)
      Step.announce "Success"
      return ⟨layers.report, none⟩

structure Outcome where
  exitCode : Nat
  printed : String
  complaint : Option String
  written : Option (String × Bytes)
  log : List Log.Record
  processes : List Signing.ProcessRun

namespace Outcome

def ofText (text : String) : Outcome :=
  ⟨0, text, none, none, [], []⟩

def ofFailure (failure : Failure) : Outcome :=
  ⟨failure.exitCode, "", failure.complaint?, none, [], []⟩

/-- A run that carried out a request. Progress is only printed on demand, and no log filter in
the environment asks for more or for less. -/
def ofStep (verbose : Bool) (step : Step Product) : Outcome :=
  let threshold : Log.Level := if verbose then .info else .warn
  let shown := (Signing.logOf step.events).filter fun record => record.level.isShown threshold
  let processes := Signing.runsOf step.events
  match step.outcome with
  | .ok product => ⟨0, product.printed, none, product.written, shown, processes⟩
  | .error failure => ⟨failure.exitCode, "", failure.complaint?, none, shown, processes⟩

def messages (outcome : Outcome) : String :=
  let complaint := match outcome.complaint with
    | some complaint => complaint ++ "\n"
    | none => ""
  String.join (outcome.log.map Log.Record.print) ++ complaint

end Outcome

def run (surroundings : Surroundings) (arguments : List String) : Outcome :=
  match Draft.ofArguments arguments with
  | .error .help => .ofText helpText
  | .error .version => .ofText versionText
  | .error .misuse => .ofFailure .misuse
  | .error (.badValue option value fault) => .ofFailure (.badValue option value fault)
  | .ok draft =>
      match draft.request with
      | .error _ => .ofFailure .misuse
      | .ok (.error fault) => .ofFailure (.badRequest fault)
      | .ok (.ok request) =>
          let verbose := decide (.verbose ∈ draft.switches)
          .ofStep verbose (request.perform surroundings verbose)

def Request.readPaths : Request → List String
  | .encode inputFile _ key _ => [inputFile, key.path]
  | .dumpInfo inputFile => [inputFile]

def readPaths (arguments : List String) : List String :=
  match Draft.ofArguments arguments with
  | .ok draft =>
      match draft.request with
      | .ok (.ok request) => request.readPaths
      | _ => []
  | .error _ => []

/-! ## In a directory -/

def Surroundings.ofDirectory (directory : Directory) (opensslDirectory : Option String)
    (program : String → Option Openssl.Program) : Surroundings where
  readFile := directory.read
  writeFault? path :=
    match directory.write path [] with
    | .ok _ => none
    | .error fault => some fault
  opensslDirectory
  program

def Outcome.directory (outcome : Outcome) (before : Directory) : Directory :=
  match outcome.written with
  | some (path, content) =>
      match before.write path content with
      | .ok after => after
      | .error _ => before
  | none => before

end FirmwareCapsule.CommandLine
