import FirmwareCapsule.CommandLine.Option
import FirmwareCapsule.CommandLine.Value

namespace FirmwareCapsule.CommandLine

/-! Reading arguments one by one. What was given is collected in a draft. A
value in an argument of its own, and the input file, are only looked at when the
next option or input file comes or the arguments end, so that a mistake in what
follows can be found before a mistake in the value. -/

inductive Ending where
  /-- The arguments do not have the form that the tool takes. -/
  | misuse
  | badValue (option : Valued) (value : String) (fault : ValueFault)
  | help
  | version
deriving DecidableEq, Repr

structure Draft where
  switches : List Switch
  inputFile : Option String
  output : Option String
  capsuleFlags : List CapsuleFlag
  oemFlags : Option UInt16
  guid : Option Guid
  hardwareInstance : Option UInt64
  monotonicCount : Option UInt64
  privateKey : Option String
deriving DecidableEq

namespace Draft

def empty : Draft where
  switches := []
  inputFile := none
  output := none
  capsuleFlags := []
  oemFlags := none
  guid := none
  hardwareInstance := none
  monotonicCount := none
  privateKey := none

def addSwitch (draft : Draft) (switch : Switch) : Except Ending Draft :=
  if switch ∈ draft.switches then .error .misuse
  else .ok { draft with switches := draft.switches ++ [switch] }

/-- An option that can be given once. That it is given again is found before its
value is looked at. -/
def once {α : Type} (given : Option α) (value : Except Ending α) : Except Ending (Option α) :=
  if given.isSome then .error .misuse else value.map some

def filePath (text : String) : Except Ending String :=
  if text.isEmpty then .error .misuse else .ok text

def checked {α : Type} (option : Valued) (text : String) (read : String → Except ValueFault α) :
    Except Ending α :=
  match read text with
  | .ok value => .ok value
  | .error fault => .error (.badValue option text fault)

def addValue (draft : Draft) (option : Valued) (text : String) : Except Ending Draft :=
  match option with
  | .output => do
      return { draft with output := ← once draft.output (filePath text) }
  | .capsuleFlag =>
      match CapsuleFlag.ofName? text with
      | some flag => .ok { draft with capsuleFlags := draft.capsuleFlags ++ [flag] }
      | none => .error .misuse
  | .oemFlags => do
      return { draft with oemFlags := ← once draft.oemFlags (checked option text sixteenBits) }
  | .guid => do
      return { draft with guid := ← once draft.guid (checked option text CommandLine.guid) }
  | .hardwareInstance => do
      return { draft with
        hardwareInstance := ← once draft.hardwareInstance (checked option text integer) }
  | .monotonicCount => do
      return { draft with
        monotonicCount := ← once draft.monotonicCount (checked option text integer) }
  | .privateKey => do
      return { draft with privateKey := ← once draft.privateKey (filePath text) }

def addInput (draft : Draft) (path : String) : Except Ending Draft := do
  return { draft with inputFile := ← once draft.inputFile (filePath path) }

end Draft

inductive Waiting where
  | nothing
  /-- An option whose value is the next argument. -/
  | forValue (option : Valued)
  | value (option : Valued) (text : String)
  | input (path : String)
deriving DecidableEq, Repr

structure Reading where
  draft : Draft
  waiting : Waiting
  /-- A double dash was given: no option follows. -/
  optionsEnded : Bool
deriving DecidableEq

namespace Reading

def start : Reading :=
  ⟨.empty, .nothing, false⟩

def settle (reading : Reading) : Except Ending Draft :=
  match reading.waiting with
  | .nothing => .ok reading.draft
  | .forValue _ => .error .misuse
  | .value option text => reading.draft.addValue option text
  | .input path => reading.draft.addInput path

def ofDraft (draft : Draft) : Reading :=
  ⟨draft, .nothing, false⟩

def readLong (reading : Reading) (name : String) (attached : Option String) :
    Except Ending Reading :=
  match Keyword.ofLong? name, attached with
  | some (.switch switch), none => do
      return ofDraft (← (← reading.settle).addSwitch switch)
  | some (.valued option), none => do
      return { ofDraft (← reading.settle) with waiting := .forValue option }
  | some (.valued option), some text => do
      return ofDraft (← (← reading.settle).addValue option text)
  | some .help, none => do
      discard reading.settle
      throw .help
  | some .version, none => do
      discard reading.settle
      throw .version
  | _, _ => .error .misuse

/-- Go on with options by letter. What stands behind the letter of an option
with a value is the value, with or without an equals sign. -/
def readShort (reading : Reading) : List Char → Except Ending Reading
  | [] => .ok reading
  | letter :: rest =>
      match Keyword.ofShort? letter with
      | none => .error .misuse
      | some (.switch switch) => do
          let draft ← (← reading.settle).addSwitch switch
          readShort (ofDraft draft) rest
      | some .help => do
          discard reading.settle
          throw .help
      | some .version => do
          discard reading.settle
          throw .version
      | some (.valued option) => do
          let draft ← reading.settle
          match rest with
          | [] => return { ofDraft draft with waiting := .forValue option }
          | '=' :: text => return ofDraft (← draft.addValue option (String.ofList text))
          | text => return ofDraft (← draft.addValue option (String.ofList text))

def readInput (reading : Reading) (path : String) : Except Ending Reading :=
  let given := reading.draft.inputFile.isSome || (match reading.waiting with
    | .input _ => true
    | _ => false)
  if given then .error .misuse
  else do return { reading with draft := ← reading.settle, waiting := .input path }

def read (reading : Reading) (argument : String) : Except Ending Reading :=
  if reading.optionsEnded then
    reading.readInput argument
  else
    match reading.waiting, argument.toList with
    | .forValue _, '-' :: _ :: _ => .error .misuse
    | .forValue option, _ => .ok { reading with waiting := .value option argument }
    | _, ['-', '-'] => .ok { reading with optionsEnded := true }
    | _, '-' :: '-' :: long =>
        let name := String.ofList (long.takeWhile (· ≠ '='))
        match long.dropWhile (· ≠ '=') with
        | _ :: text => reading.readLong name (some (String.ofList text))
        | [] => reading.readLong name none
    | _, '-' :: letter :: rest => reading.readShort (letter :: rest)
    | _, _ => reading.readInput argument

end Reading

def Draft.ofArguments (arguments : List String) : Except Ending Draft := do
  let reading ← arguments.foldlM Reading.read Reading.start
  reading.settle

end FirmwareCapsule.CommandLine
