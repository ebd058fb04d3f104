import FirmwareCapsule.Assembly
import FirmwareCapsule.CommandLine.Draft

namespace FirmwareCapsule.CommandLine

/-! What the tool is asked to do. -/

structure KeyChoice where
  path : String
  /-- The key stays in its file, and the `openssl` program signs with it. -/
  useOpenssl : Bool
deriving DecidableEq

inductive Request where
  | encode (inputFile output : String) (key : KeyChoice) (assembly : Assembly)
  | dumpInfo (inputFile : String)
deriving DecidableEq

inductive RequestFault where
  | missingGuid
  | missingPrivateKey
  | missingOutput
  | resetWithoutPersistence
  | uselessOutput
deriving DecidableEq, Repr

def RequestFault.message : RequestFault → String
  | missingGuid => "the following option is required: --guid"
  | missingPrivateKey => "the following option is required: --private-key"
  | missingOutput => "the following option is required for encode operations: --output"
  | resetWithoutPersistence =>
      "--capflag InitiateReset also requires --capflag PersistAcrossReset"
  | uselessOutput => "the following option is not supported for dump-info operations: --output"

namespace Draft

def assembly (draft : Draft) (imageType : Guid) : Assembly :=
  { Assembly.ofImageType imageType with
    hardwareInstance := draft.hardwareInstance.getD 0
    monotonicCount := draft.monotonicCount.getD 0
    oemFlags := draft.oemFlags.getD 0
    persistAcrossReset := draft.capsuleFlags.contains .persistAcrossReset
    initiateReset := draft.capsuleFlags.contains .initiateReset }

def encodeRequest (draft : Draft) (inputFile : String) : Except RequestFault Request :=
  match draft.guid, draft.privateKey, draft.output with
  | none, _, _ => .error .missingGuid
  | some _, none, _ => .error .missingPrivateKey
  | some _, some _, none => .error .missingOutput
  | some imageType, some path, some output =>
      let assembly := draft.assembly imageType
      if assembly.initiateReset && !assembly.persistAcrossReset then
        .error .resetWithoutPersistence
      else
        .ok (.encode inputFile output ⟨path, .openssl ∈ draft.switches⟩ assembly)

def dumpInfoRequest (draft : Draft) (inputFile : String) : Except RequestFault Request :=
  if draft.output.isSome then .error .uselessOutput else .ok (.dumpInfo inputFile)

def request (draft : Draft) : Except Ending (Except RequestFault Request) :=
  match draft.inputFile, decide (.encode ∈ draft.switches), decide (.dumpInfo ∈ draft.switches) with
  | some inputFile, true, false => .ok (draft.encodeRequest inputFile)
  | some inputFile, false, true => .ok (draft.dumpInfoRequest inputFile)
  | _, _, _ => .error .misuse

end Draft

end FirmwareCapsule.CommandLine
