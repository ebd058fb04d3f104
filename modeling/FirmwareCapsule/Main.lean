import FirmwareCapsule.CommandLine.Session

/-! The command line tool. It reads the files that a run asks for, and shows and
writes what the run leaves behind. No program can be started from here, so a run
that wants one is told that there is none. -/

namespace FirmwareCapsule.Main

open CommandLine

def fileFault : IO.Error → FileFault
  | .noFileOrDirectory .. => .notFound
  | error => .other (toString error)

def readFile (path : String) : IO (Except FileFault Bytes) := do
  try
    return .ok (← IO.FS.readBinFile path).toList
  catch error =>
    return .error (fileFault error)

def writeFile (path : String) (content : Bytes) : IO (Option FileFault) := do
  try
    IO.FS.writeBinFile path ⟨content.toArray⟩
    return none
  catch error =>
    return some (fileFault error)

def lookAround (paths : List String) : IO Surroundings := do
  let files ← paths.mapM fun path => return (path, ← readFile path)
  let opensslDirectory ← IO.getEnv "OPENSSL_PATH"
  return {
    readFile := fun path => (files.lookup path).getD (.error .notFound)
    writeFault? := fun _ => none
    opensslDirectory
    program := fun _ => none }

def present (outcome : Outcome) : IO UInt32 := do
  IO.eprint outcome.messages
  IO.print outcome.printed
  if outcome.complaint.isNone && outcome.exitCode ≠ 0 then
    IO.eprint helpText
  return outcome.exitCode.toUInt32

end FirmwareCapsule.Main

open FirmwareCapsule Main in
/-- Run the tool. A file that cannot be written is found out by writing it. -/
def main (arguments : List String) : IO UInt32 := do
  let surroundings ← lookAround (CommandLine.readPaths arguments)
  let outcome := CommandLine.run surroundings arguments
  match outcome.written with
  | none => present outcome
  | some (path, content) =>
      match ← writeFile path content with
      | none => present outcome
      | some fault =>
          present (CommandLine.run { surroundings with writeFault? := fun _ => some fault } arguments)
