import FirmwareCapsule.Files
import FirmwareCapsule.Signing.Basic
import FirmwareCapsule.Text.Utf8

namespace FirmwareCapsule.Openssl

/-! Running an external program. A program is given by what it does: whether it
reads its input, and how it ends after what it has read. A program that does not
read its input is passed no more than a pipe holds. -/

structure Completion where
  output : Bytes
  errors : Bytes
  exitCode : Nat

structure Program where
  readsInput : (arguments : List String) → Bool
  complete : (arguments : List String) → (input : Bytes) → Completion

def pipeCapacity : Nat := 65536

structure Command where
  path : String
  program : Option Program

/-- Run a command on some arguments and an input. That the command cannot be
started, or that its input cannot be passed on, is found before its exit code. -/
def Command.run (command : Command) (arguments : List String) (input : Bytes) :
    Signing.Action Completion :=
  match command.program with
  | none =>
      Signing.reject .opensslSigner
        s!"unable to run {command.path}: {FileFault.notFound.message}" .signingFailed
  | some program => do
      let taken := if program.readsInput arguments then input else []
      Traced.emit (.ran ⟨arguments, taken⟩)
      if !program.readsInput arguments && input.length > pipeCapacity then
        Signing.reject .opensslSigner
          s!"unable to pass data to {command.path}: Broken pipe (os error 32)" .signingFailed
      else
        let completion := program.complete arguments taken
        if completion.exitCode = 0 then
          return completion
        else
          let errors := String.ofList (Text.trim (Text.ofUtf8Lossy completion.errors))
          let status := Text.decimal completion.exitCode
          Signing.reject .opensslSigner
            s!"{command.path} failed (exit status: {status}): {errors}" .unusableKey

end FirmwareCapsule.Openssl
