import FirmwareCapsule.Openssl.Process
import FirmwareCapsule.Text.HexBytes
import FirmwareCapsule.Text.Lines

namespace FirmwareCapsule.Openssl

/-! Signing with the `openssl` program. The private key stays in its file: the
program derives the modulus from it and signs with it. -/

/-- Where the program is looked for: in the directory that the user names, or by
its bare name along the search path. -/
def commandPath (directory : Option String) : String :=
  match directory with
  | none => "openssl"
  | some directory =>
      if directory.isEmpty then "openssl"
      else if directory.endsWith "/" then directory ++ "openssl"
      else directory ++ "/openssl"

def modulusValue? (text : List Char) : Option (List Char) :=
  (Text.lines text).findSome? fun line =>
    match Text.splitAtEquals? (Text.trim line) with
    | some (name, value) =>
        if Text.trim name = "Modulus".toList then some (Text.trim value) else none
    | none => none

/-- Read the modulus from the output of the program. Only the first line that
names a modulus counts, even if its value cannot be read. -/
def readModulus (text : List Char) : Logged Bytes :=
  match modulusValue? text with
  | none => Logged.reject .opensslSigner "openssl did not report a modulus" .unusableKey
  | some value =>
      match Text.ofHexDigits (Text.utf8 value) with
      | .ok modulus => pure modulus
      | .error fault =>
          Logged.reject .opensslSigner s!"invalid modulus reported by openssl: {fault.message}"
            .unusableKey

structure KeyFile where
  command : Command
  privateKey : String

namespace KeyFile

def versionArguments : List String :=
  ["version"]

def modulusArguments (file : KeyFile) : List String :=
  ["rsa", "-in", file.privateKey, "-modulus", "-noout"]

def signatureArguments (file : KeyFile) : List String :=
  ["dgst", "-sha256", "-sign", file.privateKey]

def version (file : KeyFile) : Signing.Action String := do
  let completion ← (file.command.run versionArguments []).recover fun fault =>
    Signing.reject .opensslSigner
      "Open SSL command not available. Please verify PATH or set OPENSSL_PATH" fault
  return String.ofList (Text.trim (Text.ofUtf8Lossy completion.output))

def publicModulus (file : KeyFile) : Signing.Action Bytes := do
  let completion ← file.command.run file.modulusArguments []
  readModulus (Text.ofUtf8Lossy completion.output)

def signature (file : KeyFile) (data : Bytes) : Signing.Action Bytes := do
  let completion ← file.command.run file.signatureArguments data
  return completion.output

def signer (file : KeyFile) : Signing.Signer where
  answer
    | .publicModulus => file.publicModulus
    | .signature data => file.signature data

end KeyFile

end FirmwareCapsule.Openssl
