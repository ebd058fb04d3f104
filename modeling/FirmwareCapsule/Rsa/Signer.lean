import FirmwareCapsule.Files
import FirmwareCapsule.Rsa.KeyFile
import FirmwareCapsule.Rsa.Signature
import FirmwareCapsule.Signing.Basic
import FirmwareCapsule.Text.Utf8

namespace FirmwareCapsule.Rsa

/-! Signing with a private key that is held in memory. -/

/-- A key that can sign for certificate blocks. Its modulus takes 256 bytes; its
highest bits may be zero. -/
structure SigningKey where
  key : PrivateKey
  consistent : key.isConsistent = true
  size_eq : key.size = 256

namespace SigningKey

def ofKey (key : ConsistentKey) : Logged SigningKey :=
  if fits : key.val.size = 256 then
    pure ⟨key.val, key.property, fits⟩
  else
    Logged.reject .keySigner
      s!"private key is {Text.decimal (8 * key.val.size)} bits, RSA-2048 required" .unusableKey

def ofPem (text : List Char) : Logged SigningKey :=
  match PrivateKey.ofPem? text with
  | some key => ofKey key
  | none =>
      Logged.reject .keySigner "unable to parse private key: not an RSA key in PEM form"
        .unusableKey

def ofFile (path : String) (content : Except FileFault Bytes) : Logged SigningKey :=
  let text := content.bind fun bytes =>
    match Text.ofUtf8? bytes with
    | some text => .ok text
    | none => .error .notText
  match text with
  | .ok text => ofPem text
  | .error fault =>
      Logged.reject .keySigner s!"read signing private key file {path} failed: {fault.message}"
        .unusableKey

def signer (key : SigningKey) : Signing.Signer where
  answer
    | .publicModulus => pure key.key.modulusBytes
    | .signature data =>
        match key.key.signature? data with
        | some signature => pure signature
        | none => Signing.reject .keySigner "RSA signing failed: internal error" .unusableKey

end SigningKey

end FirmwareCapsule.Rsa
