import FirmwareCapsule.Certificate

namespace FirmwareCapsule.Signing

/-! Signing a payload. A signer holds a private key and answers two requests:
for the public modulus, and for the signature of some data. What is signed is
the payload and the monotonic count behind it, so that a signature vouches for
both. The trace of signing shows the requests, the processes that a signer
started, and the log. -/

inductive Request where
  /-- The modulus, most significant byte first, of any length. -/
  | publicModulus
  /-- The RSA-2048 signature of the SHA-256 digest of `data`. -/
  | signature (data : Bytes)
deriving DecidableEq

structure ProcessRun where
  arguments : List String
  input : Bytes
deriving DecidableEq

inductive Event where
  | logged (record : Log.Record)
  | asked (request : Request)
  | ran (run : ProcessRun)
deriving DecidableEq

abbrev Action (α : Type) := Traced Event Fault α

instance : MonadLift Logged Action where
  monadLift operation := operation.mapEvents .logged

def logOf (events : List Event) : List Log.Record :=
  events.filterMap fun
    | .logged record => some record
    | _ => none

def requestsOf (events : List Event) : List Request :=
  events.filterMap fun
    | .asked request => some request
    | _ => none

def runsOf (events : List Event) : List ProcessRun :=
  events.filterMap fun
    | .ran run => some run
    | _ => none

def reject {α : Type} (source : Log.Source) (text : String) (fault : Fault) : Action α :=
  (Logged.reject source text fault).mapEvents .logged

structure Signer where
  answer : Request → Action Bytes

namespace Signer

def ask (signer : Signer) (request : Request) : Action Bytes := do
  Traced.emit (.asked request)
  signer.answer request

def constant (modulus signature : Except Fault Bytes) : Signer where
  answer
    | .publicModulus => Traced.ofExcept modulus
    | .signature _ => Traced.ofExcept signature

end Signer

def signedBlob (payload : Bytes) (monotonicCount : UInt64) : Bytes :=
  payload ++ Layout.word64.encode monotonicCount

/-- A modulus as a block of the size of an RSA-2048 key: leading zeros are
dropped or added. A number that needs more bytes is no such key. -/
def normalizeModulus? (modulus : Bytes) : Option (Block 256) :=
  let significant := modulus.dropWhile (· = 0)
  Block.ofBytes? 256 (List.replicate (256 - significant.length) 0 ++ significant)

/-- Sign a payload together with its monotonic count. Whatever goes wrong with
the signer is reported as a failure to sign; the log says what it was. -/
def signPayload (signer : Signer) (payload : Bytes) (monotonicCount : UInt64) :
    Action Certificate := do
  let modulus ← (signer.ask .publicModulus).recover fun fault =>
    reject .signing s!"unable to derive public modulus: {fault.message}" .signingFailed
  match normalizeModulus? modulus with
  | none =>
      reject .signing
        s!"public modulus of {Text.decimal modulus.length} bytes is not an RSA-2048 key"
        .signingFailed
  | some publicKey =>
      let blob := signedBlob payload monotonicCount
      let signature ← (signer.ask (.signature blob)).recover fun fault =>
        reject .signing s!"unable to sign payload: {fault.message}" .signingFailed
      if signature.length ≠ 256 then
        reject .signing s!"signature is {Text.decimal signature.length} bytes, expected 256"
          .signingFailed
      else
        let count := Text.hex monotonicCount.toNat
        Logged.debug .signing
          s!"signed {Text.hex payload.length} payload bytes with monotonic count {count}"
        Traced.ofExcept
          (Certificate.ofBytes? Certificate.sha256HashType publicKey.bytes signature)

end FirmwareCapsule.Signing
