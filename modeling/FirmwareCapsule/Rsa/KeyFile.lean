import FirmwareCapsule.Der
import FirmwareCapsule.Pem
import FirmwareCapsule.Rsa.PrivateKey

namespace FirmwareCapsule.Rsa

/-! Private keys in PEM files. A key comes either bare, as PKCS#1 describes it,
or inside the envelope of PKCS#8, which also names the algorithm; the label of
the file says which. Encrypted keys and keys with more than two primes are not
read. -/

open Der

abbrev ConsistentKey := { key : PrivateKey // key.isConsistent = true }

namespace PrivateKey

def consistent? (key : PrivateKey) : Option ConsistentKey :=
  if consistent : key.isConsistent = true then some ⟨key, consistent⟩ else none

def bareLabel : List Char := "RSA PRIVATE KEY".toList

def envelopeLabel : List Char := "PRIVATE KEY".toList

def ofBare? (content : Bytes) : Option ConsistentKey := do
  let sequence ← element? content
  let elements ← sequence.sequence?
  match ← elements.mapM Element.natural? with
  | [0, modulus, publicExponent, privateExponent, firstPrime, secondPrime, _, _, _] =>
      consistent? ⟨modulus, publicExponent, privateExponent, firstPrime, secondPrime⟩
  | _ => none

def rsaEncryption : Bytes :=
  [0x2A, 0x86, 0x48, 0x86, 0xF7, 0x0D, 0x01, 0x01, 0x01]

def isRsaAlgorithm (algorithm : Element) : Bool :=
  algorithm.sequence? = some [⟨objectIdentifierTag, rsaEncryption⟩, ⟨nullTag, []⟩]

def isAttributesTag (tag : UInt8) : Bool :=
  tag = 0x80 || tag = 0xA0

def isPublicKey (element : Element) : Bool :=
  element.tag = 0x81 && element.content.head? = some 0

/-- A field that is not known, and passed over: a context-specific tag around
exactly one element. -/
def isExtension (element : Element) : Bool :=
  element.tag &&& 0xE0 = 0xA0 && (element? element.content).isSome

/-- What may follow the key in an envelope. The place behind the attributes is
that of the public key, which is there in version one and only there. -/
def isTail (version : Nat) (elements : List Element) : Bool :=
  match version, elements.dropWhile fun element => isAttributesTag element.tag with
  | 0, [] => true
  | 0, first :: rest => first.tag ≠ 0xA1 && (first :: rest).all isExtension
  | 1, publicKey :: rest => isPublicKey publicKey && rest.all isExtension
  | _, _ => false

def ofEnvelope? (content : Bytes) : Option ConsistentKey := do
  let sequence ← element? content
  match ← sequence.sequence? with
  | version :: algorithm :: key :: rest =>
      let version ← version.natural?
      let key ← key.content? octetStringTag
      if isRsaAlgorithm algorithm && isTail version rest then ofBare? key else none
  | _ => none

def ofPem? (text : List Char) : Option ConsistentKey := do
  let pem ← Pem.ofCharacters? text
  if pem.label = envelopeLabel then ofEnvelope? pem.content
  else if pem.label = bareLabel then ofBare? pem.content
  else none

end PrivateKey

end FirmwareCapsule.Rsa
