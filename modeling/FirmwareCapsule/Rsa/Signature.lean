import FirmwareCapsule.Rsa.PrivateKey
import FirmwareCapsule.Sha256

namespace FirmwareCapsule.Rsa

/-! Signatures by PKCS#1 v1.5 with SHA-256. The digest is wrapped and padded to
the size of the key, and the private exponent is applied to that number. There
is no randomness in it: a key and a message have one signature. -/

/-- What stands in front of a SHA-256 digest: a sequence with the algorithm, and
the start of the octet string that holds the digest. -/
def digestInfoStart : Bytes :=
  [0x30, 0x31, 0x30, 0x0D, 0x06, 0x09, 0x60, 0x86, 0x48, 0x01, 0x65, 0x03, 0x04, 0x02, 0x01,
    0x05, 0x00, 0x04, 0x20]

def encodedMessage (size : Nat) (data : Bytes) : Bytes :=
  let digestInfo := digestInfoStart ++ Sha256.digest data
  0x00 :: 0x01 :: (List.replicate (size - digestInfo.length - 3) 0xFF ++ 0x00 :: digestInfo)

theorem length_encodedMessage {size : Nat} (fits : 54 ≤ size) (data : Bytes) :
    (encodedMessage size data).length = size := by
  simp [encodedMessage, digestInfoStart]
  omega

def PrivateKey.signature? (key : PrivateKey) (data : Bytes) : Option Bytes :=
  (key.privatePower? (bigEndianValue (encodedMessage key.size data))).map (bigEndian key.size)

end FirmwareCapsule.Rsa
