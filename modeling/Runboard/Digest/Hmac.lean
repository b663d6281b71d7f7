import Runboard.Digest.Sha256

/-!
# `Runboard.Digest.Hmac`: signatures with a shared secret

The keyed hash of RFC 2104 over SHA-256. The key is brought to a block of 64 bytes: a longer key is
replaced by its digest, a shorter one is filled up with zeros.

## Contents

* `hmacKey`: the key as a block;
* `hmacSha256`: the signature of a message, with `length_hmacSha256`.
-/

namespace Runboard

/-- A key as a block of 64 bytes. -/
def hmacKey (key : List UInt8) : List UInt8 :=
  let k := if 64 < key.length then sha256 key else key
  k ++ List.replicate (64 - k.length) 0

/-- The signature of a message under a key. -/
def hmacSha256 (key message : List UInt8) : List UInt8 :=
  let k := hmacKey key
  sha256 (k.map (· ^^^ 0x5c) ++ sha256 (k.map (· ^^^ 0x36) ++ message))

@[simp] theorem length_hmacSha256 (key message : List UInt8) :
    (hmacSha256 key message).length = 32 := by
  simp [hmacSha256]

end Runboard
