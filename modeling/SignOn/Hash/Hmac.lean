import SignOn.Hash.Sha256

/-!
# Message authentication with a shared secret

The code of a message under a secret hashes the secret and the message twice, with the secret mixed
with two different constants.  A secret longer than a block is hashed first.
-/

namespace SignOn.Hash

set_option autoImplicit false

/-- A secret as one block of sixty-four bytes. -/
def blockOfSecret (secret : List UInt8) : List UInt8 :=
  let short := if secret.length > 64 then sha256 secret else secret
  short ++ List.replicate (64 - short.length) 0

/-- The authentication code of a message under a secret. -/
def hmacSha256 (secret message : List UInt8) : List UInt8 :=
  let block := blockOfSecret secret
  sha256 (block.map (· ^^^ 0x5C) ++ sha256 (block.map (· ^^^ 0x36) ++ message))

theorem length_hmacSha256 (secret message : List UInt8) : (hmacSha256 secret message).length = 32 :=
  length_sha256 _

end SignOn.Hash
