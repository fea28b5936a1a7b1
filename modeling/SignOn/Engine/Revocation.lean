import SignOn.Engine.Program
import SignOn.Text.Hex

/-!
# Revoked credentials

A credential that is no longer to be accepted is marked in the store until it would have expired
anyway.  The mark is found by the hash of the credential, trimmed of blanks.  A credential that has
expired needs no mark.
-/

namespace SignOn.Engine

set_option autoImplicit false

/-- The start of the store keys of all marks. -/
def markKeyStart : String := "revoked:"

/-- What a mark holds. -/
def markText : String := "logout"

/-- The key of the mark of a credential. -/
def markKey (token : String) : String :=
  markKeyStart ++ String.ofList (Text.hexOfBytes (Hash.sha256 (Text.utf8 (Text.trim token))))

/-- Revokes a credential for the time it has left. -/
def revoke (codec : Codec) (token : String) : Operation Unit := do
  let now ← Operation.act .readClock
  let remaining ← Operation.ofVerdict (codec.remaining now token)
  if remaining ≤ 0 then return ()
  else Operation.call (.mark (markKey token) markText ⟨remaining.toNat⟩)

/-- Whether a credential is revoked. -/
def isRevoked (token : String) : Operation Bool :=
  Operation.call (.isMarked (markKey token))

end SignOn.Engine
