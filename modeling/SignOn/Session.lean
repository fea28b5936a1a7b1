import SignOn.Identity

/-!
# Sessions

An identity has one session at most.  It holds the refresh value that is current for the identity
and ends on its own at an instant fixed when the value was written.
-/

namespace SignOn

set_option autoImplicit false

/-- The session of an identity. -/
structure Session where
  owner : UserId
  refreshToken : String
  expiresAt : Instant
deriving DecidableEq, Repr

/-- Whether a session has ended at an instant; it has at the very instant of its end. -/
def Session.isExpiredAt (session : Session) (now : Instant) : Bool :=
  session.expiresAt ≤ now

end SignOn
