import SignOn.Engine.Program
import SignOn.Settings.Auth

/-!
# Rate limits

Calls are counted per key in windows that start with the first call.  The count and the end of the
window live in the store, whose counting is the only thing that keeps concurrent calls apart.  A
call is allowed as long as the count, itself included, stays within the limit.
-/

namespace SignOn.Engine

set_option autoImplicit false

open Settings (LimitedOperation RateLimits)

/-- The start of the store keys of all windows. -/
def windowKeyStart : String := "rate_limit:"

/-- Counts a call against a key and tells whether it is within the limit. -/
def allow (key : String) (limit : Nat) (window : Duration) : Operation Bool := do
  let count ← Operation.call (.count (windowKeyStart ++ key) window)
  return count ≤ limit

/-- The key of the windows of an operation for an identity. -/
def limitKey (operation : LimitedOperation) (identity : UserId) : String :=
  operation.name ++ ":" ++ identity.key

/-- Applies the limit of an operation to an identity.  An operation without a limit is not
counted. -/
def checkLimit (limits : RateLimits) (operation : LimitedOperation) (identity : UserId) :
    Operation Unit := do
  match limits.limitOf operation with
  | none => return ()
  | some limit =>
      if ← allow (limitKey operation identity) limit.limit limit.window then return ()
      else Operation.reject (.rateLimitExceeded (limitKey operation identity))

end SignOn.Engine
