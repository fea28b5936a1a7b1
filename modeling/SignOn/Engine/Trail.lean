import SignOn.Engine.Program
import SignOn.Net.Address

/-!
# The audit trail

The outcome of every audited operation is published as an event.  Who acted and from where is taken
from the context of the call.  Recording an outcome does not change it.
-/

namespace SignOn.Engine

set_option autoImplicit false

/-- Who calls, as far as that is established, and from where. -/
structure Context where
  actor : Option UserId
  origin : Option Net.Address
deriving DecidableEq, Repr

/-- The same context with an established actor. -/
def Context.withActor (context : Context) (actor : UserId) : Context :=
  { context with actor := some actor }

/-- Publishes an event that happens now. -/
def publishNow (operation : Audit.Operation) (actor : Option UserId) (context : Context)
    (level : Audit.Level) (message : String) : Operation Unit := do
  let now ← Operation.act .readClock
  Operation.act (.publish
    ⟨operation, (actor.map UserId.text).getD Net.unknownOrigin, message,
     Net.originText context.origin, level, Timestamp.ofInstant now⟩)

/-- Records a failure: a warning when it was to be expected, an error otherwise. -/
def recordFailure (operation : Audit.Operation) (context : Context) (failure : Failure) :
    Operation Unit :=
  if failure.isExpected then
    publishNow operation context.actor context .warn ("Fail: " ++ failure.message)
  else publishNow operation context.actor context .error ("Error: " ++ failure.message)

/-- Records an outcome. -/
def recordOutcome {α : Type} (operation : Audit.Operation) (context : Context) :
    Except Failure α → Operation Unit
  | .ok _ => publishNow operation context.actor context .info "Success"
  | .error failure => recordFailure operation context failure

/-- Carries out a body and records its outcome. -/
def observe {α : Type} (operation : Audit.Operation) (context : Context) (body : Operation α) :
    Operation α := do
  let outcome ← body.outcome
  recordOutcome operation context outcome
  Operation.ofOutcome outcome

/-- Carries out a body and records its outcome if it is a failure. -/
def observeFailure {α : Type} (operation : Audit.Operation) (context : Context)
    (body : Operation α) : Operation α := do
  match ← body.outcome with
  | .ok value => return value
  | .error failure =>
      recordFailure operation context failure
      Operation.ofOutcome (.error failure)

/-- Records that an identity has used up the budget of a key. -/
def recordLimit (context : Context) (identity : UserId) (key : String) : Operation Unit :=
  publishNow .rateLimitExceeded (some identity) context .warn ("Rate limit exceeded: " ++ key)

end SignOn.Engine
