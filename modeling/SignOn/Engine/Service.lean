import SignOn.Engine.Limiter
import SignOn.Engine.Resolver
import SignOn.Engine.Revocation
import SignOn.Engine.Trail

/-!
# Signing on

The service leads an identity from login through any number of rotations to logout.  A login makes
a new refresh value the only valid one of its identity.  A reissue consumes the current value and
puts the one of a new pair in its place.  A logout ends the session and revokes the access
credential that was presented.  An access check accepts a live access credential that has not been
revoked.

Every operation is audited, and every failure of a store makes it fail: nothing is handed out that
has not been stored, and nothing is accepted that could not be checked.
-/

namespace SignOn.Engine

set_option autoImplicit false

open Settings (LimitedOperation RateLimits)

/-! ## The service -/

/-- The codec of the credentials and the limits of the operations. -/
structure Service where
  codec : Codec
  limits : RateLimits

/-- The service with the given settings, if their secret can be used. -/
def Service.create (settings : Settings.Auth) : Except ShortSecret Service :=
  (Codec.create (Text.utf8 settings.signingSecret) settings.accessLifetime
    settings.refreshLifetime).map fun codec => ⟨codec, settings.rateLimits⟩

namespace Service

/-! ## Credentials -/

/-- Issues a credential with an identifier of its own. -/
def issue (service : Service) (identity : UserId) (kind : TokenKind) (lifetime : Duration) :
    Operation String := do
  let now ← Operation.act .readClock
  let tokenId ← Operation.act .drawTokenId
  Operation.ofOutcome (service.codec.issue now identity kind lifetime tokenId)

/-- Issues an access credential and a refresh credential. -/
def issuePair (service : Service) (identity : UserId) : Operation TokenPair := do
  let access ← service.issue identity .access service.codec.accessLifetime
  let refresh ← service.issue identity .refresh service.codec.refreshLifetime
  return ⟨access, refresh, service.codec.refreshMaxAge⟩

/-- Verifies a credential of a kind as of now. -/
def verifyKind (service : Service) (raw : String) (kind : TokenKind) : Operation Claims := do
  let now ← Operation.act .readClock
  Operation.ofVerdict (service.codec.verifyKind now raw kind)

/-! ## Limits -/

/-- Applies the limit of an operation and records when it is exceeded. -/
def enforce (service : Service) (context : Context) (operation : LimitedOperation)
    (identity : UserId) : Operation Unit := do
  let outcome ← (checkLimit service.limits operation identity).outcome
  match outcome with
  | .error (.rejected (.rateLimitExceeded key)) => recordLimit context identity key
  | _ => pure ()
  Operation.ofOutcome outcome

/-! ## Login -/

/-- Issues a pair and stores its refresh value. -/
def startSession (service : Service) (context : Context) (identity : UserId) :
    Operation TokenPair := do
  service.enforce context .login identity
  let pair ← service.issuePair identity
  Operation.call (.writeSession identity pair.refreshToken service.codec.refreshLifetime)
  return pair

/-- Logs an identity in. -/
def login (service : Service) (context : Context) (identity : UserId) : Operation TokenPair :=
  observe .login (context.withActor identity)
    (service.startSession (context.withActor identity) identity)

/-- Resolves a login at a provider and logs its identity in. -/
def providerLogin (service : Service) (context : Context) (callback : Callback) :
    Operation (User × TokenPair) := do
  let user ← observeFailure .login context (resolve callback)
  let pair ← service.login context user.id
  return (user, pair)

/-! ## Reissue -/

/-- Consumes the current refresh value of an identity. -/
def rotate (service : Service) (context : Context) (identity : UserId) (presented : String) :
    Operation TokenPair := do
  service.enforce context .reissue identity
  match ← Operation.call (.readSession identity) with
  | none => Operation.reject .sessionNotFound
  | some session =>
      if session.refreshToken = presented then
        let pair ← service.issuePair identity
        let replaced ← Operation.call
          (.replaceSession identity presented pair.refreshToken service.codec.refreshLifetime)
        if replaced then return pair else Operation.reject .refreshMismatch
      else Operation.reject .refreshMismatch

/-- Exchanges a refresh credential for a new pair. -/
def reissue (service : Service) (context : Context) (presented : String) : Operation TokenPair := do
  let trimmed := Text.trim presented
  let claims ← observeFailure .tokenReissue context (service.verifyKind trimmed .refresh)
  observe .tokenReissue (context.withActor claims.userId)
    (service.rotate (context.withActor claims.userId) claims.userId trimmed)

/-! ## Logout -/

/-- Ends the session of the actor and revokes a credential.  Both are tried, whatever becomes of the
first; its failure counts before that of the second. -/
def endSession (service : Service) (context : Context) (token : Option String) : Operation Unit := do
  match context.actor with
  | none => Operation.reject .unauthenticated
  | some identity =>
      service.enforce context .logout identity
      let deleted ← (Operation.call (.deleteSession identity)).outcome
      let revoked ← (match token with
        | some token => revoke service.codec token
        | none => pure ()).outcome
      Operation.ofOutcome deleted
      Operation.ofOutcome revoked

/-- Logs the actor out. -/
def logout (service : Service) (context : Context) (token : Option String) : Operation Unit :=
  observe .logout context (service.endSession context token)

/-! ## Access checks -/

/-- The identity of a live access credential that has not been revoked. -/
def checkAccess (service : Service) (token : String) : Operation UserId := do
  let claims ← service.verifyKind token .access
  if ← isRevoked token then Operation.reject .unauthenticated
  else return claims.userId

/-- Checks an access credential.  A success is recorded under the identity that it establishes. -/
def authorize (service : Service) (context : Context) (token : String) : Operation UserId := do
  let outcome ← (service.checkAccess token).outcome
  match outcome with
  | .ok identity => recordOutcome .accessCheck (context.withActor identity) outcome
  | .error failure => recordFailure .accessCheck context failure
  Operation.ofOutcome outcome

end Service

end SignOn.Engine
