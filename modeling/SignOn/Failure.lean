import SignOn.Identity

/-!
# Failures

A request to sign on fails for a reason that its caller may know, a *rejection*, or because
something behind the engine failed: a store, a provider, a store that did not answer in time, or the
engine itself.  Every failure has a message for the audit trail and a public code for the caller.
The public code says less: all failures that are not rejections share one, and so do a forged
signature and a revoked credential.
-/

namespace SignOn

set_option autoImplicit false

/-! ## Rejections -/

/-- Why a request is turned down. -/
inductive Rejection where
  /-- The signature does not belong to the content. -/
  | invalidSignature
  /-- The text is not a credential. -/
  | malformedCredential (detail : String)
  | expiredCredential
  /-- The text is a credential, but not one that is accepted here. -/
  | unsupportedFormat (detail : String)
  | emptyCredential
  | sessionNotFound
  /-- The refresh value is not the current one of its identity. -/
  | refreshMismatch
  | rateLimitExceeded (key : String)
  /-- Nobody is signed in, or the credential has been revoked. -/
  | unauthenticated
  | unsupportedProvider (name : String)
  /-- The profile that a provider sent lacks something. -/
  | incompleteProfile (field : String)
deriving DecidableEq, Repr

/-- What a caller is told about a failure. -/
structure PublicCode where
  status : Nat
  code : String
  message : String
deriving DecidableEq, Repr

/-- The public code of every failure that is not a rejection. -/
def PublicCode.internal : PublicCode := ⟨500, "C003", "An internal server error occurred."⟩

/-- The public code of everything that comes down to not being signed in. -/
def PublicCode.unauthorized : PublicCode := ⟨401, "A003", "Authentication is required."⟩

/-- The public code of a credential that is not accepted. -/
def PublicCode.invalidToken : PublicCode := ⟨401, "A001", "Invalid token."⟩

namespace Rejection

/-- The message for the audit trail. -/
def message : Rejection → String
  | .invalidSignature => "invalid credential signature"
  | .malformedCredential detail => "malformed credential: " ++ detail
  | .expiredCredential => "credential expired"
  | .unsupportedFormat detail => "unsupported credential format: " ++ detail
  | .emptyCredential => "credential is empty"
  | .sessionNotFound => "session not found"
  | .refreshMismatch => "refresh credential does not match the active session"
  | .rateLimitExceeded key => "rate limit exceeded: " ++ key
  | .unauthenticated => "unauthenticated"
  | .unsupportedProvider name => "unsupported provider: " ++ name
  | .incompleteProfile field => "provider profile is missing `" ++ field ++ "`"

/-- What the caller is told. -/
def publicCode : Rejection → PublicCode
  | .invalidSignature | .unauthenticated => .unauthorized
  | .malformedCredential _ => ⟨401, "A004", "Malformed token."⟩
  | .expiredCredential => ⟨401, "A002", "Token has expired."⟩
  | .unsupportedFormat _ | .refreshMismatch => .invalidToken
  | .emptyCredential => ⟨401, "A005", "Token is empty."⟩
  | .sessionNotFound => ⟨401, "A006", "Session has expired. Please sign in again."⟩
  | .rateLimitExceeded _ => ⟨429, "C007", "Too many requests. Please try again later."⟩
  | .unsupportedProvider _ => ⟨400, "A007", "Unsupported identity provider."⟩
  | .incompleteProfile _ =>
      ⟨400, "A008", "The identity provider did not share the required profile data."⟩

/-- Whether a rejection points at a replayed or forged credential. -/
def isSuspicious : Rejection → Bool
  | .invalidSignature | .refreshMismatch => true
  | _ => false

end Rejection

/-! ## Failures behind the engine -/

/-- How a store fails. -/
inductive StoreError where
  | unavailable (detail : String)
  | backend (detail : String)
  | serialization (detail : String)
deriving DecidableEq, Repr

/-- The message of a store failure. -/
def StoreError.message : StoreError → String
  | .unavailable detail => "store unavailable: " ++ detail
  | .backend detail => "store operation failed: " ++ detail
  | .serialization detail => "serialization error: " ++ detail

/-- How the exchange with a provider fails. -/
inductive ProviderError where
  | notConfigured (provider : Provider)
  | exchange (detail : String)
  | userInfo (detail : String)
  | network (detail : String)
deriving DecidableEq, Repr

/-- The message of a provider failure. -/
def ProviderError.message : ProviderError → String
  | .notConfigured provider => "provider not configured: " ++ provider.name
  | .exchange detail => "code exchange failed: " ++ detail
  | .userInfo detail => "userinfo request failed: " ++ detail
  | .network detail => "network error: " ++ detail

/-! ## All failures -/

/-- Why an operation fails. -/
inductive Failure where
  | rejected (reason : Rejection)
  | storage (error : StoreError)
  | provider (error : ProviderError)
  /-- The named store call did not answer in time. -/
  | timeout (call : String)
  | internal (detail : String)
deriving DecidableEq, Repr

namespace Failure

/-- The message for the audit trail. -/
def message : Failure → String
  | .rejected reason => reason.message
  | .storage error => "storage error: " ++ error.message
  | .provider error => "provider error: " ++ error.message
  | .timeout call => "operation timed out: " ++ call
  | .internal detail => "internal error: " ++ detail

/-- Whether the failure is one that a caller can expect: a rejection. -/
def isExpected : Failure → Bool
  | .rejected _ => true
  | _ => false

/-- What the caller is told. -/
def publicCode : Failure → PublicCode
  | .rejected reason => reason.publicCode
  | _ => .internal

end Failure

/-- The provider that a text names, or the rejection of the text. -/
def Provider.require (text : String) : Except Rejection Provider :=
  match Provider.ofText? text with
  | some provider => .ok provider
  | none => .error (.unsupportedProvider text)

end SignOn
