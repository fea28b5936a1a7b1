import SignOn.Settings.Form
import SignOn.Time.Instant

/-!
# Settings of the engine

The engine needs a secret, the lifetimes of the two kinds of credential, how long a store may take,
and how often each operation may be tried.  Only the secret has no default.
-/

namespace SignOn.Settings

set_option autoImplicit false

/-! ## Rate limits -/

/-- The operations that can be limited. -/
inductive LimitedOperation where
  | login
  | reissue
  | logout
deriving DecidableEq, Repr

/-- The name of an operation in the keys of its windows. -/
def LimitedOperation.name : LimitedOperation → String
  | .login => "login"
  | .reissue => "reissue"
  | .logout => "logout"

/-- How many calls are allowed within a window of so many seconds. -/
structure RateLimit where
  limit : Nat
  windowSeconds : Nat
deriving DecidableEq, Repr

/-- The length of a window. -/
def RateLimit.window (limit : RateLimit) : Duration :=
  Duration.ofSeconds limit.windowSeconds

/-- The limit of every operation, where it has one. -/
structure RateLimits where
  login : Option RateLimit
  reissue : Option RateLimit
  logout : Option RateLimit
deriving DecidableEq, Repr

namespace RateLimits

/-- Only reissuing is limited, to five calls a minute. -/
def standard : RateLimits := ⟨none, some ⟨5, 60⟩, none⟩

/-- The limit of an operation. -/
def limitOf (limits : RateLimits) : LimitedOperation → Option RateLimit
  | .login => limits.login
  | .reissue => limits.reissue
  | .logout => limits.logout

end RateLimits

/-! ## Engine settings -/

/-- The settings of the engine. -/
structure Auth where
  signingSecret : String
  accessSeconds : Nat
  refreshSeconds : Nat
  storeTimeoutMilliseconds : Nat
  rateLimits : RateLimits
deriving DecidableEq, Repr

namespace Auth

/-- How long an access credential is good. -/
def accessLifetime (settings : Auth) : Duration := Duration.ofSeconds settings.accessSeconds

/-- How long a refresh credential is good. -/
def refreshLifetime (settings : Auth) : Duration := Duration.ofSeconds settings.refreshSeconds

end Auth

/-! ## Reading -/

namespace Form

variable {ν : Type}

/-- A limit, with both of its numbers. -/
def rateLimit? (form : Form ν) (value : ν) : Option RateLimit := do
  let field ← form.fields? ["limit", "window_secs"] value
  let limit ← (field "limit").required form.natural?
  let windowSeconds ← (field "window_secs").required form.natural?
  some ⟨limit, windowSeconds⟩

/-- The limits of all operations.  An operation that is not mentioned keeps its standard limit; null
takes it away. -/
def rateLimits? (form : Form ν) (value : ν) : Option RateLimits := do
  let field ← form.fields? ["login", "reissue", "logout"] value
  let read := form.nullable form.rateLimit?
  let login ← (field "login").orElse RateLimits.standard.login read
  let reissue ← (field "reissue").orElse RateLimits.standard.reissue read
  let logout ← (field "logout").orElse RateLimits.standard.logout read
  some ⟨login, reissue, logout⟩

/-- The settings of the engine: access credentials are good for half an hour, refresh credentials
for two weeks, and a store may take two seconds, unless said otherwise. -/
def auth? (form : Form ν) (value : ν) : Option Auth := do
  let field ← form.fields?
    ["signing_secret", "access_ttl_secs", "refresh_ttl_secs", "store_timeout_ms", "rate_limits"] value
  let signingSecret ← (field "signing_secret").required form.text?
  let accessSeconds ← (field "access_ttl_secs").orElse 1800 form.natural?
  let refreshSeconds ← (field "refresh_ttl_secs").orElse 1209600 form.natural?
  let storeTimeout ← (field "store_timeout_ms").orElse 2000 form.natural?
  let rateLimits ← (field "rate_limits").orElse RateLimits.standard form.rateLimits?
  some ⟨signingSecret, accessSeconds, refreshSeconds, storeTimeout, rateLimits⟩

end Form

end SignOn.Settings
