import SignOn.Credential.Codec
import SignOn.Session
import SignOn.Settings.Auth
import SignOn.Settings.Site
import SignOn.Text.Quoted
import SignOn.Time.DurationText
import SignOn.Time.Rfc3339

/-!
# Descriptions

Values that hold secrets have descriptions for people who look for faults: the kind of value and its
parts by name.  A secret is never part of a description; a fixed text stands in its place, so two
values that differ in their secrets alone have the same description.
-/

namespace SignOn

set_option autoImplicit false

/-! ## Descriptions and their text -/

/-- What is told about a value. -/
inductive Description where
  | plain (text : String)
  | quoted (text : String)
  /-- A part that a value does not have. -/
  | absent
  /-- A part that a value need not have, but has. -/
  | present (description : Description)
  /-- A kind of value with its parts by name. -/
  | record (kind : String) (parts : List (String × Description))
  /-- A kind of value with some of its parts. -/
  | excerpt (kind : String) (parts : List (String × Description))

namespace Description

mutual

/-- A description as a text. -/
def text : Description → String
  | .plain text => text
  | .quoted text => Text.quote text
  | .absent => "None"
  | .present description => "Some(" ++ description.text ++ ")"
  | .record kind parts => kind ++ " \x7b " ++ partsText parts ++ " \x7d"
  | .excerpt kind parts => kind ++ " \x7b " ++ partsText parts ++ ", .. \x7d"

/-- The parts of a description with commas between them. -/
def partsText : List (String × Description) → String
  | [] => ""
  | [(name, part)] => name ++ ": " ++ part.text
  | (name, part) :: next :: rest => name ++ ": " ++ part.text ++ ", " ++ partsText (next :: rest)

end

/-- What stands in the place of a secret. -/
def withheld : Description := .quoted "<redacted>"

/-- A number. -/
def number (value : Int) : Description :=
  .plain (String.ofList (Text.signedDigits value))

/-- A part that a value need not have. -/
def optional {α : Type} (describe : α → Description) : Option α → Description
  | none => .absent
  | some value => .present (describe value)

end Description

/-! ## The values that have descriptions -/

/-- What is told about a provider: its name with a capital. -/
def Provider.description : Provider → Description
  | .google => .plain "Google"
  | .kakao => .plain "Kakao"

/-- What is told about an identity. -/
def UserId.description (identity : UserId) : Description :=
  .record "UserId"
    [("email", .quoted identity.email), ("provider", identity.provider.description)]

/-- What is told about a pair of credentials. -/
def TokenPair.description (pair : TokenPair) : Description :=
  .record "TokenPair"
    [("access_token", .withheld), ("refresh_token", .withheld),
     ("refresh_max_age_secs", .number pair.refreshMaxAge)]

/-- What is told about a session. -/
def Session.description (session : Session) : Description :=
  .record "Session"
    [("user_id", session.owner.description), ("refresh_token", .withheld),
     ("expires_at", .plain (Timestamp.ofInstant session.expiresAt).text)]

/-- What is told about a codec. -/
def Codec.description (codec : Codec) : Description :=
  .excerpt "TokenCodec"
    [("access_ttl", .plain codec.accessLifetime.text),
     ("refresh_ttl", .plain codec.refreshLifetime.text)]

namespace Settings

/-- What is told about a limit. -/
def RateLimit.description (limit : RateLimit) : Description :=
  .record "RateLimitPolicy"
    [("limit", .number limit.limit), ("window_secs", .number limit.windowSeconds)]

/-- What is told about the limits of all operations. -/
def RateLimits.description (limits : RateLimits) : Description :=
  .record "RateLimitSettings"
    [("login", .optional RateLimit.description limits.login),
     ("reissue", .optional RateLimit.description limits.reissue),
     ("logout", .optional RateLimit.description limits.logout)]

/-- What is told about the settings of the engine. -/
def Auth.description (settings : Auth) : Description :=
  .record "AuthSettings"
    [("signing_secret", .withheld), ("access_ttl_secs", .number settings.accessSeconds),
     ("refresh_ttl_secs", .number settings.refreshSeconds),
     ("store_timeout_ms", .number settings.storeTimeoutMilliseconds),
     ("rate_limits", settings.rateLimits.description)]

/-- What is told about a registration. -/
def Registration.description (registration : Registration) : Description :=
  .record "ProviderSettings"
    [("client_id", .quoted registration.clientId), ("client_secret", .withheld),
     ("redirect_uri", .quoted registration.redirectUri),
     ("token_url", .optional .quoted registration.tokenUrl),
     ("userinfo_url", .optional .quoted registration.userinfoUrl)]

end Settings

end SignOn
