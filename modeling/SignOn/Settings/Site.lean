import SignOn.Identity
import SignOn.Net.Url
import SignOn.Settings.Form

/-!
# Settings of the site

The site needs to know where it listens, the front end to which provider logins return, and the
name, path and transport of the cookie that carries the refresh credential.  A provider takes part
once it is registered with a client and the address to return to; its own addresses have defaults.
-/

namespace SignOn.Settings

set_option autoImplicit false

/-! ## Cookie and server -/

/-- The cookie that carries the refresh credential. -/
structure Cookie where
  name : String
  path : String
  /-- Whether the cookie is sent over encrypted connections only. -/
  secure : Bool
deriving DecidableEq, Repr

/-- Where the site listens and to whom it answers. -/
structure Server where
  host : String
  port : Nat
  /-- The front end to which provider logins return. -/
  allowedOrigin : Net.Url
  cookie : Cookie

/-- The address to listen at. -/
def Server.bindAddress (server : Server) : String :=
  server.host ++ ":" ++ String.ofList (Text.digits server.port)

/-! ## Providers -/

/-- The registration of a client at a provider. -/
structure Registration where
  clientId : String
  clientSecret : String
  redirectUri : String
  /-- The address for exchanging codes, if it is not the usual one. -/
  tokenUrl : Option String
  /-- The address for asking about users, if it is not the usual one. -/
  userinfoUrl : Option String
deriving DecidableEq, Repr

namespace Registration

/-- Where codes are exchanged. -/
def tokenAddress (registration : Registration) (provider : Provider) : String :=
  registration.tokenUrl.getD <|
    match provider with
    | .google => "https://oauth2.googleapis.com/token"
    | .kakao => "https://kauth.kakao.com/oauth/token"

/-- Where users are asked about. -/
def userinfoAddress (registration : Registration) (provider : Provider) : String :=
  registration.userinfoUrl.getD <|
    match provider with
    | .google => "https://www.googleapis.com/oauth2/v3/userinfo"
    | .kakao => "https://kapi.kakao.com/v2/user/me"

end Registration

/-- The registrations at all providers. -/
structure Providers where
  google : Option Registration
  kakao : Option Registration
deriving DecidableEq, Repr

namespace Providers

/-- No registrations. -/
def none : Providers := ⟨.none, .none⟩

/-- The registration at a provider. -/
def registration? (providers : Providers) : Provider → Option Registration
  | .google => providers.google
  | .kakao => providers.kakao

end Providers

/-! ## Reading -/

namespace Form

variable {ν : Type}

/-- A number of sixteen bits without a sign. -/
def port? (form : Form ν) (value : ν) : Option Nat :=
  (form.natural? value).filter (· < 65536)

/-- The cookie, all of it. -/
def cookie? (form : Form ν) (value : ν) : Option Cookie := do
  let field ← form.fields? ["name", "path", "secure"] value
  let name ← (field "name").required form.text?
  let path ← (field "path").required form.text?
  let secure ← (field "secure").required form.boolean?
  some ⟨name, path, secure⟩

/-- The settings of the server, all of them. -/
def server? (form : Form ν) (value : ν) : Option Server := do
  let field ← form.fields? ["host", "port", "allowed_origin", "cookie"] value
  let host ← (field "host").required form.text?
  let port ← (field "port").required form.port?
  let allowedOrigin ← (field "allowed_origin").required fun origin =>
    (form.text? origin).bind Net.Url.ofText?
  let cookie ← (field "cookie").required form.cookie?
  some ⟨host, port, allowedOrigin, cookie⟩

/-- A registration; its two addresses are optional. -/
def registration? (form : Form ν) (value : ν) : Option Registration := do
  let field ← form.fields?
    ["client_id", "client_secret", "redirect_uri", "token_url", "userinfo_url"] value
  let clientId ← (field "client_id").required form.text?
  let clientSecret ← (field "client_secret").required form.text?
  let redirectUri ← (field "redirect_uri").required form.text?
  let tokenUrl ← (field "token_url").orElse none (form.nullable form.text?)
  let userinfoUrl ← (field "userinfo_url").orElse none (form.nullable form.text?)
  some ⟨clientId, clientSecret, redirectUri, tokenUrl, userinfoUrl⟩

/-- The registrations at all providers; a provider that is not mentioned has none. -/
def providers? (form : Form ν) (value : ν) : Option Providers := do
  let field ← form.fields? ["google", "kakao"] value
  let google ← (field "google").orElse none (form.nullable form.registration?)
  let kakao ← (field "kakao").orElse none (form.nullable form.registration?)
  some ⟨google, kakao⟩

end Form

end SignOn.Settings
