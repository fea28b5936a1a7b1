import SignOn.Failure
import SignOn.Gateway.Dialogue
import SignOn.Json.Reader
import SignOn.Json.Record
import SignOn.Json.Settled
import SignOn.Settings.Site
import SignOn.Text.Base64
import SignOn.Text.Form

/-!
# Exchanging an authorization code

A code that a login at a provider has left is exchanged in two requests.  The first presents the
code and the registration at the token endpoint and yields an access token of the provider; the
second presents that token and yields what the provider says about the user.  The second request
is sent only if the first has yielded a bearer token.  No redirection is followed and nothing is
tried twice.  Where the address of an endpoint names a user, a request to it says so first.
-/

namespace SignOn.Gateway

set_option autoImplicit false

open Settings (Providers Registration)

/-! ## Bodies -/

/-- The media type of the token request. -/
def formType : String := "application/x-www-form-urlencoded"

/-- The named values of a token request. -/
def tokenParameters (registration : Registration) (code : String) : List (String × String) :=
  [("grant_type", "authorization_code"), ("code", code), ("client_id", registration.clientId),
   ("client_secret", registration.clientSecret), ("redirect_uri", registration.redirectUri)]

/-- The body of a token request. -/
def tokenBody (registration : Registration) (code : String) : String :=
  String.ofList (Text.Form.encode (tokenParameters registration code))

/-- The access token in the body of a token reply, with its type if that is given. -/
def readToken? (body : String) : Option (String × Option String) := do
  let json ← Json.ofText? body
  let field ← json.fields? ["access_token", "token_type"]
  let token ← (field "access_token").required Json.asString?
  let kind ← (field "token_type").orElse none (Json.nullable Json.asString?)
  some (token, kind)

/-- The name of the error in the body of a refused token request, with its description if that is
given. -/
def readRefusal? (body : String) : Option (String × Option String) := do
  let json ← Json.ofText? (String.ofList (Text.dropByteOrderMark body.toList))
  let field ← json.fields? ["error", "error_description"]
  let error ← (field "error").required Json.asString?
  let description ← (field "error_description").orElse none (Json.nullable Json.asString?)
  some (error, description)

/-- What the body of a userinfo reply says about the user. -/
def readUserinfo? (body : String) : Option Json :=
  (Json.ofText? body).bind Json.settle?

/-- Whether the type of a token is the one that is accepted, whatever the case of its letters. -/
def isBearer (kind : String) : Bool :=
  kind.toList.map Char.toLower = "bearer".toList

/-! ## Addresses -/

/-- Whether a host may be part of a request. -/
def isLegalHost (host : List Char) : Bool :=
  host.all fun c => c ∉ ['"', '\x60', '\x7b', '\x7d']

/-- An HTTP client that follows no redirection and tries nothing twice. -/
structure Client where
  /-- Whether it can talk over encrypted connections. -/
  encrypts : Bool
deriving DecidableEq, Repr

/-- The client that cannot talk over encrypted connections. -/
def Client.plain : Client := ⟨false⟩

/-- Whether a client can talk to the addresses of a scheme. -/
def Client.speaks (client : Client) (scheme : List Char) : Bool :=
  scheme = "http".toList || client.encrypts && scheme = "https".toList

/-- An address that requests are sent to. -/
structure Endpoint where
  url : Net.Url
  authority : Net.Authority
deriving DecidableEq, Repr

/-- The endpoint that an address names, if a client can reach it. -/
def Client.endpoint? (client : Client) (text : String) : Option Endpoint := do
  let url ← Net.Url.ofText? text
  let authority ← url.authority
  if client.speaks url.scheme && isLegalHost authority.host then some ⟨url, authority⟩ else none

/-- The text that an escaped part of an address stands for, if it is one. -/
def unescaped? (characters : List Char) : Option String :=
  Text.ofUtf8? (Text.Percent.decode characters)

/-- What a request says about who asks when the address names a user: the name and the password, in
base64.  A password that is no text is left out, and with a name that is none nothing is said. -/
def userAuthorization? (authority : Net.Authority) : Option String :=
  let (name, password) :=
    match Text.splitFirst? ':' authority.user with
    | some (name, password) => (name, unescaped? password)
    | none => (authority.user, none)
  match unescaped? name with
  | none => none
  | some name =>
      if name.isEmpty && password.isNone then none
      else
        some ("Basic " ++
          String.ofList (Text.Base64.encode (Text.utf8 (name ++ ":" ++ password.getD ""))))

/-- Whether a text may be part of a header field. -/
def isLegalToken (token : String) : Bool :=
  token.toList.all fun c => (0x20 ≤ c.toNat && c.toNat ≠ 0x7F) || c = '\t'

/-! ## The token request -/

/-- The request that presents a code at a token endpoint. -/
def tokenRequest (registration : Registration) (code : String) (endpoint : Endpoint) : Message :=
  ⟨"POST", endpoint.url.target, String.ofList (Net.Url.hostText endpoint.authority), some formType,
   (userAuthorization? endpoint.authority).toList, tokenBody registration code⟩

/-- The access token that a token endpoint grants by its reply. -/
def granted (reply : Option Reply) : Except ProviderError String :=
  match reply.filter Reply.isFinal with
  | none => .error (.network "the connection was closed")
  | some reply =>
      if Http.isSuccess reply.status then
        match readToken? reply.content with
        | none => .error (.exchange "Failed to parse token response")
        | some (token, kind) =>
            if kind.all isBearer then .ok token
            else .error (.exchange ("Unsupported token type `" ++ kind.getD "" ++ "`"))
      else
        match readRefusal? reply.content with
        | some (error, description) => .error (.exchange (description.getD error))
        | none => .error (.exchange ("Token request failed with " ++ Http.statusText reply.status))

/-- Exchanges a code for an access token of the provider. -/
def Client.exchangeCode (client : Client) (provider : Provider) (registration : Registration)
    (code : String) : Dialogue (Except ProviderError String) :=
  match client.endpoint? (registration.tokenAddress provider) with
  | none => .done (.error (.network "the token endpoint cannot be reached"))
  | some endpoint =>
      .send (tokenRequest registration code endpoint) fun reply => .done (granted reply)

/-! ## The userinfo request -/

/-- The request that presents an access token at a userinfo endpoint. -/
def userinfoRequest (token : String) (endpoint : Endpoint) : Message :=
  ⟨"GET", endpoint.url.target, String.ofList (Net.Url.hostText endpoint.authority), none,
   (userAuthorization? endpoint.authority).toList ++ ["Bearer " ++ token], ""⟩

/-- What a userinfo endpoint says about the user by its reply. -/
def told (reply : Option Reply) : Except ProviderError Json :=
  match reply.filter Reply.isFinal with
  | none => .error (.network "the connection was closed")
  | some reply =>
      if Http.isSuccess reply.status then
        match readUserinfo? reply.content with
        | none => .error (.userInfo "Failed to parse userinfo")
        | some payload => .ok payload
      else .error (.userInfo ("Userinfo request failed with " ++ Http.statusText reply.status))

/-- Asks the provider about the user behind an access token. -/
def Client.askUserinfo (client : Client) (provider : Provider) (registration : Registration)
    (token : String) : Dialogue (Except ProviderError Json) :=
  match client.endpoint? (registration.userinfoAddress provider) with
  | none => .done (.error (.network "the userinfo endpoint cannot be reached"))
  | some endpoint =>
      if isLegalToken token then
        .send (userinfoRequest token endpoint) fun reply => .done (told reply)
      else .done (.error (.network "the token cannot be sent"))

/-! ## The two requests -/

/-- Exchanges a code for what the provider says about the user. -/
def Client.fetchUserinfo (client : Client) (providers : Providers) (provider : Provider)
    (code : String) : Dialogue (Except ProviderError Json) :=
  match providers.registration? provider with
  | none => .done (.error (.notConfigured provider))
  | some registration => do
      match ← client.exchangeCode provider registration code with
      | .error error => return .error error
      | .ok token => client.askUserinfo provider registration token

/-- Exchanges a code without talking over encrypted connections. -/
def fetchUserinfo (providers : Providers) (provider : Provider) (code : String) :
    Dialogue (Except ProviderError Json) :=
  Client.plain.fetchUserinfo providers provider code

end SignOn.Gateway
