import SignOn.Http.Cookie
import SignOn.Http.Gate
import SignOn.Http.Route
import SignOn.Text.Form

/-!
# The site

A request first passes the gate; a failure there is the answer, whatever the request asks for.
Then the place of its path answers: a reissue turns the refresh cookie into a new one and an
access credential, a logout ends the session of the caller and takes the cookie away, the caller
can ask who it is, and a login at a provider lands with a code and is sent back to the front end
with an access credential, or with the public code of the failure.
-/

namespace SignOn.Http

set_option autoImplicit false

open Engine (Action Context Operation Program)

/-- What a site consists of. -/
structure Site where
  service : Engine.Service
  server : Settings.Server

/-! ## Landing after a login at a provider -/

/-- What the query of a landing request says. -/
structure CallbackQuery where
  code : Option String
  error : Option String
deriving DecidableEq, Repr

/-- The value of a name that may occur once at most. -/
def atMostOnce? (pairs : List (String × String)) (name : String) : Option (Option String) :=
  match pairs.filter fun pair => pair.1 = name with
  | [] => some none
  | [pair] => some (some pair.2)
  | _ => none

/-- What a query says, unless it repeats itself. -/
def CallbackQuery.ofQuery? (query : List Char) : Option CallbackQuery := do
  let pairs := Text.Form.decode query
  some ⟨← atMostOnce? pairs "code", ← atMostOnce? pairs "error"⟩

/-- The path of the front end to which logins return. -/
def returnPath : List Char := "/login/callback".toList

/-- The address to which a login returns with one named value. -/
def returnAddress (origin : Net.Url) (name value : String) : String :=
  ((origin.withPath returnPath).withQuery (Text.Form.encode [(name, value)])).text

/-- Completes a login at a provider: the provider must be known and must not have refused, there
must be a code, and the provider must know the user behind it. -/
def landLogin (service : Engine.Service) (context : Context) (providerName : String)
    (query : CallbackQuery) : Operation TokenPair := do
  let provider ← Operation.ofVerdict (Provider.require providerName)
  if query.error.isSome then Operation.reject .unauthenticated
  else
    match query.code.filter (· ≠ "") with
    | none => Operation.reject .emptyCredential
    | some code =>
        match ← Operation.act (.askProvider provider code) with
        | .error error => Operation.ofOutcome (.error (.provider error))
        | .ok payload =>
            let callback ← Operation.ofVerdict (Callback.ofUserinfo provider payload)
            let (_, pair) ← service.providerLogin context callback
            return pair

/-! ## The places -/

/-- A response that also sets the refresh cookie of a pair. -/
def Response.withPair (response : Response) (settings : Settings.Cookie) (pair : TokenPair) :
    Response :=
  response.withCookie (setCookieText settings pair.refreshToken pair.refreshMaxAge)

/-- The answer of an operation: a response of its own, or that of its failure. -/
def answer (operation : Operation Response) : Program Response := do
  match ← operation.run with
  | .ok response => return response
  | .error failure => return Response.failure failure

namespace Site

/-- Answers a request to reissue. -/
def reissue (site : Site) (caller : Caller) (request : Request) : Program Response :=
  answer do
    match refreshValue? site.server.cookie (request.valuesOf "cookie") with
    | none => Operation.reject .emptyCredential
    | some value =>
        let pair ← site.service.reissue caller.context value
        return (Response.success (.object [("accessToken", .string pair.accessToken)])).withPair
          site.server.cookie pair

/-- Answers a request to log out. -/
def logout (site : Site) (caller : Caller) : Program Response :=
  answer do
    match caller.admitted with
    | none => Operation.reject .unauthenticated
    | some (_, token) =>
        site.service.logout caller.context (some token)
        return (Response.success .null).withCookie (clearCookieText site.server.cookie)

/-- Answers the question who the caller is. -/
def me (caller : Caller) : Program Response :=
  answer do
    match caller.admitted with
    | none => Operation.reject .unauthenticated
    | some (identity, _) =>
        return Response.success
          (.object [("email", .string identity.email), ("provider", .string identity.provider.name)])

/-- Answers a request that lands after a login at a provider. -/
def callback (site : Site) (caller : Caller) (provider query : List Char) : Program Response := do
  match unescape? provider, CallbackQuery.ofQuery? query with
  | none, _ => return Response.plain 400 "Invalid URL: invalid text in the path"
  | _, none => return Response.plain 400 "Failed to deserialize query string: duplicate field"
  | some name, some parameters =>
      match ← (landLogin site.service caller.context name parameters).run with
      | .ok pair =>
          let address := returnAddress site.server.allowedOrigin "accessToken" pair.accessToken
          return (Response.redirect address).withPair site.server.cookie pair
      | .error failure =>
          return Response.redirect
            (returnAddress site.server.allowedOrigin "error" failure.publicCode.code)

/-- Answers a request that has passed the gate. -/
def dispatch (site : Site) (caller : Caller) (request : Request) (route : Option Route) :
    Program Response :=
  match route with
  | none => return Response.bare 404
  | some route =>
      if route.allows request.method then
        match route with
        | .reissue => site.reissue caller request
        | .logout => site.logout caller
        | .me => me caller
        | .callback provider => site.callback caller provider request.location.2
      else return Response.bare 405

/-- The response as it leaves the site.  Where the place of the path cannot be asked with the
method, the field that tells the methods is added, also when the gate has answered.  Asking for
the header fields alone leaves the body out.  The identifier of the request, which is drawn afresh
for a request without one, is sent back. -/
def finish (request : Request) (route : Option Route) (freshId : String) (response : Response) :
    Response :=
  let told := match route with
    | some route =>
        if route.allows request.method then response
        else response.withHeader "allow" route.allowed
    | none => response
  let trimmed := if request.method = "HEAD" then { told with body := "" } else told
  trimmed.withHeader "x-request-id" ((request.first? "x-request-id").getD freshId)

/-- Answers a request. -/
def handle (site : Site) (freshId : String) (request : Request) : Program Response := do
  let route := Route.ofPath? request.location.1
  match ← (passGate site.service request).run with
  | .error failure => return finish request route freshId (Response.failure failure)
  | .ok caller => return finish request route freshId (← site.dispatch caller request route)

end Site

end SignOn.Http
