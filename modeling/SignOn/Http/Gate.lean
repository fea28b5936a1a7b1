import SignOn.Engine.Service
import SignOn.Http.Message
import SignOn.Text.Blank

/-!
# The gate

Every request passes the gate, whatever it asks for.  Without a bearer credential it passes as
nobody. With one it passes only if the service accepts the credential, and then as the identity
that the credential names.  Where a request comes from is told by the first hop that it was
forwarded for, or else by the other end of the connection.
-/

namespace SignOn.Http

set_option autoImplicit false

open Engine (Context Operation)

/-- The scheme in front of a bearer credential. -/
def bearerStart : List Char := "Bearer ".toList

/-- The bearer credential of a request, trimmed of blanks. -/
def bearer? (request : Request) : Option String :=
  (request.readable? "authorization").bind fun value =>
    if bearerStart.isPrefixOf value.toList then
      some (Text.trim (String.ofList (value.toList.drop bearerStart.length)))
    else none

/-- The first hop that a request was forwarded for, if it is an address. -/
def forwardedFor? (request : Request) : Option Net.Address :=
  (request.readable? "x-forwarded-for").bind fun value =>
    Net.Address.ofText? (Text.trim (String.ofList (value.toList.takeWhile (· ≠ ','))))

/-- Where a request comes from. -/
def clientOrigin (request : Request) : Option Net.Address :=
  (forwardedFor? request).or request.peer

/-- What the gate has established about a request. -/
structure Caller where
  context : Context
  /-- The accepted credential with the identity that it names. -/
  admitted : Option (UserId × String)

/-- What the gate lets a request pass as. -/
def passGate (service : Engine.Service) (request : Request) : Operation Caller := do
  let context : Context := ⟨none, clientOrigin request⟩
  match bearer? request with
  | none => return ⟨context, none⟩
  | some token =>
      let identity ← service.authorize context token
      return ⟨context.withActor identity, some (identity, token)⟩

end SignOn.Http
