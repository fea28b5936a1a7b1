import SignOn.Http.Status

/-!
# Talking to a provider

A dialogue is a sequence of requests, each of which may depend on the replies before.  A request
is answered by a reply or by a connection that closes without one.  Run on a script, a dialogue
takes the replies in order; once the script is used up, every connection closes.
-/

namespace SignOn.Gateway

set_option autoImplicit false

/-- A request to a provider. -/
structure Message where
  method : String
  target : String
  host : String
  contentType : Option String
  /-- What the request says about who asks, in this order. -/
  authorizations : List String
  body : String
deriving DecidableEq, Repr

/-- The value of a header field as it arrives: without blanks at its end. -/
def asReceived (value : String) : String :=
  String.ofList ((value.toList.reverse.dropWhile fun c => c = ' ' || c = '\t').reverse)

/-- What a request says about who asks to a provider that reads a header field once. -/
def Message.authorization (message : Message) : Option String :=
  message.authorizations.head?.map asReceived

/-- The reply of a provider. -/
structure Reply where
  status : Nat
  body : String
deriving DecidableEq, Repr

/-- Whether a reply is the end of an exchange.  Other statuses below 200 announce a reply that never
comes, and a status has three digits. -/
def Reply.isFinal (reply : Reply) : Bool :=
  reply.status = 101 || (200 ≤ reply.status && reply.status ≤ 999)

/-- The body that arrives with a reply. -/
def Reply.content (reply : Reply) : String :=
  if Http.isBodiless reply.status then "" else reply.body

/-- A sequence of requests with an outcome. -/
inductive Dialogue (α : Type) where
  | done (outcome : α)
  | send (message : Message) (next : Option Reply → Dialogue α)

namespace Dialogue

/-- One dialogue after another. -/
def bind {α β : Type} : Dialogue α → (α → Dialogue β) → Dialogue β
  | .done outcome, follow => follow outcome
  | .send message next, follow => .send message fun reply => (next reply).bind follow

instance : Monad Dialogue where
  pure := .done
  bind := bind

/-- The outcome of a dialogue on a script, and the requests that were sent. -/
def run {α : Type} : Dialogue α → List (Option Reply) → α × List Message
  | .done outcome, _ => (outcome, [])
  | .send message next, script =>
      let (outcome, sent) := (next script.head?.join).run script.tail
      (outcome, message :: sent)

end Dialogue

end SignOn.Gateway
