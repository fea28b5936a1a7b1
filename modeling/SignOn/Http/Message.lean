import SignOn.Failure
import SignOn.Json.Writer
import SignOn.Net.Address
import SignOn.Text.Split

/-!
# Requests and responses

A request names what it asks for by a method and a target and carries header fields; a response has
a status, header fields and a body.  Names of fields do not depend on case.  Of a field that is
repeated the first one counts, cookies apart, and a value is readable when it consists of printable
ASCII characters, spaces and tabs.
-/

namespace SignOn.Http

set_option autoImplicit false

/-! ## Requests -/

/-- A request without a body. -/
structure Request where
  method : String
  target : String
  /-- Header fields in the order in which they were sent. -/
  headers : List (String × String)
  /-- The address at the other end of the connection. -/
  peer : Option Net.Address

/-- A name of a field in lowercase. -/
def lowercase (name : String) : String :=
  String.ofList (name.toList.map Char.toLower)

/-- Whether a value consists of printable ASCII characters, spaces and tabs. -/
def isReadable (value : String) : Bool :=
  value.toList.all fun c => (0x20 ≤ c.toNat && c.toNat < 0x7F) || c = '\t'

namespace Request

/-- The values of a field, given by its name in lowercase. -/
def valuesOf (request : Request) (name : String) : List String :=
  (request.headers.filter fun header => lowercase header.1 = name).map Prod.snd

/-- The first value of a field. -/
def first? (request : Request) (name : String) : Option String :=
  (request.valuesOf name).head?

/-- The first value of a field, if it is readable. -/
def readable? (request : Request) (name : String) : Option String :=
  (request.first? name).filter isReadable

/-- The target up to a fragment. -/
def cleanTarget (request : Request) : List Char :=
  request.target.toList.takeWhile (· ≠ '#')

/-- The path and the query of the target.  A target that starts with a scheme and a machine is asked
for the path after them, which is the root if there is none. -/
def location (request : Request) : List Char × List Char :=
  let target := request.cleanTarget
  let path := target.takeWhile (· ≠ '?')
  let query := target.drop (path.length + 1)
  if path.head? = some '/' then (path, query)
  else
    match Text.splitFirst? ':' path with
    | some (_, '/' :: '/' :: rest) =>
        let inner := rest.dropWhile (· ≠ '/')
        (if inner.isEmpty then ['/'] else inner, query)
    | _ => (path, query)

end Request

/-! ## Responses -/

/-- A response. -/
structure Response where
  status : Nat
  headers : List (String × String)
  body : String
deriving DecidableEq, Repr

namespace Response

/-- A response without a body. -/
def bare (status : Nat) : Response := ⟨status, [], ""⟩

/-- A response whose body is a JSON text. -/
def json (status : Nat) (body : Json) : Response :=
  ⟨status, [("content-type", "application/json")], body.text⟩

/-- A response whose body is a plain text. -/
def plain (status : Nat) (body : String) : Response :=
  ⟨status, [("content-type", "text/plain; charset=utf-8")], body⟩

/-- The success that carries some data. -/
def success (data : Json) : Response :=
  json 200 (.object [("success", .boolean true), ("data", data)])

/-- The answer to a failure, which says no more than its public code. -/
def failure (failure : Failure) : Response :=
  let code := failure.publicCode
  json code.status
    (.object
      [("success", .boolean false),
       ("error", .object [("code", .string code.code), ("message", .string code.message)])])

/-- The redirection to an address. -/
def redirect (address : String) : Response :=
  ⟨303, [("location", address)], ""⟩

/-- A response with a further field. -/
def withHeader (response : Response) (name value : String) : Response :=
  { response with headers := response.headers ++ [(name, value)] }

/-- The values of a field, given by its name in lowercase. -/
def valuesOf (response : Response) (name : String) : List String :=
  (response.headers.filter fun header => header.1 = name).map Prod.snd

end Response

end SignOn.Http
