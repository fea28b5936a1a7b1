import SignOn.Identity
import SignOn.Json.Reader
import SignOn.Json.Record
import SignOn.Json.Writer

/-!
# Claims

The payload of a credential says for whom, through which provider, as which kind and under which
identifier it was issued, and from when to when it is good, in whole seconds since 1970.
-/

namespace SignOn

set_option autoImplicit false

/-! ## Kinds -/

/-- The two kinds of credential: one is presented with every call, the other is exchanged for a new
pair. -/
inductive TokenKind where
  | access
  | refresh
deriving DecidableEq, Repr

/-- The name of a kind in claims. -/
def TokenKind.name : TokenKind → String
  | .access => "access"
  | .refresh => "refresh"

/-- The kind of a name. -/
def TokenKind.ofName? (name : String) : Option TokenKind :=
  if name = "access" then some .access
  else if name = "refresh" then some .refresh
  else none

/-! ## Claims -/

/-- What a credential claims. -/
structure Claims where
  /-- The e-mail address of the identity. -/
  subject : String
  provider : Provider
  kind : TokenKind
  tokenId : String
  issuedAt : Int
  expiresAt : Int
deriving DecidableEq, Repr

namespace Claims

/-- The identity that a credential was issued for. -/
def userId (claims : Claims) : UserId := ⟨claims.subject, claims.provider⟩

/-- Whether the last whole second before an instant has reached the expiry. -/
def isExpiredAt (claims : Claims) (now : Instant) : Bool :=
  claims.expiresAt ≤ now.seconds

/-- The names of the members of a payload, in order. -/
def memberNames : List String := ["sub", "provider", "typ", "jti", "iat", "exp"]

/-- Claims as a JSON value. -/
def toJson (claims : Claims) : Json :=
  .object
    [("sub", .string claims.subject), ("provider", .string claims.provider.name),
     ("typ", .string claims.kind.name), ("jti", .string claims.tokenId),
     ("iat", .ofInt claims.issuedAt), ("exp", .ofInt claims.expiresAt)]

/-- Claims as a JSON text. -/
def text (claims : Claims) : String :=
  claims.toJson.text

/-- The claims in a JSON value. -/
def ofJson? (json : Json) : Option Claims := do
  let field ← json.fields? memberNames
  let subject ← (field "sub").required Json.asString?
  let provider ← (field "provider").required (Json.asTag? Provider.ofName?)
  let kind ← (field "typ").required (Json.asTag? TokenKind.ofName?)
  let tokenId ← (field "jti").required Json.asString?
  let issuedAt ← (field "iat").required Json.asSigned64?
  let expiresAt ← (field "exp").required Json.asSigned64?
  some ⟨subject, provider, kind, tokenId, issuedAt, expiresAt⟩

/-- The claims that a JSON text denotes. -/
def ofText? (text : String) : Option Claims :=
  (Json.ofText? text).bind ofJson?

end Claims

end SignOn
