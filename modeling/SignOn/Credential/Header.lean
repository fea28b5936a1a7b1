import SignOn.Json.Reader
import SignOn.Json.Record
import SignOn.Json.Settled

/-!
# Credential headers

The first part of a credential names the algorithm of its signature and may carry descriptions of
the key.  Only one algorithm is accepted, but all known ones are told apart from unknown ones.  The
descriptions are checked for their shape and otherwise ignored.
-/

namespace SignOn

set_option autoImplicit false

/-! ## Algorithms -/

/-- The algorithms that a header can name. -/
inductive Algorithm where
  | hs256
  | hs384
  | hs512
  | es256
  | es384
  | rs256
  | rs384
  | rs512
  | ps256
  | ps384
  | ps512
  | edDSA
deriving DecidableEq, Repr

namespace Algorithm

/-- The name of an algorithm in headers. -/
def name : Algorithm → String
  | .hs256 => "HS256"
  | .hs384 => "HS384"
  | .hs512 => "HS512"
  | .es256 => "ES256"
  | .es384 => "ES384"
  | .rs256 => "RS256"
  | .rs384 => "RS384"
  | .rs512 => "RS512"
  | .ps256 => "PS256"
  | .ps384 => "PS384"
  | .ps512 => "PS512"
  | .edDSA => "EdDSA"

/-- All algorithms. -/
def all : List Algorithm :=
  [.hs256, .hs384, .hs512, .es256, .es384, .rs256, .rs384, .rs512, .ps256, .ps384, .ps512, .edDSA]

/-- The algorithm of a name. -/
def ofName? (name : String) : Option Algorithm :=
  all.find? fun algorithm => algorithm.name = name

end Algorithm

/-! ## Descriptions of keys -/

namespace KeyDescription

/-- A list of texts. -/
def texts? : Json → Option (List String)
  | .array items => items.mapM Json.asString?
  | _ => none

/-- One of the given names. -/
def oneOf (names : List String) (json : Json) : Option String :=
  json.asTag? fun name => if name ∈ names then some name else none

/-- The algorithms that the description of a key can name. -/
def algorithmNames : List String :=
  Algorithm.all.map Algorithm.name ++ ["RSA1_5", "RSA-OAEP", "RSA-OAEP-256"]

/-- The curves that the description of a key can name. -/
def curveNames : List String := ["P-256", "P-384", "P-521", "Ed25519"]

/-- The names of the members that every kind of key may have. -/
def commonNames : List String := ["use", "key_ops", "alg", "kid", "x5u", "x5c", "x5t", "x5t#S256"]

/-- Whether the common members have their shapes. -/
def commonFits (json : Json) : Option Unit := do
  let field ← json.fields? commonNames
  let _ ← (field "use").optional Json.asString?
  let _ ← (field "key_ops").optional texts?
  let _ ← (field "alg").optional (oneOf algorithmNames)
  let _ ← (field "kid").optional Json.asString?
  let _ ← (field "x5u").optional Json.asString?
  let _ ← (field "x5c").optional texts?
  let _ ← (field "x5t").optional Json.asString?
  let _ ← (field "x5t#S256").optional Json.asString?
  some ()

/-- Whether the members of one kind of key are there: its type, and members read by the given
readers. -/
def keyFits (keyType : String) (members : List (String × (Json → Option String))) (json : Json) :
    Bool :=
  match json.fields? ("kty" :: members.map Prod.fst) with
  | none => false
  | some field =>
      ((field "kty").required (oneOf [keyType])).isSome &&
        members.all fun member => ((field member.1).required member.2).isSome

/-- Whether a value describes a key: an object that can be taken whole, with the common members and
those of one kind of key. -/
def isKey (json : Json) : Bool :=
  match json with
  | .object _ =>
      json.progress (Json.deepest - 1) = .taken && (commonFits json).isSome &&
        (keyFits "EC" [("crv", oneOf curveNames), ("x", Json.asString?), ("y", Json.asString?)] json ||
          keyFits "RSA" [("n", Json.asString?), ("e", Json.asString?)] json ||
          keyFits "oct" [("k", Json.asString?)] json ||
          keyFits "OKP" [("crv", oneOf curveNames), ("x", Json.asString?)] json)
  | _ => false

end KeyDescription

/-! ## Headers -/

/-- A header, as far as it is used. -/
structure Header where
  algorithm : Algorithm
deriving DecidableEq, Repr

namespace Header

/-- The names of the members of a header, in order. -/
def memberNames : List String :=
  ["typ", "alg", "cty", "jku", "jwk", "kid", "x5u", "x5c", "x5t", "x5t#S256"]

/-- The text of the headers of all credentials that are issued. -/
def issuedText : String := "\x7b\"typ\":\"JWT\",\"alg\":\"HS256\"\x7d"

/-- The header in a JSON value. -/
def ofJson? (json : Json) : Option Header := do
  let field ← json.fields? memberNames
  let _ ← (field "typ").optional Json.asString?
  let algorithm ← (field "alg").required (Json.asTag? Algorithm.ofName?)
  let _ ← (field "cty").optional Json.asString?
  let _ ← (field "jku").optional Json.asString?
  let _ ← (field "jwk").optional fun value =>
    if KeyDescription.isKey value then some () else none
  let _ ← (field "kid").optional Json.asString?
  let _ ← (field "x5u").optional Json.asString?
  let _ ← (field "x5c").optional KeyDescription.texts?
  let _ ← (field "x5t").optional Json.asString?
  let _ ← (field "x5t#S256").optional Json.asString?
  some ⟨algorithm⟩

end Header

end SignOn
