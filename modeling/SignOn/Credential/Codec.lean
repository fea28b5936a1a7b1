import SignOn.Credential.Claims
import SignOn.Credential.Header
import SignOn.Failure
import SignOn.Hash.Hmac
import SignOn.Text.Base64Url
import SignOn.Text.Blank
import SignOn.Text.Split

/-!
# Credentials

A credential is a text of three parts with points between them: header, payload and signature, each
written in base64.  The signature is the authentication code of the first two parts, as they stand,
under the secret.

A text is read in up to three passes.  The first looks at the header alone and turns away blank texts
and foreign algorithms.  The second reads the whole credential without its signature, so that an
expired credential is called expired even when it is forged.  The third reads it again with the
signature, which is checked before the payload is looked at.  The time a credential has left is told
for every correctly signed one, expired or not, and needs no second pass.
-/

namespace SignOn

set_option autoImplicit false

/-! ## The codec -/

/-- The fewest bytes of a signing secret. -/
def minimumSecretLength : Nat := 32

/-- The secret that signs credentials, and how long the two kinds are good. -/
structure Codec where
  secret : List UInt8
  accessLifetime : Duration
  refreshLifetime : Duration
  secret_long : minimumSecretLength ≤ secret.length

/-- Why a secret cannot be used: it has too few bytes. -/
structure ShortSecret where
  length : Nat
deriving DecidableEq, Repr

/-- The message about a secret that cannot be used. -/
def ShortSecret.message (short : ShortSecret) : String :=
  "signing secret must be at least " ++ String.ofList (Text.digits minimumSecretLength) ++
    " bytes, got " ++ String.ofList (Text.digits short.length)

/-- The codec with a secret, if that is long enough. -/
def Codec.create (secret : List UInt8) (accessLifetime refreshLifetime : Duration) :
    Except ShortSecret Codec :=
  if h : minimumSecretLength ≤ secret.length then .ok ⟨secret, accessLifetime, refreshLifetime, h⟩
  else .error ⟨secret.length⟩

/-! ## The parts of a credential -/

/-- The three parts of a credential, as they stand. -/
structure Parts where
  header : List Char
  payload : List Char
  signature : List Char
deriving DecidableEq, Repr

namespace Parts

/-- The parts that are signed, with the point between them. -/
def signed (parts : Parts) : List Char :=
  parts.header ++ '.' :: parts.payload

/-- The parts of a text, cut at its last two points. -/
def ofText? (characters : List Char) : Option Parts :=
  match Text.splitLast? '.' characters with
  | none => none
  | some (signed, signature) =>
      (Text.splitLast? '.' signed).map fun parts => ⟨parts.1, parts.2, signature⟩

/-- The text of which these are the parts. -/
def text (parts : Parts) : List Char :=
  parts.signed ++ '.' :: parts.signature

end Parts

/-- The rejection of a text that is no credential. -/
def malformed {α : Type} (detail : String) : Except Rejection α :=
  .error (.malformedCredential detail)

/-- What a part of a credential denotes, by a reader of its JSON value. -/
def readPart {α : Type} (part : List Char) (read : Json → Option α) : Except Rejection α :=
  match Text.Base64Url.decode part with
  | none => malformed "Base64 error"
  | some bytes =>
      match (Json.ofBytes? bytes).bind read with
      | none => malformed "JSON error"
      | some value => .ok value

/-! ## Reading payloads -/

/-- Whether a member of a payload that is looked at only in passing can be passed over: a reader
that takes it whole comes to its end, even if it gives up. -/
def passable (json : Json) : Bool :=
  json.progress (Json.deepest - 1) ≠ .stuck

/-- Whether a member of a payload that ought to be a number can be passed over when it is none: it
can unless it is an array or an object with something in it. -/
def passableNumber : Json → Bool
  | .array items => items.isEmpty
  | .object members => members.isEmpty
  | json => passable json

/-- Whether a payload can be read for its times alone: it is an object, and what it says about the
first instant of validity, the issuer and the audience is passable and said only once. -/
def isClaimSet (json : Json) : Bool :=
  match json with
  | .object _ =>
      match json.fields? ["nbf", "iss", "aud"] with
      | none => false
      | some field =>
          let passes (test : Json → Bool) : Field Json → Bool
            | .given value => test value
            | _ => true
          passes passableNumber (field "nbf") && passes passable (field "iss") &&
            passes passable (field "aud")
  | _ => false

/-- The claims in a payload, which is read for them and once more for its times alone. -/
def payloadClaims? (json : Json) : Option Claims :=
  if isClaimSet json then Claims.ofJson? json else none

/-- The claims that a payload part denotes.  A negative expiry counts as none. -/
def claimsOfPart (part : List Char) : Except Rejection Claims :=
  match readPart part payloadClaims? with
  | .error rejection => .error rejection
  | .ok claims =>
      if claims.expiresAt < 0 then malformed "Missing required claim: exp" else .ok claims

/-! ## Reading headers -/

/-- The header of a text of three parts. -/
def peekHeader (characters : List Char) : Except Rejection Header :=
  match Parts.ofText? characters with
  | none => malformed "InvalidToken"
  | some parts => readPart parts.header Header.ofJson?

/-- A text without the blanks around it, if there is anything else in it and its header names the
algorithm of our signatures. -/
def acceptable (raw : String) : Except Rejection (List Char) :=
  let trimmed := Text.stripBoth Text.isBlank raw.toList
  if trimmed.isEmpty then .error .emptyCredential
  else
    match peekHeader trimmed with
    | .error rejection => .error rejection
    | .ok header =>
        if header.algorithm = .hs256 then .ok trimmed
        else .error (.unsupportedFormat ("algorithm " ++ header.algorithm.name))

namespace Codec

/-! ## Signing -/

/-- The signature of a sequence of characters. -/
def signature (codec : Codec) (characters : List Char) : List Char :=
  Text.Base64Url.encode
    (Hash.hmacSha256 codec.secret (Text.utf8 (String.ofList characters)))

/-- Whether the signature of a credential is the one computed from its other parts. -/
def isSigned (codec : Codec) (parts : Parts) : Bool :=
  codec.signature parts.signed = parts.signature

/-- The credential that carries the given claims. -/
def encode (codec : Codec) (claims : Claims) : String :=
  let header := Text.Base64Url.encode (Text.utf8 Header.issuedText)
  let payload := Text.Base64Url.encode (Text.utf8 claims.text)
  let signed := header ++ '.' :: payload
  String.ofList (signed ++ '.' :: codec.signature signed)

/-- The greatest number of seconds in a claim. -/
def lastSecond : Int := 9223372036854775807

/-- The credential of a kind for an identity, issued at an instant for a lifetime under an
identifier. -/
def issue (codec : Codec) (now : Instant) (identity : UserId) (kind : TokenKind)
    (lifetime : Duration) (tokenId : String) : Except Failure String :=
  if (lifetime.seconds : Int) > lastSecond then
    .error (.internal (kind.name ++ " lifetime out of range"))
  else
    .ok (codec.encode
      ⟨identity.email, identity.provider, kind, tokenId, now.seconds,
       min (now.seconds + lifetime.seconds) lastSecond⟩)

/-! ## Verifying -/

/-- The claims of a text of three parts.  When the signature counts, a foreign algorithm and a
signature that is not the one computed anew are turned down before the payload is read. -/
def decode (codec : Codec) (signatureCounts : Bool) (characters : List Char) :
    Except Rejection Claims :=
  match Parts.ofText? characters with
  | none => malformed "InvalidToken"
  | some parts =>
      match readPart parts.header Header.ofJson? with
      | .error rejection => .error rejection
      | .ok header =>
          if signatureCounts && header.algorithm ≠ .hs256 then
            .error (.unsupportedFormat "InvalidAlgorithm")
          else if signatureCounts && !codec.isSigned parts then .error .invalidSignature
          else claimsOfPart parts.payload

/-- The claims of a text that is a credential of ours and has not expired. -/
def verify (codec : Codec) (now : Instant) (raw : String) : Except Rejection Claims := do
  let characters ← acceptable raw
  let claims ← codec.decode false characters
  if claims.isExpiredAt now then .error .expiredCredential
  else codec.decode true characters

/-- The claims of a text that is a credential of the given kind. -/
def verifyKind (codec : Codec) (now : Instant) (raw : String) (kind : TokenKind) :
    Except Rejection Claims := do
  let claims ← codec.verify now raw
  if claims.kind = kind then .ok claims
  else
    .error (.unsupportedFormat
      ("expected " ++ kind.name ++ " credential, got " ++ claims.kind.name))

/-- The nanoseconds until a correctly signed credential expires; negative once it has. -/
def remaining (codec : Codec) (now : Instant) (raw : String) : Except Rejection Int := do
  let characters ← acceptable raw
  let claims ← codec.decode true characters
  let expiry := Instant.ofSeconds claims.expiresAt
  if expiry.isRepresentable then .ok (expiry.nanoseconds - now.nanoseconds)
  else malformed "exp out of range"

end Codec

/-! ## Pairs -/

/-- An access credential with the refresh credential issued beside it. -/
structure TokenPair where
  accessToken : String
  refreshToken : String
  /-- How long the refresh credential is good, in seconds. -/
  refreshMaxAge : Int
deriving DecidableEq, Repr

/-- The seconds that a refresh credential is good, as far as a signed number of sixty-four bits
reaches. -/
def Codec.refreshMaxAge (codec : Codec) : Nat :=
  min codec.refreshLifetime.seconds 9223372036854775807

end SignOn
