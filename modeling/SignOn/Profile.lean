import SignOn.Failure
import SignOn.Json.Record
import SignOn.Text.Blank
import SignOn.Text.Digits

/-!
# Provider profiles

Every provider describes an account in its own shape.  A profile holds what the engine needs of it:
the identifier of the account, which has to be there, and a name, an e-mail address and a verified
national identifier, which may be absent.  A text made of blanks alone counts as absent; every other
text is kept as it was sent.
-/

namespace SignOn

set_option autoImplicit false

/-- What a provider says about an account. -/
structure Profile where
  provider : Provider
  account : String
  nickname : Option String
  email : Option String
  verifiedIdentifier : Option String
deriving DecidableEq, Repr

namespace Profile

/-! ## Fields -/

/-- A text, unless it holds nothing but blanks. -/
def present (text : Option String) : Option String :=
  text.filter fun text => !Text.allBlank text

/-- An account identifier that is a number of sixty-four bits or a text. -/
def readAccount : Json → Option String
  | .number (.integer value) =>
      if value ≤ 9223372036854775807 then some (String.ofList (Text.signedDigits value)) else none
  | .string text => some text
  | _ => none

/-- The optional text fields of a record, in the order of the names. -/
def readTexts (names : List String) (payload : Json) : Option (List (Option String)) := do
  let field ← payload.fields? names
  names.mapM fun name => (field name).optional Json.asString?

/-- The text at a place of a list of optional texts, unless it is blank. -/
def textAt (texts : List (Option String)) (place : Nat) : Option String :=
  present (texts[place]?.join)

/-! ## The two shapes -/

/-- The rejection of a payload that lacks something. -/
def lacking {α : Type} (field : String) : Except Rejection α :=
  .error (.incompleteProfile field)

/-- A payload with the fields `sub`, `name` and `email`. -/
def ofGoogle (payload : Json) : Except Rejection Profile :=
  match readTexts ["sub", "name", "email"] payload with
  | none => lacking "profile"
  | some texts =>
      match textAt texts 0 with
      | none => lacking "id"
      | some account => .ok ⟨.google, account, textAt texts 1, textAt texts 2, none⟩

/-- The parts of a payload with an identifier and two nested records, of which the second holds the
account's address. -/
def readKakao (payload : Json) :
    Option (Option String × List (Option String) × List (Option String)) := do
  let field ← payload.fields? ["id", "properties", "kakao_account"]
  let account ← (field "id").optional readAccount
  let properties ← (field "properties").orElse none (Json.nullable (readTexts ["nickname"]))
  let details ← (field "kakao_account").orElse none (Json.nullable (readTexts ["email", "ci"]))
  some (account, properties.getD [], details.getD [])

/-- A payload with the fields `id`, `properties` and `kakao_account`. -/
def ofKakao (payload : Json) : Except Rejection Profile :=
  match readKakao payload with
  | none => lacking "profile"
  | some (account, properties, details) =>
      match present account with
      | none => lacking "id"
      | some account =>
          .ok ⟨.kakao, account, textAt properties 0, textAt details 0, textAt details 1⟩

/-- The profile in a payload of a provider. -/
def ofPayload : Provider → Json → Except Rejection Profile
  | .google, payload => ofGoogle payload
  | .kakao, payload => ofKakao payload

end Profile

/-! ## Callbacks -/

/-- A completed login at a provider: which account it was and what the provider says about it. -/
structure Callback where
  provider : Provider
  account : String
  payload : Json

/-- The callback for the payload that a provider sent. -/
def Callback.ofUserinfo (provider : Provider) (payload : Json) : Except Rejection Callback :=
  (Profile.ofPayload provider payload).map fun profile => ⟨provider, profile.account, payload⟩

end SignOn
