import SignOn.Time.Rfc3339

/-!
# Identities

An identity is one account at one provider, known by the e-mail address that the provider reports.
The same address at two providers makes two identities.  A user record keeps what is known about an
identity and when it first and last signed in.
-/

namespace SignOn

set_option autoImplicit false

/-! ## Providers -/

/-- The identity providers that users can sign in with. -/
inductive Provider where
  | google
  | kakao
deriving DecidableEq, Repr

namespace Provider

/-- The name of a provider in claims, addresses and settings. -/
def name : Provider → String
  | .google => "google"
  | .kakao => "kakao"

/-- The provider of exactly that name. -/
def ofName? (name : String) : Option Provider :=
  if name = "google" then some .google
  else if name = "kakao" then some .kakao
  else none

/-- The provider that a text names, whatever the case of its ASCII letters. -/
def ofText? (text : String) : Option Provider :=
  ofName? (String.ofList (text.toList.map Char.toLower))

theorem ofName?_name (provider : Provider) : ofName? provider.name = some provider := by
  cases provider <;> decide

end Provider

/-! ## Identities -/

/-- An account at a provider. -/
structure UserId where
  email : String
  provider : Provider
deriving DecidableEq, Repr

namespace UserId

/-- The form in which an identity is part of a store key. -/
def key (identity : UserId) : String :=
  identity.provider.name ++ ":" ++ identity.email

/-- The form in which an identity appears in the audit trail. -/
def text (identity : UserId) : String :=
  identity.email ++ " (" ++ identity.provider.name ++ ")"

end UserId

/-! ## User records -/

/-- What is known about an identity. -/
structure User where
  id : UserId
  /-- The identifier that the provider has for the account. -/
  account : String
  displayName : Option String
  /-- A national identifier that the provider has verified. -/
  verifiedIdentifier : Option String
  createdAt : Timestamp
  lastLoginAt : Timestamp
deriving DecidableEq, Repr

namespace User

/-- The record of an identity that signs in for the first time. -/
def create (id : UserId) (account : String) (displayName verifiedIdentifier : Option String)
    (now : Instant) : User :=
  ⟨id, account, displayName, verifiedIdentifier, .ofInstant now, .ofInstant now⟩

/-- The record after a further login.  What the provider did not send this time stays as it was. -/
def recordLogin (user : User) (displayName verifiedIdentifier : Option String) (now : Instant) :
    User :=
  { user with
    displayName := displayName.or user.displayName
    verifiedIdentifier := verifiedIdentifier.or user.verifiedIdentifier
    lastLoginAt := .ofInstant now }

end User

end SignOn
