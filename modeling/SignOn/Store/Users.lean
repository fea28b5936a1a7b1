import SignOn.Identity
import SignOn.Store.Table

/-!
# The user store

User records are kept by identity, and a second table tells which identity an account at a provider
belongs to.  Saving a record keeps the two tables inverse to each other: the account that the
identity had before is forgotten, and so is the record of another identity that had the account.
-/

namespace SignOn.Store

set_option autoImplicit false

/-- The records by identity and the identities by account. -/
structure Users where
  byId : Table UserId User := .empty
  byAccount : Table (Provider × String) UserId := .empty

namespace Users

/-- The store without records. -/
def empty : Users := {}

/-- The account of a record. -/
def accountOf (user : User) : Provider × String := (user.id.provider, user.account)

/-- The record that an account belongs to. -/
def find? (provider : Provider) (account : String) (users : Users) : Option User :=
  (users.byAccount.get? (provider, account)).bind users.byId.get?

/-- The identities by account without the account that the identity of a record had before, if that
was another one. -/
def forgetFormer (user : User) (users : Users) : Table (Provider × String) UserId :=
  match users.byId.get? user.id with
  | some former =>
      if former.account = user.account then users.byAccount
      else users.byAccount.erase (accountOf former)
  | none => users.byAccount

/-- The records without the one of another identity that has the account of a record. -/
def displaceOwner (user : User) (users : Users) : Table UserId User :=
  match (users.forgetFormer user).get? (accountOf user) with
  | some owner => if owner = user.id then users.byId else users.byId.erase owner
  | none => users.byId

/-- Saves a record. -/
def save (user : User) (users : Users) : Users where
  byId := (users.displaceOwner user).insert user.id user
  byAccount := (users.forgetFormer user).insert (accountOf user) user.id

end Users

end SignOn.Store
