import SignOn.Engine.Program

/-!
# Resolving provider logins

A login at a provider is resolved to the record of a user.  A known account keeps its identity, and
its record takes over what the provider sends this time; an unknown account becomes a new user, for
which the provider must have sent an e-mail address.
-/

namespace SignOn.Engine

set_option autoImplicit false

/-- The record to save for a login, given the record that the account belongs to, if any. -/
def recordFor (callback : Callback) (profile : Profile) (now : Instant) :
    Option User → Except Rejection User
  | some user => .ok (user.recordLogin profile.nickname profile.verifiedIdentifier now)
  | none =>
      match profile.email with
      | none => .error (.incompleteProfile "email")
      | some email =>
          .ok (User.create ⟨email, callback.provider⟩ callback.account profile.nickname
            profile.verifiedIdentifier now)

/-- Resolves a login to a saved record. -/
def resolve (callback : Callback) : Operation User := do
  let profile ← Operation.ofVerdict (Profile.ofPayload callback.provider callback.payload)
  let now ← Operation.act .readClock
  let existing ← Operation.call (.findUser callback.provider callback.account)
  let user ← Operation.ofVerdict (recordFor callback profile now existing)
  Operation.call (.saveUser user)
  return user

end SignOn.Engine
