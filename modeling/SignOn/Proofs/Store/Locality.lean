import SignOn.Proofs.Store.Eviction

/-!
# Requests keep to their keys

A request reads nothing of a store but what is held at its key, lapsed or not, and changes nothing
else.  So two stores that hold the same there answer it alike, and are changed alike
(`KeyValue.perform_local`, `Sessions.perform_local`).
-/

namespace SignOn.Store

set_option autoImplicit false

/-- Two stores come about from two others as the same is put, or removed, at one key. -/
def ChangeAlike {κ ν : Type} [DecidableEq κ] (key : κ) (store other after left : Table κ ν) : Prop :=
  ∃ held, after.get? = Function.update store.get? key held ∧
    left.get? = Function.update other.get? key held

section ChangeAlike

variable {κ ν : Type} [DecidableEq κ] {key : κ} {store other after left : Table κ ν}

theorem changeAlike_refl (same : store.get? key = other.get? key) :
    ChangeAlike key store other store other :=
  ⟨store.get? key, (Function.update_eq_self key store.get?).symm,
    same ▸ (Function.update_eq_self key other.get?).symm⟩

theorem changeAlike_insert (store other : Table κ ν) (key : κ) (value : ν) :
    ChangeAlike key store other (store.insert key value) (other.insert key value) :=
  ⟨some value, store.get?_insert_eq key value, other.get?_insert_eq key value⟩

theorem changeAlike_erase (store other : Table κ ν) (key : κ) :
    ChangeAlike key store other (store.erase key) (other.erase key) :=
  ⟨none, store.get?_erase_eq key, other.get?_erase_eq key⟩

/-- What is held at another key stays. -/
theorem ChangeAlike.get?_of_ne (changed : ChangeAlike key store other after left) {elsewhere : κ}
    (differs : elsewhere ≠ key) : after.get? elsewhere = store.get? elsewhere := by
  obtain ⟨held, shows, _⟩ := changed
  rw [shows, Function.update_of_ne differs]

/-- What is held alike before is held alike afterwards. -/
theorem ChangeAlike.get?_eq (changed : ChangeAlike key store other after left) {anywhere : κ}
    (same : store.get? anywhere = other.get? anywhere) :
    after.get? anywhere = left.get? anywhere := by
  obtain ⟨held, shows, leaves⟩ := changed
  rw [shows, leaves, Function.update_apply, Function.update_apply, same]

end ChangeAlike

/-- A request to counters and marks depends on the entry of its key, and changes no other. -/
theorem KeyValue.perform_local {now : Instant} {request : Request} {store other : KeyValue}
    (same : store.get? request.key = other.get? request.key) :
    Agree (ChangeAlike request.key store other) (perform now request store)
      (perform now request other) := by
  cases request with
  | count key window =>
    rw [Request.key] at same
    rw [perform, perform, KeyValue.count, KeyValue.count, same, ← liveAt]
    rcases other.liveAt now key with _ | ⟨before | text, expiresAt⟩
    · cases expiry now window with
      | error fault => exact .refused
      | ok expiresAt => exact .answered (changeAlike_insert store other key _)
    · exact .answered (changeAlike_insert store other key _)
    · exact .refused
  | write key text lifetime =>
    rw [perform, perform, write, write]
    cases expiry now lifetime with
    | error fault => exact .refused
    | ok expiresAt => exact .answered (changeAlike_insert store other key _)
  | isPresent key =>
    rw [Request.key] at same
    rw [perform, perform, isPresent, isPresent, look, look, same]
    cases held : other.get? key with
    | none => exact .answered (changeAlike_refl same)
    | some entry =>
      dsimp only
      by_cases live : entry.isLive now = true
      · rw [if_pos live]
        exact .answered (changeAlike_refl same)
      · rw [if_neg live]
        rw [settle, settle, same, held]
        dsimp only
        rw [if_neg live, if_neg live]
        exact .answered (changeAlike_erase store other key)

/-- A request to the sessions depends on the session of its identity, and changes no other. -/
theorem Sessions.perform_local {now : Instant} {request : Request} {store other : Sessions}
    (same : store.get? request.key = other.get? request.key) :
    Agree (ChangeAlike request.key store other) (perform now request store)
      (perform now request other) := by
  cases request with
  | read owner =>
    rw [Request.key] at same
    rw [perform, perform, read, read, look, look, same]
    cases held : other.get? owner with
    | none => exact .answered (changeAlike_refl same)
    | some session =>
      dsimp only
      by_cases expired : session.isExpiredAt now = true
      · rw [if_pos expired]
        rw [settle, settle, same, held]
        dsimp only
        rw [if_pos expired, if_pos expired]
        exact .answered (changeAlike_erase store other owner)
      · rw [if_neg expired]
        exact .answered (changeAlike_refl same)
  | write owner value lifetime =>
    rw [perform, perform, write, write]
    cases expiry now lifetime with
    | error fault => exact .refused
    | ok expiresAt => exact .answered (changeAlike_insert store other owner _)
  | delete owner => exact .answered (changeAlike_erase store other owner)
  | replace owner expected value lifetime =>
    rw [Request.key] at same
    rw [perform, perform, replace, replace, same]
    cases expiry now lifetime with
    | error fault => exact .refused
    | ok expiresAt =>
      cases held : other.get? owner with
      | none => exact .answered (changeAlike_refl same)
      | some session =>
        dsimp only
        split
        · exact .answered (changeAlike_erase store other owner)
        · split
          · exact .answered (changeAlike_insert store other owner _)
          · exact .answered (changeAlike_refl same)

/-! ## Everything else -/

theorem KeyValue.get?_perform {now : Instant} {request : Request} {store after : KeyValue}
    {answer : request.Answer} (performed : perform now request store = .ok (answer, after))
    {key : String} (differs : key ≠ request.key) : after.get? key = store.get? key := by
  have alone := @perform_local now request store store rfl
  rw [performed] at alone
  cases alone with
  | answered changed => exact changed.get?_of_ne differs

theorem Sessions.get?_perform {now : Instant} {request : Request} {store after : Sessions}
    {answer : request.Answer} (performed : perform now request store = .ok (answer, after))
    {owner : UserId} (differs : owner ≠ request.key) : after.get? owner = store.get? owner := by
  have alone := @perform_local now request store store rfl
  rw [performed] at alone
  cases alone with
  | answered changed => exact changed.get?_of_ne differs

end SignOn.Store
