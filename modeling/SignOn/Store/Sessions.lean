import SignOn.Session
import SignOn.Store.Expiry
import SignOn.Store.Table

/-!
# The session store

Every identity has one session at most.  A refresh value is consumed by replacing it: the session
changes only if it still holds the value that is expected, so of several callers with the same value
only one succeeds.  Reading a session has two phases, as asking for a mark has.
-/

namespace SignOn.Store

set_option autoImplicit false

/-- The store of sessions. -/
abbrev Sessions := Table UserId Session

namespace Sessions

/-- Writes the session of an identity for a lifetime, in place of the one that is there. -/
def write (now : Instant) (owner : UserId) (value : String) (lifetime : Duration)
    (store : Sessions) : Except Fault Sessions :=
  match expiry now lifetime with
  | .ok expiresAt => .ok (store.insert owner ⟨owner, value, expiresAt⟩)
  | .error fault => .error fault

/-- The first phase of reading a session. -/
def look (now : Instant) (owner : UserId) (store : Sessions) : Sight Session :=
  match store.get? owner with
  | none => .absent
  | some session => if session.isExpiredAt now then .lapsed else .live session

/-- The second phase of reading a session, after the first found one that had lapsed at the given
instant. -/
def settle (now : Instant) (owner : UserId) (store : Sessions) : Option Session × Sessions :=
  match store.get? owner with
  | none => (none, store)
  | some session =>
      if session.isExpiredAt now then (none, store.erase owner) else (some session, store)

/-- The session of an identity, with both phases at once. -/
def read (now : Instant) (owner : UserId) (store : Sessions) : Option Session × Sessions :=
  match store.look now owner with
  | .absent => (none, store)
  | .live session => (some session, store)
  | .lapsed => store.settle now owner

/-- Puts another value in the place of the one that is expected, and tells whether it was there. -/
def replace (now : Instant) (owner : UserId) (expected value : String) (lifetime : Duration)
    (store : Sessions) : Except Fault (Bool × Sessions) :=
  match expiry now lifetime with
  | .error fault => .error fault
  | .ok expiresAt =>
      match store.get? owner with
      | none => .ok (false, store)
      | some session =>
          if session.isExpiredAt now then .ok (false, store.erase owner)
          else if session.refreshToken = expected then
            .ok (true, store.insert owner
              { session with refreshToken := value, expiresAt := expiresAt })
          else .ok (false, store)

/-- The store without the sessions that have lapsed. -/
def purge (now : Instant) (store : Sessions) : Sessions :=
  store.filter fun _ session => !session.isExpiredAt now

/-- The number of sessions that have lapsed and are still there. -/
def lapsed (now : Instant) (store : Sessions) : Nat :=
  store.size - (store.purge now).size

end Sessions

end SignOn.Store
