import SignOn.Store.Expiry
import SignOn.Store.Table

/-!
# Counters and marks

One store holds the counters of rate windows and the marks of revoked credentials.  Every entry has
an instant at which it lapses; from then on it counts as absent, whether or not it is still there.
A counter lapses a window after its first count, and further counts do not move that instant.

Asking whether a key is present has two phases, between which others may write: a first look, and,
only where that found a lapsed entry, a second step that removes the entry if it is still lapsed at
the instant of the first look.
-/

namespace SignOn.Store

set_option autoImplicit false

/-- What an entry holds. -/
inductive Content where
  | counter (count : Nat)
  | text (text : String)
deriving DecidableEq, Repr

/-- An entry with the instant at which it lapses. -/
structure Entry where
  content : Content
  expiresAt : Instant
deriving DecidableEq, Repr

/-- Whether an entry has not lapsed. -/
def Entry.isLive (entry : Entry) (now : Instant) : Bool := now < entry.expiresAt

/-- The store of counters and marks. -/
abbrev KeyValue := Table String Entry

namespace KeyValue

/-- The error about counting at a key that holds a text. -/
def notACounter (key : String) : StoreError :=
  .backend ("value at `" ++ key ++ "` is not a counter")

/-- Counts once at a key and gives the count.  A key without a live entry starts at one, for the
length of a window. -/
def count (now : Instant) (key : String) (window : Duration) (store : KeyValue) :
    Except Fault (Nat × KeyValue) :=
  match (store.get? key).filter fun entry => entry.isLive now with
  | some ⟨.counter count, expiresAt⟩ =>
      .ok (count + 1, store.insert key ⟨.counter (count + 1), expiresAt⟩)
  | some ⟨.text _, _⟩ => .error (.refused (notACounter key))
  | none =>
      match expiry now window with
      | .ok expiresAt => .ok (1, store.insert key ⟨.counter 1, expiresAt⟩)
      | .error fault => .error fault

/-- Writes a text at a key for a lifetime, in place of whatever is there. -/
def write (now : Instant) (key text : String) (lifetime : Duration) (store : KeyValue) :
    Except Fault KeyValue :=
  match expiry now lifetime with
  | .ok expiresAt => .ok (store.insert key ⟨.text text, expiresAt⟩)
  | .error fault => .error fault

/-- The first phase of asking for a key. -/
def look (now : Instant) (key : String) (store : KeyValue) : Sight Unit :=
  match store.get? key with
  | none => .absent
  | some entry => if entry.isLive now then .live () else .lapsed

/-- The second phase of asking for a key, after the first found a lapsed entry at the given instant:
an entry that is lapsed at that instant is removed, and what is there then is the answer. -/
def settle (now : Instant) (key : String) (store : KeyValue) : Bool × KeyValue :=
  match store.get? key with
  | none => (false, store)
  | some entry => if entry.isLive now then (true, store) else (false, store.erase key)

/-- Whether a key is present, with both phases at once. -/
def isPresent (now : Instant) (key : String) (store : KeyValue) : Bool × KeyValue :=
  match store.look now key with
  | .absent => (false, store)
  | .live _ => (true, store)
  | .lapsed => store.settle now key

/-- The store without the entries that have lapsed. -/
def purge (now : Instant) (store : KeyValue) : KeyValue :=
  store.filter fun _ entry => entry.isLive now

/-- The number of entries that have lapsed and are still there. -/
def lapsed (now : Instant) (store : KeyValue) : Nat :=
  store.size - (store.purge now).size

end KeyValue

end SignOn.Store
