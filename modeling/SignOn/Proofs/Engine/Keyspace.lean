import SignOn.Proofs.Engine.Ownership
import SignOn.Proofs.Engine.Relays

/-!
# Who writes where

One store holds the counters of all rate windows and the marks of all revoked credentials, and
their keys are put together from texts that callers choose.  Even so, whatever services have called
on a store, at whatever instants, with whatever addresses and texts, every entry of it is a counter
at the key of a window or a mark at the key of a text (`SharedStore.inPlace`).

So a text is never found where calls are counted, and a counter is never taken for a mark.  That
carries over to what the service tells its callers (`SharedStore.unmixed`).
-/

namespace SignOn.Engine

set_option autoImplicit false

open Operation Service
open Settings (LimitedOperation)

/-! ## Entries in their place -/

/-- The entry is a counter at the key of a window, or a mark at the key of a text. -/
inductive InPlace (key : String) (entry : Store.Entry) : Prop where
  | counter {operation : LimitedOperation} {identity : UserId} {count : Nat}
      (window : key = windowKey operation identity) (content : entry.content = .counter count)
      (counted : 0 < count) : InPlace key entry
  | mark {token : String} (marks : key = markKey token) (content : entry.content = .text markText) :
      InPlace key entry

/-- Every entry of a store is in its place. -/
def AllInPlace (store : Store.KeyValue) : Prop :=
  ∀ key entry, store.get? key = some entry → InPlace key entry

/-- What is at the key of a window is a counter. -/
theorem InPlace.counter_of_windowKey {operation : LimitedOperation} {identity : UserId}
    {entry : Store.Entry} (inPlace : InPlace (windowKey operation identity) entry) :
    ∃ count, entry.content = .counter count := by
  cases inPlace with
  | counter _ content _ => exact ⟨_, content⟩
  | mark marks _ => exact absurd marks (windowKeyStart_ne_markKey _ _)

/-- What is at the key of a text is a mark. -/
theorem InPlace.content_of_markKey {token : String} {entry : Store.Entry}
    (inPlace : InPlace (markKey token) entry) : entry.content = .text markText := by
  cases inPlace with
  | counter window _ _ => exact absurd window.symm (windowKeyStart_ne_markKey _ _)
  | mark _ content => exact content

section AllInPlace

variable {store : Store.KeyValue} {now : Instant} {key : String}

theorem allInPlace_empty : AllInPlace .empty := by
  intro key entry found
  rw [Store.Table.get?_empty] at found
  cases found

theorem AllInPlace.insert {entry : Store.Entry} (all : AllInPlace store)
    (inPlace : InPlace key entry) : AllInPlace (store.insert key entry) := by
  intro other held found
  rw [Store.Table.get?_insert] at found
  split at found
  · next same =>
    obtain rfl := Option.some.inj found
    rwa [same]
  · exact all other held found

theorem AllInPlace.count {window : Duration} {count : Nat} {after : Store.KeyValue}
    {operation : LimitedOperation} {identity : UserId} (all : AllInPlace store)
    (counted : store.count now (windowKey operation identity) window = .ok (count, after)) :
    AllInPlace after := by
  unfold Store.KeyValue.count at counted
  split at counted
  · obtain ⟨rfl, rfl⟩ := Prod.mk.inj (Except.ok.inj counted)
    exact all.insert (.counter rfl rfl (Nat.succ_pos _))
  · cases counted
  · split at counted
    · obtain ⟨rfl, rfl⟩ := Prod.mk.inj (Except.ok.inj counted)
      exact all.insert (.counter rfl rfl Nat.one_pos)
    · cases counted

theorem AllInPlace.purge (all : AllInPlace store) : AllInPlace (store.purge now) := by
  intro key entry found
  rw [Store.KeyValue.get?_purge, Store.KeyValue.liveAt_eq_some_iff] at found
  exact all key entry found.1

theorem AllInPlace.isPresent (all : AllInPlace store) :
    AllInPlace (store.isPresent now key).2 := by
  intro other entry found
  rw [Store.KeyValue.get?_isPresent] at found
  split at found
  · next same =>
    rw [same]
    exact all key entry (Store.KeyValue.liveAt_eq_some_iff.1 found).1
  · exact all other entry found

end AllInPlace

/-! ## Actions -/

/-- The action counts at the keys of windows and puts marks at the keys of texts. -/
def Action.WritesInPlace : Action → Prop
  | .store (.count key _) => ∃ operation identity, key = windowKey operation identity
  | .store (.mark key text _) => text = markText ∧ ∃ token, key = markKey token
  | _ => True

theorem routine_writesInPlace : Routine Action.WritesInPlace :=
  ⟨trivial, trivial, fun _ => trivial, fun limited _ => ⟨limited.1, limited.2, rfl⟩⟩

theorem Call.only_writesInPlace (service : Service) (call : Call) :
    (call.operation service).Only Action.WritesInPlace := by
  have routine := routine_writesInPlace
  cases call with
  | login context identity => exact only_login routine fun _ => trivial
  | providerLogin context callback =>
    exact only_providerLogin routine (fun _ _ => trivial) (fun _ => trivial) fun _ _ => trivial
  | reissue context presented => exact only_reissue routine (fun _ => trivial) fun _ _ => trivial
  | logout context token =>
    exact only_logout routine (fun _ _ => trivial) fun text _ _ => ⟨rfl, text, rfl⟩
  | authorize context token => exact only_authorize routine trivial

/-- Every action that writes in place keeps all entries in their place. -/
theorem AllInPlace.perform {world : World} (all : AllInPlace world.keyValue) {action : Action}
    (writes : action.WritesInPlace) : AllInPlace (world.perform action).2.keyValue := by
  cases action with
  | readClock | drawTokenId | publish event | askProvider provider code => exact all
  | store call =>
    cases call with
    | readSession _ | deleteSession _ | findUser _ _ | saveUser _ => exact all
    | writeSession _ _ _ | replaceSession _ _ _ _ =>
      rw [World.perform, World.performCall, World.answer_keeps World.keyValue]
      · exact all
      · intro store
        rfl
    | count key window =>
      obtain ⟨operation, identity, rfl⟩ := writes
      rw [World.perform, World.performCall]
      cases counted : world.keyValue.count world.clock (windowKey operation identity) window with
      | error fault => exact all
      | ok result => exact all.count counted
    | mark key text lifetime =>
      obtain ⟨rfl, token, rfl⟩ := writes
      rw [World.perform, World.performCall, Store.KeyValue.write]
      cases Store.expiry world.clock lifetime with
      | error fault => exact all
      | ok expiresAt => exact all.insert (.mark rfl rfl)
    | isMarked key => exact all.isPresent

/-! ## Refusals -/

/-- A store in memory refuses a call because of its lifetime, or because it is to count where a text
is held. -/
theorem World.refused_of_perform {world after : World} {call : StoreCall} {error : StoreError}
    (refused : world.perform (.store call) = (.ok (.failed error), after)) :
    (∃ lifetime : Duration, error = .backend ("ttl out of range: " ++ lifetime.text)) ∨
      ∃ key window text expiresAt, call = .count key window ∧
        world.keyValue.get? key = some ⟨.text text, expiresAt⟩ := by
  have tooLong {lifetime : Duration} {fault : Store.Fault}
      (unfit : Store.expiry world.clock lifetime = .error fault)
      (told : World.replyOfFault fault = .ok (.failed error : Reply call.Answer)) :
      ∃ lifetime : Duration, error = .backend ("ttl out of range: " ++ lifetime.text) := by
    unfold Store.expiry at unfit
    split at unfit
    · split at unfit
      · cases unfit
      · cases unfit
        cases told
    · cases unfit
      cases told
      exact ⟨lifetime, rfl⟩
  have reply := congrArg Prod.fst refused
  rw [World.perform] at reply
  cases call with
  | isMarked _ | readSession _ | deleteSession _ | findUser _ _ | saveUser _ => cases reply
  | mark key text lifetime =>
    rw [World.performCall, Store.KeyValue.write] at reply
    cases fits : Store.expiry world.clock lifetime with
    | ok expiresAt =>
      rw [fits] at reply
      cases reply
    | error fault =>
      rw [fits] at reply
      exact Or.inl (tooLong fits reply)
  | writeSession owner value lifetime =>
    rw [World.performCall, Store.Sessions.write] at reply
    cases fits : Store.expiry world.clock lifetime with
    | ok expiresAt =>
      rw [fits] at reply
      cases reply
    | error fault =>
      rw [fits] at reply
      exact Or.inl (tooLong fits reply)
  | replaceSession owner expected value lifetime =>
    cases replaced : world.sessions.replace world.clock owner expected value lifetime with
    | ok result =>
      rw [World.performCall, replaced] at reply
      cases reply
    | error fault =>
      rw [World.performCall, replaced] at reply
      unfold Store.Sessions.replace at replaced
      split at replaced
      · next unfit =>
        cases replaced
        exact Or.inl (tooLong unfit reply)
      · split at replaced
        · cases replaced
        · split at replaced
          · cases replaced
          · split at replaced <;> cases replaced
  | count key window =>
    rw [World.performCall] at reply
    unfold Store.KeyValue.count at reply
    split at reply
    · cases reply
    · next text expiresAt held =>
      exact Or.inr ⟨key, window, text, expiresAt, rfl, (Option.filter_eq_some_iff.1 held).1⟩
    · cases fits : Store.expiry world.clock window with
      | ok expiresAt =>
        rw [fits] at reply
        cases reply
      | error fault =>
        rw [fits] at reply
        exact Or.inl (tooLong fits reply)

/-- No lifetime makes a store say that it finds no counter. -/
theorem ttl_ne_notACounter (lifetime : Duration) (key : String) :
    StoreError.backend ("ttl out of range: " ++ lifetime.text) ≠ Store.KeyValue.notACounter key := by
  intro same
  have first := congrArg (fun text : String => text.toList.head?) (StoreError.backend.inj same)
  simp [String.toList_append] at first

/-- The moment is not one of finding a text where calls are counted. -/
def Moment.FindsCounter (moment : Moment) : Prop :=
  ∀ key, moment.failure? ≠ some (.storage (Store.KeyValue.notACounter key))

/-- Where every entry is in its place, counting never finds a text. -/
theorem AllInPlace.findsCounter {world after : World} (all : AllInPlace world.keyValue)
    {action : Action} {result : action.Result} (writes : action.WritesInPlace)
    (performed : world.perform action = (.ok result, after)) :
    Moment.FindsCounter ⟨action, result⟩ := by
  intro key mixed
  cases action with
  | readClock | drawTokenId | publish event | askProvider provider code => cases mixed
  | store call =>
    cases result with
    | answered answer => cases mixed
    | timedOut => cases mixed
    | failed error =>
      obtain rfl : error = Store.KeyValue.notACounter key :=
        Failure.storage.inj (Option.some.inj mixed)
      rcases World.refused_of_perform performed with
        ⟨lifetime, same⟩ | ⟨counted, window, text, expiresAt, rfl, held⟩
      · exact ttl_ne_notACounter lifetime key same.symm
      · obtain ⟨operation, identity, rfl⟩ := writes
        obtain ⟨count, counter⟩ := (all _ _ held).counter_of_windowKey
        cases counter

/-! ## Stores that services share -/

/-- A store of counters and marks as calls and sweeps leave it, from an empty one on.  Each call may
be one of another service, with limits and a secret of its own, and each starts from any instant and
any other stores. -/
inductive SharedStore : Store.KeyValue → Prop where
  | empty : SharedStore .empty
  | call {world : World} (shared : SharedStore world.keyValue) (service : Service) (call : Call) :
      SharedStore (call.after service world).keyValue
  | sweep {world : World} (shared : SharedStore world.keyValue) : SharedStore world.sweep.keyValue

theorem Call.allInPlace_after (service : Service) (call : Call) {world : World}
    (all : AllInPlace world.keyValue) : AllInPlace (call.after service world).keyValue := by
  refine Program.run_related
    (fun before after => AllInPlace before.keyValue → AllInPlace after.keyValue)
    (fun _ all => all) ?_ ?_ (call.only_writesInPlace service) world all
  · intro first second third here there all
    exact there (here all)
  · intro action world writes all
    exact all.perform writes

theorem SharedStore.inPlace {store : Store.KeyValue} (shared : SharedStore store) :
    AllInPlace store := by
  induction shared with
  | empty => exact allInPlace_empty
  | call shared service call ih => exact call.allInPlace_after service ih
  | sweep shared ih => exact ih.purge

/-- A run keeps its counters and marks in a store of this kind. -/
theorem Run.sharedStore {service : Service} {past : List Deed} {world : World}
    (run : Run service past world) : SharedStore world.keyValue := by
  induction run with
  | fresh start =>
    rw [start.keyValue]
    exact .empty
  | call run call ih => exact ih.call service call
  | sweep run ih => exact ih.sweep
  | wait run ordered within ih => exact ih

/-- Where every entry is in its place, no call ends because a text was found where it counted. -/
theorem AllInPlace.call_ne_notACounter {world : World} (all : AllInPlace world.keyValue)
    (service : Service) (call : Call) (key : String) :
    ((call.operation service).on world).1 ≠
      .ok (.error (.storage (Store.KeyValue.notACounter key))) := by
  intro ended
  have kept {action : Action} {world after : World} {result : action.Result}
      (writes : action.WritesInPlace) (all : AllInPlace world.keyValue)
      (performed : world.perform action = (.ok result, after)) :
      AllInPlace after.keyValue ∧ Moment.FindsCounter ⟨action, result⟩ := by
    have later := all.perform writes
    rw [performed] at later
    exact ⟨later, all.findsCounter writes performed⟩
  obtain ⟨moments, relayed, found⟩ := Operation.Ends.of_invariant kept
    (call.only_writesInPlace service) (call.relaying service []) all (on_eq_of_fst ended)
  obtain ⟨moment, member, failed⟩ := relayed _ rfl
  exact found moment member key failed

/-! ## Nothing is mixed -/

theorem mem_hexDigits : ∀ value < 16, Text.hexDigit value ∈ "0123456789abcdef".toList := by decide

/-- The key of a mark ends in sixty-four lowercase hexadecimal digits. -/
theorem exists_digits_of_markKey (token : String) :
    ∃ digits : List Char, markKey token = "revoked:" ++ String.ofList digits ∧
      digits.length = 64 ∧ ∀ digit ∈ digits, digit ∈ "0123456789abcdef".toList := by
  refine ⟨_, rfl, ?_, ?_⟩
  · simp [Text.hexOfBytes, List.length_flatMap, Hash.length_sha256]
  · intro digit member
    obtain ⟨byte, _, either⟩ := List.mem_flatMap.1 member
    have small := byte.toNat_lt
    rcases List.mem_pair.1 either with rfl | rfl
    · exact mem_hexDigits _ (by omega)
    · exact mem_hexDigits _ (by omega)

/-- What keeps counters and marks apart in a store. -/
structure Unmixed (store : Store.KeyValue) : Prop where
  /-- Every key is that of a window and holds a counter of at least one, or is that of a hash and
  holds the text of a mark. -/
  entries : ∀ key entry, store.get? key = some entry →
    (∃ (operation : LimitedOperation) (identity : UserId) (count : Nat),
      key = "rate_limit:" ++ operation.name ++ ":" ++ identity.provider.name ++ ":" ++
        identity.email ∧
      entry.content = .counter count ∧ 1 ≤ count) ∨
    ∃ digits : List Char, key = "revoked:" ++ String.ofList digits ∧ digits.length = 64 ∧
      (∀ digit ∈ digits, digit ∈ "0123456789abcdef".toList) ∧ entry.content = .text "logout"
  /-- Two windows have two keys, unless they are for one operation and one identity. -/
  windows : ∀ (operation other : LimitedOperation) (identity owner : UserId),
    windowKey operation identity = windowKey other owner → operation = other ∧ identity = owner
  /-- No call of any service, at any instant, ends because it was to count where a text is held. -/
  calls : ∀ (world : World), world.keyValue = store → ∀ (service : Service) (call : Call) key,
    ((call.operation service).on world).1 ≠
      .ok (.error (.storage (Store.KeyValue.notACounter key)))
  /-- What tells that a text is revoked is a live mark. -/
  lookups : ∀ (world : World), world.keyValue = store → ∀ token,
    ((isRevoked token).on world).1 = .ok (.ok true) →
      ∃ entry, store.get? (markKey token) = some entry ∧ world.clock < entry.expiresAt ∧
        entry.content = .text "logout"

/-- **Counters and marks never mix**, whatever services have called on a store, in whatever order. -/
theorem SharedStore.unmixed {store : Store.KeyValue} (shared : SharedStore store) :
    Unmixed store where
  entries := by
    intro key entry found
    cases shared.inPlace key entry found with
    | @counter operation identity count window content counted =>
      refine Or.inl ⟨operation, identity, count, ?_, content, counted⟩
      rw [window]
      simp [windowKey, windowKeyStart, limitKey, UserId.key, String.append_assoc]
    | @mark token marks content =>
      obtain ⟨digits, written, length, hexadecimal⟩ := exists_digits_of_markKey token
      exact Or.inr ⟨digits, marks.trans written, length, hexadecimal, content⟩
  windows := by
    intro operation other identity owner same
    exact eq_of_limitKey ((String.append_right_inj windowKeyStart).1 same)
  calls := by
    rintro world rfl service call key
    exact shared.inPlace.call_ne_notACounter service call key
  lookups := by
    rintro world rfl token found
    rw [isRevoked, on_isMarked] at found
    obtain ⟨entry, live⟩ := Option.isSome_iff_exists.1 (Except.ok.inj (Except.ok.inj found))
    obtain ⟨held, before⟩ := Store.KeyValue.liveAt_eq_some_iff.1 live
    exact ⟨entry, held, before, (shared.inPlace _ _ held).content_of_markKey⟩

/-- A store that a logout has marked after the login of an identity whose address looks like the key
of a mark. -/
theorem SharedStore.unmixed_afterLogout :
    let odd : UserId := ⟨"revoked:logout:kakao:", .google⟩
    let first := (Call.login Sample.nobody odd).after Sample.service Sample.world
    let last := (Call.logout ⟨some odd, none⟩ (some Sample.pair.accessToken)).after Sample.service first
    SharedStore last.keyValue ∧ Unmixed last.keyValue := by
  -- The names of the statement are not introduced: checking them against it takes long.
  have start : SharedStore Sample.world.keyValue := .empty
  have loggedIn := start.call Sample.service
    (Call.login Sample.nobody ⟨"revoked:logout:kakao:", .google⟩)
  have shared := loggedIn.call Sample.service
    (Call.logout ⟨some ⟨"revoked:logout:kakao:", .google⟩, none⟩ (some Sample.pair.accessToken))
  exact ⟨shared, shared.unmixed⟩

end SignOn.Engine
