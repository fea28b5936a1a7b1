import Mathlib.Data.List.Basic
import Mathlib.Logic.Function.Basic
import SignOn.Proofs.Store.Lapsing

/-!
# Eviction

An entry that has lapsed leaves its store on several occasions: a read that finds it removes it, and
so does a replacement; a count or a write puts another one in its place; a purge removes all of
them.  None of this shows.  A store answers every request as a reference does that has for each key
what was last put there, removes nothing but what is deleted, and passes over what has lapsed
(`Lapsing.replies_eq_reference`).  So purges change no answer, wherever they fall
(`Lapsing.replies_filter`).

A reference is given by what a request answers and changes, told from the live entry of its key
alone.  A store agrees with it if each single request does, in its answer and in the live entries
that it leaves (`Lapsing.serves`).
-/

namespace SignOn.Store

set_option autoImplicit false

/-! ## Tables as functions -/

namespace Table

variable {κ ν : Type} [DecidableEq κ]

theorem get?_insert_eq (table : Table κ ν) (key : κ) (value : ν) :
    (table.insert key value).get? = Function.update table.get? key (some value) := by
  funext other
  rw [get?_insert, Function.update_apply]

theorem get?_erase_eq (table : Table κ ν) (key : κ) :
    (table.erase key).get? = Function.update table.get? key none := by
  funext other
  rw [get?_erase, Function.update_apply]

end Table

/-! ## References -/

/-- What a request does to the entry of its key. -/
inductive Change (ν : Type) where
  | keep
  | put (value : ν)
  | remove

/-- What a key holds after a change. -/
def Change.apply {ν : Type} : Change ν → Option ν → Option ν
  | .keep, held => held
  | .put value, _ => some value
  | .remove, _ => none

/-- A description of stores whose entries lapse. -/
structure Reference (κ ν Request : Type) where
  Answer : Request → Type
  /-- Whether an entry has not lapsed. -/
  isLive : Instant → ν → Bool
  isLive_of_later : ∀ {now later : Instant} {value : ν}, now ≤ later →
    isLive later value = true → isLive now value = true
  /-- The key that a request is about. -/
  key : Request → κ
  /-- What a request answers and changes where the given entry is live, or none is. -/
  effect : Instant → (request : Request) → Option ν → Except Fault (Answer request × Change ν)

/-- What happens to a store. -/
inductive Step (Request : Type) where
  | wait (time : Duration)
  | ask (request : Request)
  | purge

/-- The step is no purge. -/
def Step.isUse {Request : Type} : Step Request → Bool
  | .purge => false
  | _ => true

/-- A request with what came of it. -/
abbrev Served {Request : Type} (Answer : Request → Type) : Type :=
  (request : Request) × Except Fault (Answer request)

/-- The state after a request, which is the one before if there is no answer. -/
def stateAfter {α σ : Type} (before : σ) : Except Fault (α × σ) → σ
  | .ok (_, after) => after
  | .error _ => before

/-- What comes of the requests among some steps, in their order. -/
def repliesOf {Request σ : Type} {Answer : Request → Type}
    (perform : Instant → (request : Request) → σ → Except Fault (Answer request × σ))
    (purge : Instant → σ → σ) : List (Step Request) → Instant → σ → List (Served Answer)
  | [], _, _ => []
  | .wait time :: steps, now, store => repliesOf perform purge steps (time.after now) store
  | .purge :: steps, now, store => repliesOf perform purge steps now (purge now store)
  | .ask request :: steps, now, store =>
      ⟨request, (perform now request store).map Prod.fst⟩ ::
        repliesOf perform purge steps now (stateAfter store (perform now request store))

/-- Two outcomes of a request agree: the answers are equal and the states related, or neither
answers, for the same cause. -/
inductive Agree {α σ τ : Type} (Related : σ → τ → Prop) :
    Except Fault (α × σ) → Except Fault (α × τ) → Prop where
  | answered {answer : α} {first : σ} {second : τ} (related : Related first second) :
      Agree Related (.ok (answer, first)) (.ok (answer, second))
  | refused {fault : Fault} : Agree Related (.error fault) (.error fault)

namespace Reference

variable {κ ν Request : Type} (reference : Reference κ ν Request)

/-- What shows at an instant: the entries that have not lapsed. -/
def shown (now : Instant) (held : κ → Option ν) : κ → Option ν :=
  fun key => (held key).filter (reference.isLive now)

section Shown

variable {reference} {now later : Instant} {held other : κ → Option ν}

/-- What shows now tells what will show later, as long as nothing is put there. -/
theorem shown_later (ordered : now ≤ later)
    (same : reference.shown now held = reference.shown now other) :
    reference.shown later held = reference.shown later other := by
  have faded (held : κ → Option ν) :
      reference.shown later (reference.shown now held) = reference.shown later held := by
    funext key
    rw [shown, shown, Option.filter_filter]
    congr 1
    funext value
    rw [Bool.and_eq_right_iff_imp]
    exact reference.isLive_of_later ordered
  rw [← faded held, same, faded]

end Shown

variable [DecidableEq κ]

/-- What every key holds after a change at one. -/
def changed (key : κ) (change : Change ν) (held : κ → Option ν) : κ → Option ν :=
  Function.update held key (change.apply (held key))

/-- Serves a request by what shows; an entry is removed only where the request does that. -/
def consult (now : Instant) (request : Request) (held : κ → Option ν) :
    Except Fault (reference.Answer request × (κ → Option ν)) :=
  match reference.effect now request (reference.shown now held (reference.key request)) with
  | .ok (answer, change) => .ok (answer, changed (reference.key request) change held)
  | .error fault => .error fault

/-- What comes of requests; nothing is purged. -/
def replies (steps : List (Step Request)) (now : Instant) (held : κ → Option ν) :
    List (Served reference.Answer) :=
  repliesOf reference.consult (fun _ held => held) steps now held

variable {reference} {now : Instant} {held other : κ → Option ν}

theorem shown_update (changed : κ) (value : Option ν) :
    reference.shown now (Function.update held changed value) =
      Function.update (reference.shown now held) changed (value.filter (reference.isLive now)) := by
  funext key
  by_cases same : key = changed
  · subst same
    rw [shown, Function.update_self, Function.update_self]
  · rw [shown, Function.update_of_ne same, Function.update_of_ne same, shown]

/-- What a change leaves shows the same where the same showed before. -/
theorem shown_changed (same : reference.shown now held = reference.shown now other) (key : κ)
    (change : Change ν) :
    reference.shown now (changed key change held) =
      reference.shown now (changed key change other) := by
  rw [changed, changed, shown_update, shown_update, same]
  cases change with
  | keep => exact congrArg (Function.update _ key) (congrFun same key)
  | put value | remove => rfl

/-- Leaving out the purges leaves the replies. -/
theorem replies_filter (steps : List (Step Request)) (now : Instant) (held : κ → Option ν) :
    reference.replies (steps.filter Step.isUse) now held = reference.replies steps now held := by
  unfold replies
  induction steps generalizing now held with
  | nil => rfl
  | cons step steps ih =>
    cases step with
    | wait time => exact ih (time.after now) held
    | purge => exact ih now held
    | ask request => exact congrArg (List.cons _) (ih now _)

end Reference

/-! ## Stores that agree with a reference -/

/-- A kind of store whose entries lapse. -/
structure Lapsing (κ ν Request : Type) [DecidableEq κ] extends Reference κ ν Request where
  perform : Instant → (request : Request) → Table κ ν →
    Except Fault (Answer request × Table κ ν)
  purge : Instant → Table κ ν → Table κ ν
  /-- How many entries a purge removes. -/
  lapsed : Instant → Table κ ν → Nat
  /-- A request is answered by what shows, and then there shows what the change makes of it. -/
  serves : ∀ now request store,
    Agree (fun after change => toReference.shown now after.get? =
        toReference.shown now (Reference.changed (key request) change store.get?))
      (perform now request store)
      (effect now request (toReference.shown now store.get? (key request)))
  purge_eq : ∀ now store, purge now store = store.filter fun _ value => isLive now value
  lapsed_eq : ∀ now store, lapsed now store = store.size - (purge now store).size

namespace Lapsing

variable {κ ν Request : Type} [DecidableEq κ] (kind : Lapsing κ ν Request)

/-- What comes of requests to a store. -/
def replies (steps : List (Step Request)) (now : Instant) (store : Table κ ν) :
    List (Served kind.Answer) :=
  repliesOf kind.perform kind.purge steps now store

variable {kind} {now : Instant} {store other : Table κ ν} {held : κ → Option ν}

/-- Where the same shows, a store and the reference serve a request alike. -/
theorem serves_of_shown (same : kind.shown now store.get? = kind.shown now held)
    (request : Request) :
    Agree (fun after held => kind.shown now after.get? = kind.shown now held)
      (kind.perform now request store) (kind.consult now request held) := by
  have serves := kind.serves now request store
  rw [same] at serves
  rw [Reference.consult]
  generalize kind.perform now request store = performed,
    kind.effect now request (kind.shown now held (kind.key request)) = effects at serves
  cases serves with
  | answered shows => exact .answered (shows.trans (Reference.shown_changed same _ _))
  | refused => exact .refused

/-- Where the same shows in two stores, they serve a request alike. -/
theorem perform_agree (same : kind.shown now store.get? = kind.shown now other.get?)
    (request : Request) :
    Agree (fun first second => kind.shown now first.get? = kind.shown now second.get?)
      (kind.perform now request store) (kind.perform now request other) := by
  have here := kind.serves now request store
  have there := kind.serves now request other
  rw [same] at here
  generalize kind.perform now request store = first, kind.perform now request other = second,
    kind.effect now request (kind.shown now other.get? (kind.key request)) = effects
    at here there
  cases here with
  | answered shows =>
    cases there with
    | answered shown =>
      exact .answered ((shows.trans (Reference.shown_changed same _ _)).trans shown.symm)
  | refused => cases there with | refused => exact .refused

theorem shown_purge (now : Instant) (store : Table κ ν) :
    kind.shown now (kind.purge now store).get? = kind.shown now store.get? := by
  funext key
  rw [kind.purge_eq, Reference.shown, Table.get?_filter, Option.filter_filter]
  simp only [Bool.and_self, Reference.shown]

/-- A store answers as the reference does wherever the same shows. -/
theorem replies_of_shown (steps : List (Step Request))
    (same : kind.shown now store.get? = kind.shown now held) :
    kind.replies steps now store = kind.toReference.replies steps now held := by
  unfold replies Reference.replies
  induction steps generalizing now store held with
  | nil => rfl
  | cons step steps ih =>
    cases step with
    | wait time => exact ih (Reference.shown_later (now.le_after time) same)
    | purge => exact ih ((shown_purge now store).trans same)
    | ask request =>
      have agree := serves_of_shown same request
      rw [repliesOf, repliesOf]
      generalize kind.perform now request store = performed,
        kind.consult now request held = consulted at agree
      cases agree with
      | answered shows => exact congrArg (List.cons _) (ih shows)
      | refused => exact congrArg (List.cons _) (ih same)

/-- A store answers as a reference that has the same entries, and in which no entry is removed for
having lapsed. -/
theorem replies_eq_reference (steps : List (Step Request)) (now : Instant) (store : Table κ ν) :
    kind.replies steps now store = kind.toReference.replies steps now store.get? :=
  replies_of_shown steps rfl

/-- Purges change no reply. -/
theorem replies_filter (steps : List (Step Request)) (now : Instant) (store : Table κ ν) :
    kind.replies (steps.filter Step.isUse) now store = kind.replies steps now store := by
  rw [replies_eq_reference, Reference.replies_filter, replies_eq_reference]

/-- A purge leaves no entry that has lapsed. -/
theorem isLive_of_mem_purge {entry : κ × ν} (kept : entry ∈ (kind.purge now store).entries) :
    kind.isLive now entry.2 = true := by
  rw [kind.purge_eq, Table.filter, List.mem_filter] at kept
  exact kept.2

/-- A purge removes as many entries as have lapsed. -/
theorem lapsed_eq_length (now : Instant) (store : Table κ ν) :
    kind.lapsed now store =
      (store.entries.filter fun entry => !kind.isLive now entry.2).length := by
  rw [kind.lapsed_eq, kind.purge_eq]
  have parts := store.entries.length_eq_length_filter_add fun entry => kind.isLive now entry.2
  exact Nat.sub_eq_of_eq_add (parts.trans (Nat.add_comm _ _))

/-- Nothing shows of when the lapsed entries of a kind of store are removed. -/
structure EvictsUnnoticed (kind : Lapsing κ ν Request) : Prop where
  /-- Requests are answered as if no entry were removed for having lapsed. -/
  reference : ∀ steps now store,
    kind.replies steps now store = kind.toReference.replies steps now store.get?
  /-- Requests are answered as without the purges. -/
  unpurged : ∀ steps now store,
    kind.replies (steps.filter Step.isUse) now store = kind.replies steps now store
  /-- A purge tells how many lapsed entries there were. -/
  counted : ∀ now store,
    kind.lapsed now store = (store.entries.filter fun entry => !kind.isLive now entry.2).length
  /-- A purge leaves no lapsed entry. -/
  cleared : ∀ now store, ∀ entry ∈ (kind.purge now store).entries,
    kind.isLive now entry.2 = true

theorem evictsUnnoticed (kind : Lapsing κ ν Request) : kind.EvictsUnnoticed :=
  ⟨replies_eq_reference, replies_filter, lapsed_eq_length, fun _ _ _ => isLive_of_mem_purge⟩

end Lapsing

/-! ## Counters and marks -/

namespace KeyValue

/-- A request to the store of counters and marks. -/
inductive Request where
  | count (key : String) (window : Duration)
  | write (key text : String) (lifetime : Duration)
  | isPresent (key : String)

/-- What a request asks for. -/
@[reducible] def Request.Answer : Request → Type
  | .count _ _ => Nat
  | .write _ _ _ => Unit
  | .isPresent _ => Bool

/-- Carries out a request. -/
def perform (now : Instant) :
    (request : Request) → KeyValue → Except Fault (request.Answer × KeyValue)
  | .count key window, store => store.count now key window
  | .write key text lifetime, store =>
      (store.write now key text lifetime).map fun store => ((), store)
  | .isPresent key, store => .ok (store.isPresent now key)

/-- The key that a request is about. -/
def Request.key : Request → String
  | .count key _ => key
  | .write key _ _ => key
  | .isPresent key => key

/-- What a request answers and changes where the given entry is live, or none is. -/
def Request.effect (now : Instant) :
    (request : Request) → Option Entry → Except Fault (request.Answer × Change Entry)
  | .count _ _, some ⟨.counter before, expiresAt⟩ =>
      .ok (before + 1, .put ⟨.counter (before + 1), expiresAt⟩)
  | .count key _, some ⟨.text _, _⟩ => .error (.refused (notACounter key))
  | .count _ window, none =>
      (expiry now window).map fun expiresAt => (1, .put ⟨.counter 1, expiresAt⟩)
  | .write _ text lifetime, _ =>
      (expiry now lifetime).map fun expiresAt => ((), .put ⟨.text text, expiresAt⟩)
  | .isPresent _, live => .ok (live.isSome, .keep)

theorem isLive_of_later {now later : Instant} {entry : Entry} (ordered : now ≤ later)
    (live : entry.isLive later = true) : entry.isLive now = true := by
  rw [Entry.isLive, decide_eq_true_iff, Instant.lt_def] at live ⊢
  rw [Instant.le_def] at ordered
  omega

/-- Counters and marks by their live entries. -/
def reference : Reference String Entry Request where
  Answer := Request.Answer
  isLive now entry := entry.isLive now
  isLive_of_later := isLive_of_later
  key := Request.key
  effect := Request.effect

theorem serves (now : Instant) (request : Request) (store : KeyValue) :
    Agree (fun after change => reference.shown now after.get? =
        reference.shown now (Reference.changed request.key change store.get?))
      (perform now request store) (request.effect now (store.liveAt now request.key)) := by
  cases request with
  | count key window =>
    rw [perform, Request.key]
    rcases live : store.liveAt now key with _ | ⟨before | text, expiresAt⟩
    · rw [Request.effect, KeyValue.count, ← liveAt, live]
      cases expiry now window with
      | error fault => exact .refused
      | ok expiresAt => exact .answered (congrArg _ (Table.get?_insert_eq store key _))
    · rw [count_of_live live]
      exact .answered (congrArg _ (Table.get?_insert_eq store key _))
    · rw [KeyValue.count, ← liveAt, live]
      exact .refused
  | write key text lifetime =>
    rw [perform, write, Request.effect]
    cases expiry now lifetime with
    | error fault => exact .refused
    | ok expiresAt => exact .answered (congrArg _ (Table.get?_insert_eq store key _))
  | isPresent key =>
    have kept : Reference.changed key .keep store.get? = store.get? :=
      Function.update_eq_self key store.get?
    rw [perform, Request.effect, ← isPresent_fst]
    refine .answered ?_
    rw [Request.key, kept]
    funext other
    exact liveAt_isPresent

/-- Counters and marks, with their requests. -/
def lapsing : Lapsing String Entry Request where
  toReference := reference
  perform := perform
  purge := purge
  lapsed := lapsed
  serves := serves
  purge_eq _ _ := rfl
  lapsed_eq _ _ := rfl

end KeyValue

/-! ## Sessions -/

namespace Sessions

/-- A request to the session store. -/
inductive Request where
  | read (owner : UserId)
  | write (owner : UserId) (value : String) (lifetime : Duration)
  | delete (owner : UserId)
  | replace (owner : UserId) (expected value : String) (lifetime : Duration)

/-- What a request asks for. -/
@[reducible] def Request.Answer : Request → Type
  | .read _ => Option Session
  | .write _ _ _ => Unit
  | .delete _ => Unit
  | .replace _ _ _ _ => Bool

/-- Carries out a request. -/
def perform (now : Instant) :
    (request : Request) → Sessions → Except Fault (request.Answer × Sessions)
  | .read owner, store => .ok (store.read now owner)
  | .write owner value lifetime, store =>
      (store.write now owner value lifetime).map fun store => ((), store)
  | .delete owner, store => .ok ((), store.erase owner)
  | .replace owner expected value lifetime, store =>
      store.replace now owner expected value lifetime

/-- The identity whose session a request is about. -/
def Request.key : Request → UserId
  | .read owner => owner
  | .write owner _ _ => owner
  | .delete owner => owner
  | .replace owner _ _ _ => owner

/-- What a replacement answers and changes. -/
def exchange (expected value : String) (expiresAt : Instant) :
    Option Session → Bool × Change Session
  | some session =>
      if session.refreshToken = expected then
        (true, .put { session with refreshToken := value, expiresAt := expiresAt })
      else (false, .keep)
  | none => (false, .keep)

/-- What a request answers and changes where the given session is live, or none is. -/
def Request.effect (now : Instant) :
    (request : Request) → Option Session → Except Fault (request.Answer × Change Session)
  | .read _, live => .ok (live, .keep)
  | .write owner value lifetime, _ =>
      (expiry now lifetime).map fun expiresAt => ((), .put ⟨owner, value, expiresAt⟩)
  | .delete _, _ => .ok ((), .remove)
  | .replace _ expected value lifetime, live =>
      (expiry now lifetime).map fun expiresAt => exchange expected value expiresAt live

theorem isLive_of_later {now later : Instant} {session : Session} (ordered : now ≤ later)
    (live : (!session.isExpiredAt later) = true) : (!session.isExpiredAt now) = true := by
  rw [isAlive_iff, Instant.lt_def] at live ⊢
  rw [Instant.le_def] at ordered
  omega

/-- Sessions by the live session of each identity. -/
def reference : Reference UserId Session Request where
  Answer := Request.Answer
  isLive now session := !session.isExpiredAt now
  isLive_of_later := isLive_of_later
  key := Request.key
  effect := Request.effect

/-- Where the expected value is not live, replacing shows nothing new. -/
theorem replace_of_not_live {now : Instant} {owner : UserId} {store : Sessions}
    {expected value : String} {lifetime : Duration} {expiresAt : Instant}
    (fits : expiry now lifetime = .ok expiresAt)
    (other : ∀ session, store.liveAt now owner = some session → session.refreshToken ≠ expected) :
    ∃ after, store.replace now owner expected value lifetime = .ok (false, after) ∧
      ∀ key, after.liveAt now key = store.liveAt now key := by
  have answers : ∃ replaced after,
      store.replace now owner expected value lifetime = .ok (replaced, after) := by
    unfold replace
    rw [fits]
    dsimp only
    split
    · exact ⟨_, _, rfl⟩
    · split_ifs <;> exact ⟨_, _, rfl⟩
  obtain ⟨replaced, after, answered⟩ := answers
  rcases replace_eq_ok answered with ⟨_, session, live, same, _⟩ | ⟨rfl, _, kept⟩
  · exact absurd same (other session live)
  · refine ⟨after, answered, fun key => ?_⟩
    rcases kept key with same | faded
    · rw [liveAt, same, liveAt]
    · rw [liveAt, faded, liveAt, Option.filter_filter]
      simp

theorem serves (now : Instant) (request : Request) (store : Sessions) :
    Agree (fun after change => reference.shown now after.get? =
        reference.shown now (Reference.changed request.key change store.get?))
      (perform now request store) (request.effect now (store.liveAt now request.key)) := by
  have kept (owner : UserId) : Reference.changed owner .keep store.get? = store.get? :=
    Function.update_eq_self owner store.get?
  cases request with
  | read owner =>
    rw [perform, Request.effect, Request.key, ← read_fst]
    refine .answered ?_
    rw [kept]
    funext other
    exact liveAt_read
  | write owner value lifetime =>
    rw [perform, write, Request.effect]
    cases expiry now lifetime with
    | error fault => exact .refused
    | ok expiresAt => exact .answered (congrArg _ (Table.get?_insert_eq store owner _))
  | delete owner => exact .answered (congrArg _ (Table.get?_erase_eq store owner))
  | replace owner expected value lifetime =>
    rw [perform, Request.effect, Request.key]
    cases fits : expiry now lifetime with
    | error fault =>
      rw [replace, fits]
      exact .refused
    | ok expiresAt =>
      by_cases held : ∃ session, store.liveAt now owner = some session ∧
          session.refreshToken = expected
      · obtain ⟨session, live, same⟩ := held
        rw [replace_of_live fits live same, live, Except.map, exchange, if_pos same]
        exact .answered (congrArg _ (Table.get?_insert_eq store owner _))
      · have other : ∀ session, store.liveAt now owner = some session →
            session.refreshToken ≠ expected := fun session live same => held ⟨session, live, same⟩
        obtain ⟨after, answered, shows⟩ := replace_of_not_live fits other
        have nothing : exchange expected value expiresAt (store.liveAt now owner) =
            (false, .keep) := by
          cases live : store.liveAt now owner with
          | none => rfl
          | some session => exact if_neg (other session live)
        rw [answered, Except.map, nothing]
        refine .answered ?_
        rw [kept]
        funext key
        exact shows key

/-- Sessions, with their requests. -/
def lapsing : Lapsing UserId Session Request where
  toReference := reference
  perform := perform
  purge := purge
  lapsed := lapsed
  serves := serves
  purge_eq _ _ := rfl
  lapsed_eq _ _ := rfl

end Sessions

end SignOn.Store
