import SignOn.Proofs.Store.Locality

/-!
# Lookups with others in between

A lookup reads the clock and looks at the entry of its key.  Unless that has lapsed, it ends there.
Else it lets go of the store, takes it again and settles: it removes the entry of its key if that
has lapsed at the instant that it read, and ends.  Between its phases others may use the store, look
up and purge, and time may pass, so that what it settles need not be what it saw, and its instant is
past.

It answers by the entry that it finds at its last phase, and removes that only if it has lapsed at
its instant (`Searched.Moves.concludes`).  So lookups, however many, lose no entry that is live
(`Searched.get?_of_run`).
-/

namespace SignOn.Store

set_option autoImplicit false

/-- What a first look answers, if it ends a lookup. -/
def Sight.answer? {α β : Type} (absent : β) (live : α → β) : Sight α → Option β
  | .absent => some absent
  | .live value => some (live value)
  | .lapsed => none

/-- A kind of store whose entries lapse and are looked up in two phases. -/
structure Searched (κ ν Request : Type) [DecidableEq κ] extends Lapsing κ ν Request where
  /-- What a lookup answers. -/
  Found : Type
  /-- The answer where the given entry is live, or none is. -/
  tell : Option ν → Found
  /-- What the first phase answers, if it does. -/
  look? : Instant → κ → Table κ ν → Option Found
  /-- What the second phase answers and leaves. -/
  settle : Instant → κ → Table κ ν → Found × Table κ ν
  /-- What a lookup answers and leaves that has both phases at once. -/
  lookup : Instant → κ → Table κ ν → Found × Table κ ν
  look?_eq : ∀ now key store, look? now key store =
    match store.get? key with
    | none => some (tell none)
    | some entry => if isLive now entry then some (tell (some entry)) else none
  settle_eq : ∀ now key store, settle now key store =
    match store.get? key with
    | none => (tell none, store)
    | some entry =>
        if isLive now entry then (tell (some entry), store) else (tell none, store.erase key)
  lookup_eq : ∀ now key store, lookup now key store =
    match look? now key store with
    | some found => (found, store)
    | none => settle now key store
  /-- A request leaves every other key alone. -/
  get?_perform : ∀ {now request store answer after},
    perform now request store = .ok (answer, after) →
      ∀ {other}, other ≠ key request → after.get? other = store.get? other

/-- A lookup under way: its key, the instant that it read, and whether it has looked and found a
lapsed entry. -/
structure Lookup (κ : Type) where
  key : κ
  now : Instant
  hasLooked : Bool

/-- A store in use, with the time and the lookup that each caller has under way. -/
structure Usage (κ ν : Type) where
  clock : Instant
  store : Table κ ν
  lookups : Nat → Option (Lookup κ)

/-- What happens to a store in use. -/
inductive Act (κ Request Found : Type) where
  | wait (time : Duration)
  | ask (request : Request)
  | purge
  | begin (caller : Nat) (key : κ)
  | look (caller : Nat)
  | answer (caller : Nat) (found : Found)

namespace Searched

variable {κ ν Request : Type} [DecidableEq κ] (kind : Searched κ ν Request)

/-- One act.  Requests and purges are carried out at an instant that they read before, perhaps long
before.  A count and a replacement read the clock once more for the end of their lifetime, which is
the same as a longer lifetime at the instant that they read first. -/
inductive Moves : Act κ Request kind.Found → Usage κ ν → Usage κ ν → Prop
  | wait (time : Duration) (usage : Usage κ ν) :
      Moves (.wait time) usage { usage with clock := time.after usage.clock }
  | ask {usage : Usage κ ν} {now : Instant} {request : Request} {answer : kind.Answer request}
      {after : Table κ ν} (read : now ≤ usage.clock)
      (performed : kind.perform now request usage.store = .ok (answer, after)) :
      Moves (.ask request) usage { usage with store := after }
  | askRefused {usage : Usage κ ν} {now : Instant} {request : Request} {fault : Fault}
      (read : now ≤ usage.clock) (refused : kind.perform now request usage.store = .error fault) :
      Moves (.ask request) usage usage
  | purge {usage : Usage κ ν} {now : Instant} (read : now ≤ usage.clock) :
      Moves .purge usage { usage with store := kind.purge now usage.store }
  | begin {usage : Usage κ ν} {caller : Nat} (key : κ) (idle : usage.lookups caller = none) :
      Moves (.begin caller key) usage { usage with
        lookups := Function.update usage.lookups caller (some ⟨key, usage.clock, false⟩) }
  | look {usage : Usage κ ν} {caller : Nat} {key : κ} {now : Instant}
      (began : usage.lookups caller = some ⟨key, now, false⟩)
      (lapsed : kind.look? now key usage.store = none) :
      Moves (.look caller) usage { usage with
        lookups := Function.update usage.lookups caller (some ⟨key, now, true⟩) }
  | lookEnds {usage : Usage κ ν} {caller : Nat} {key : κ} {now : Instant} {found : kind.Found}
      (began : usage.lookups caller = some ⟨key, now, false⟩)
      (ends : kind.look? now key usage.store = some found) :
      Moves (.answer caller found) usage { usage with
        lookups := Function.update usage.lookups caller none }
  | settle {usage : Usage κ ν} {caller : Nat} {key : κ} {now : Instant} {found : kind.Found}
      {after : Table κ ν} (looked : usage.lookups caller = some ⟨key, now, true⟩)
      (settled : kind.settle now key usage.store = (found, after)) :
      Moves (.answer caller found) usage { usage with
        store := after, lookups := Function.update usage.lookups caller none }

/-- Acts one after another. -/
inductive Run : List (Act κ Request kind.Found) → Usage κ ν → Usage κ ν → Prop
  | nil (usage : Usage κ ν) : Run [] usage usage
  | cons {act : Act κ Request kind.Found} {acts : List (Act κ Request kind.Found)}
      {first next last : Usage κ ν} (moves : kind.Moves act first next)
      (run : Run acts next last) : Run (act :: acts) first last

/-- The usages from the begin of a lookup up to its answer, whatever others do meanwhile. -/
inductive Course (caller : Nat) (key : κ) (now : Instant) : Usage κ ν → Prop
  | begins {usage next : Usage κ ν} (reads : usage.clock = now)
      (begun : kind.Moves (.begin caller key) usage next) : Course caller key now next
  | goesOn {usage next : Usage κ ν} {act : Act κ Request kind.Found}
      (course : Course caller key now usage) (moves : kind.Moves act usage next)
      (going : ∀ found, act ≠ .answer caller found) : Course caller key now next

variable {kind} {usage next last : Usage κ ν} {act : Act κ Request kind.Found}
  {acts : List (Act κ Request kind.Found)} {caller : Nat} {key other : κ} {now : Instant}
  {store : Table κ ν} {entry : ν} {found : kind.Found}

/-! ## The two phases -/

/-- A first phase that answers has found nothing lapsed. -/
theorem shown_of_look? (ends : kind.look? now key store = some found) :
    kind.shown now store.get? key = store.get? key ∧ found = kind.tell (store.get? key) := by
  rw [kind.look?_eq] at ends
  rw [Reference.shown]
  cases held : store.get? key with
  | none =>
    rw [held] at ends
    exact ⟨rfl, (Option.some.inj ends).symm⟩
  | some entry =>
    rw [held] at ends
    dsimp only at ends
    split_ifs at ends with live
    exact ⟨by rw [Option.filter_some, if_pos live], (Option.some.inj ends).symm⟩

theorem settle_fst (kind : Searched κ ν Request) (now : Instant) (key : κ) (store : Table κ ν) :
    (kind.settle now key store).1 = kind.tell (kind.shown now store.get? key) := by
  rw [kind.settle_eq, Reference.shown]
  cases held : store.get? key with
  | none => rfl
  | some entry =>
    dsimp only
    rw [Option.filter_some]
    split_ifs <;> rfl

/-- A second phase leaves at its key what is live at its instant, and every other key alone. -/
theorem get?_settle (kind : Searched κ ν Request) (now : Instant) (key other : κ)
    (store : Table κ ν) :
    (kind.settle now key store).2.get? other =
      if other = key then kind.shown now store.get? key else store.get? other := by
  rw [kind.settle_eq, Reference.shown]
  cases held : store.get? key with
  | none =>
    dsimp only
    split_ifs with own
    · rw [own, held, Option.filter_none]
    · rfl
  | some entry =>
    dsimp only
    rw [Option.filter_some]
    split_ifs with live own own
    · rw [own, held]
    · rfl
    · rw [own, Table.get?_erase, if_pos rfl]
    · rw [Table.get?_erase, if_neg own]

/-- What the last phase of a lookup answers and leaves. -/
structure Concludes (kind : Searched κ ν Request) (key : κ) (now : Instant) (usage : Usage κ ν)
    (found : kind.Found) (next : Usage κ ν) : Prop where
  found_eq : found = kind.tell (kind.shown now usage.store.get? key)
  get?_eq : ∀ other, next.store.get? other =
    if other = key then kind.shown now usage.store.get? key else usage.store.get? other

/-- A lookup concludes with the key and the instant that it has under way. -/
theorem Moves.concludes (moves : kind.Moves (.answer caller found) usage next) :
    ∃ key now hasLooked, usage.lookups caller = some ⟨key, now, hasLooked⟩ ∧
      kind.Concludes key now usage found next := by
  cases moves with
  | @lookEnds _ _ key now _ began ends =>
    obtain ⟨live, tells⟩ := shown_of_look? ends
    refine ⟨key, now, false, began, live.symm ▸ tells, fun other => ?_⟩
    rw [live]
    split_ifs with own
    · rw [own]
    · rfl
  | @settle _ _ key now _ _ looked settled =>
    have tells := kind.settle_fst now key usage.store
    have leaves := fun other => kind.get?_settle now key other usage.store
    rw [settled] at tells leaves
    exact ⟨key, now, true, looked, tells, leaves⟩

/-! ## One lookup, from its begin to its answer -/

/-- An act leaves the lookups of other callers, and one that goes on has its key and its instant. -/
theorem Moves.lookups_eq (moves : kind.Moves act usage next)
    (going : ∀ found, act ≠ .answer caller found) {hasLooked : Bool}
    (underWay : usage.lookups caller = some ⟨key, now, hasLooked⟩) :
    ∃ hasLooked, next.lookups caller = some ⟨key, now, hasLooked⟩ := by
  cases moves with
  | wait | ask | askRefused | purge => exact ⟨hasLooked, underWay⟩
  | @begin _ other _ idle =>
    have differs : caller ≠ other := fun same => by cases idle.symm.trans (same ▸ underWay)
    exact ⟨hasLooked, (Function.update_of_ne differs _ _).trans underWay⟩
  | @look _ other _ _ began lapsed =>
    by_cases same : caller = other
    · subst same
      cases began.symm.trans underWay
      exact ⟨true, Function.update_self _ _ _⟩
    · exact ⟨hasLooked, (Function.update_of_ne same _ _).trans underWay⟩
  | @lookEnds _ other _ _ found began ends =>
    have differs : caller ≠ other := fun same => going found (same ▸ rfl)
    exact ⟨hasLooked, (Function.update_of_ne differs _ _).trans underWay⟩
  | @settle _ other _ _ found _ looked settled =>
    have differs : caller ≠ other := fun same => going found (same ▸ rfl)
    exact ⟨hasLooked, (Function.update_of_ne differs _ _).trans underWay⟩

/-- Through its course a lookup has the instant that it read at its begin. -/
theorem Course.lookups_eq (course : kind.Course caller key now usage) :
    ∃ hasLooked, usage.lookups caller = some ⟨key, now, hasLooked⟩ := by
  induction course with
  | begins reads begun =>
    cases begun
    exact ⟨false, reads ▸ Function.update_self _ _ _⟩
  | goesOn _ moves going ih =>
    obtain ⟨_, underWay⟩ := ih
    exact moves.lookups_eq going underWay

theorem Course.concludes (course : kind.Course caller key now usage)
    (moves : kind.Moves (.answer caller found) usage next) :
    kind.Concludes key now usage found next := by
  obtain ⟨_, underWay⟩ := course.lookups_eq
  obtain ⟨_, _, _, same, concludes⟩ := moves.concludes
  cases same.symm.trans underWay
  exact concludes

/-- A lookup that has looked in vain answers whenever it settles. -/
theorem exists_answer_of_looked (looked : usage.lookups caller = some ⟨key, now, true⟩) :
    ∃ found next, kind.Moves (.answer caller found) usage next :=
  ⟨_, _, .settle looked rfl⟩

/-- A lookup under way answers in its next phase, or in the one after that. -/
theorem Course.exists_answer (course : kind.Course caller key now usage) :
    (∃ found next, kind.Moves (.answer caller found) usage next) ∨
      ∃ next, kind.Moves (.look caller) usage next ∧
        ∃ found last, kind.Moves (.answer caller found) next last := by
  obtain ⟨hasLooked, underWay⟩ := course.lookups_eq
  cases hasLooked with
  | true => exact Or.inl (exists_answer_of_looked underWay)
  | false =>
    cases looks : kind.look? now key usage.store with
    | some found => exact Or.inl ⟨found, _, .lookEnds underWay looks⟩
    | none =>
      refine Or.inr ⟨_, .look underWay looks, ?_⟩
      exact exists_answer_of_looked (Function.update_self _ _ _)

/-- With nothing between its phases a lookup does what it does at once. -/
theorem exists_run_alone (kind : Searched κ ν Request) (key : κ)
    (idle : usage.lookups caller = none) :
    ∃ acts last, kind.Run (.begin caller key :: acts) usage last ∧
      acts.getLast? = some (.answer caller (kind.lookup usage.clock key usage.store).1) ∧
      last.store = (kind.lookup usage.clock key usage.store).2 := by
  have begun : Function.update usage.lookups caller (some ⟨key, usage.clock, false⟩) caller =
      some ⟨key, usage.clock, false⟩ := Function.update_self _ _ _
  rw [kind.lookup_eq]
  cases looks : kind.look? usage.clock key usage.store with
  | some found =>
    exact ⟨_, _, .cons (.begin key idle) (.cons (.lookEnds begun looks) (.nil _)), rfl, rfl⟩
  | none =>
    refine ⟨_, _, .cons (.begin key idle) (.cons (.look begun looks) (.cons (.settle ?_ rfl)
      (.nil _))), rfl, rfl⟩
    exact Function.update_self _ _ _

/-! ## Many lookups -/

/-- No lookup has read an instant that is yet to come. -/
def Timely (usage : Usage κ ν) : Prop :=
  ∀ caller lookup, usage.lookups caller = some lookup → lookup.now ≤ usage.clock

theorem Moves.clock_le (moves : kind.Moves act usage next) : usage.clock ≤ next.clock := by
  cases moves with
  | wait time => exact usage.clock.le_after time
  | _ => exact Int.le_refl _

theorem Run.clock_le (run : kind.Run acts usage last) : usage.clock ≤ last.clock := by
  induction run with
  | nil => exact Int.le_refl _
  | cons moves _ ih => exact Int.le_trans moves.clock_le ih

omit [DecidableEq κ] in
/-- Lookups stay timely as one of them is put in the place of another. -/
theorem Timely.update (timely : Timely usage) {lookup? : Option (Lookup κ)}
    (read : ∀ lookup, lookup? = some lookup → lookup.now ≤ usage.clock) :
    Timely { usage with lookups := Function.update usage.lookups caller lookup? } := by
  intro someone lookup underWay
  dsimp only at underWay
  by_cases same : someone = caller
  · subst same
    rw [Function.update_self] at underWay
    exact read lookup underWay
  · rw [Function.update_of_ne same] at underWay
    exact timely someone lookup underWay

theorem Moves.timely (moves : kind.Moves act usage next) (before : Timely usage) :
    Timely next := by
  cases moves with
  | wait time =>
    intro someone lookup underWay
    exact Int.le_trans (before someone lookup underWay) (usage.clock.le_after time)
  | ask | askRefused | purge => exact before
  | begin key idle =>
    refine before.update fun lookup begun => ?_
    cases begun
    exact Int.le_refl _
  | look began lapsed =>
    refine before.update fun lookup looked => ?_
    cases looked
    have read := before _ _ began
    exact read
  | lookEnds | settle => exact before.update nofun

theorem Run.timely (run : kind.Run acts usage last) (before : Timely usage) : Timely last := by
  induction run with
  | nil => exact before
  | cons moves _ ih => exact ih (moves.timely before)

/-- The act is a request about a key. -/
def IsAbout (kind : Searched κ ν Request) (key : κ) : Act κ Request kind.Found → Prop
  | .ask request => kind.key request = key
  | _ => False

/-- An entry that is still live stays, unless a request is about its key. -/
theorem Moves.get?_eq_some (moves : kind.Moves act usage next) (timely : Timely usage)
    (elsewhere : ¬ kind.IsAbout key act) (held : usage.store.get? key = some entry)
    (live : kind.isLive usage.clock entry = true) : next.store.get? key = some entry := by
  cases moves with
  | wait | askRefused | begin | look | lookEnds => exact held
  | ask _ performed =>
    rw [kind.get?_perform performed fun same => elsewhere same.symm]
    exact held
  | purge read =>
    dsimp only
    rw [kind.purge_eq, Table.get?_filter, held, Option.filter_some,
      if_pos (kind.isLive_of_later read live)]
  | @settle _ _ searched now _ _ looked settled =>
    have leaves := kind.get?_settle now searched key usage.store
    rw [settled] at leaves
    dsimp only at leaves ⊢
    rw [leaves]
    split_ifs with own
    · have liveThen := kind.isLive_of_later (timely _ _ looked) live
      rw [Reference.shown, ← own, held, Option.filter_some, if_pos liveThen]
    · exact held

/-- An entry that is live at the end of a run is still there, unless a request was about its key. -/
theorem get?_of_run (run : kind.Run acts usage last) (timely : Timely usage)
    (elsewhere : ∀ act ∈ acts, ¬ kind.IsAbout key act) (held : usage.store.get? key = some entry)
    (live : kind.isLive last.clock entry = true) : last.store.get? key = some entry := by
  induction run with
  | nil => exact held
  | cons moves run ih =>
    have before := Int.le_trans moves.clock_le run.clock_le
    have stays := moves.get?_eq_some timely (elsewhere _ List.mem_cons_self) held
      (kind.isLive_of_later before live)
    exact ih (moves.timely timely) (fun act later => elsewhere act (List.mem_cons_of_mem _ later))
      stays live

/-- Lookups that remove what has lapsed drop nothing that is live, whatever others do between their
phases. -/
structure SparesLive (kind : Searched κ ν Request) : Prop where
  /-- A lookup answers, in its next phase or in the one after that. -/
  ends : ∀ caller key now usage, kind.Course caller key now usage →
    (∃ found next, kind.Moves (.answer caller found) usage next) ∨
      ∃ next, kind.Moves (.look caller) usage next ∧
        ∃ found last, kind.Moves (.answer caller found) next last
  /-- It tells the entry of its key that is there at its last phase, if that is live at the instant
  that the lookup read at its begin, and else that there is none. -/
  answers : ∀ caller key now usage next found, kind.Course caller key now usage →
    kind.Moves (.answer caller found) usage next →
      found = kind.tell ((usage.store.get? key).filter (kind.isLive now))
  /-- It removes this entry if that has lapsed at the instant, and leaves all others. -/
  removes : ∀ caller key now usage next found, kind.Course caller key now usage →
    kind.Moves (.answer caller found) usage next →
      ∀ other, next.store.get? other =
        if other = key then (usage.store.get? key).filter (kind.isLive now)
        else usage.store.get? other
  /-- With nothing in between it does what it does with both phases at once. -/
  alone : ∀ caller key usage, usage.lookups caller = none →
    ∃ acts last, kind.Run (.begin caller key :: acts) usage last ∧
      acts.getLast? = some (.answer caller (kind.lookup usage.clock key usage.store).1) ∧
      last.store = (kind.lookup usage.clock key usage.store).2
  /-- A first look that finds a lapsed entry leaves it there. -/
  looks : ∀ caller usage next, kind.Moves (.look caller) usage next → next.store = usage.store
  /-- From any usage without lookups on, an entry stays as long as it is live and no request is
  about its key, whoever looks up or purges meanwhile. -/
  keeps : ∀ idle usage last earlier later, idle.lookups = (fun _ => none) →
    kind.Run earlier idle usage → kind.Run later usage last →
      ∀ key entry, (∀ act ∈ later, ¬ kind.IsAbout key act) →
        usage.store.get? key = some entry → kind.isLive last.clock entry = true →
          last.store.get? key = some entry

theorem sparesLive (kind : Searched κ ν Request) : kind.SparesLive where
  ends _ _ _ _ course := course.exists_answer
  answers _ _ _ _ _ _ course moves := (course.concludes moves).found_eq
  removes _ _ _ _ _ _ course moves := (course.concludes moves).get?_eq
  alone _ key _ idle := exists_run_alone kind key idle
  looks := by
    intro caller usage next moves
    cases moves
    rfl
  keeps := by
    intro idle usage last earlier later none before run key entry elsewhere held live
    have timely : Timely idle := by
      intro caller lookup underWay
      rw [none] at underWay
      cases underWay
    exact get?_of_run run (before.timely timely) elsewhere held live

end Searched

/-! ## The two stores -/

/-- Counters and marks, with the phases of asking whether a key is present. -/
def KeyValue.searched : Searched String Entry KeyValue.Request where
  toLapsing := lapsing
  Found := Bool
  tell := Option.isSome
  look? now key store := (KeyValue.look now key store).answer? false fun _ => true
  settle := KeyValue.settle
  lookup := isPresent
  look?_eq now key store := by
    rw [look]
    cases store.get? key with
    | none => rfl
    | some entry =>
      dsimp only
      rw [apply_ite (Sight.answer? _ _)]
      rfl
  settle_eq now key store := by
    rw [settle]
    cases store.get? key <;> rfl
  lookup_eq now key store := by
    rw [isPresent]
    cases look now key store <;> rfl
  get?_perform := get?_perform

/-- Sessions, with the phases of reading one. -/
def Sessions.searched : Searched UserId Session Sessions.Request where
  toLapsing := lapsing
  Found := Option Session
  tell := id
  look? now owner store := (Sessions.look now owner store).answer? none some
  settle := Sessions.settle
  lookup := read
  look?_eq now owner store := by
    rw [look]
    cases store.get? owner with
    | none => rfl
    | some session =>
      change _ = if (!session.isExpiredAt now) = true then _ else _
      dsimp only
      cases session.isExpiredAt now <;> rfl
  settle_eq now owner store := by
    rw [settle]
    cases store.get? owner with
    | none => rfl
    | some session =>
      change _ = if (!session.isExpiredAt now) = true then _ else _
      dsimp only
      cases session.isExpiredAt now <;> rfl
  lookup_eq now owner store := by
    rw [read]
    cases look now owner store <;> rfl
  get?_perform := get?_perform

/-- **Lookups that clean up drop no live entry**, of the counters and marks and of the sessions. -/
theorem lookups_spareLive : KeyValue.searched.SparesLive ∧ Sessions.searched.SparesLive :=
  ⟨KeyValue.searched.sparesLive, Sessions.searched.sparesLive⟩

end SignOn.Store
