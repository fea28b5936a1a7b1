import SignOn.Proofs.Engine.Marks
import SignOn.Proofs.Engine.RateWindows

/-!
# The limiter counts in fixed windows

Attempts on any keys are made on one store, one after another, among revocations, questions about
them, sweeps and times of waiting (`LimiterRun`).  The counter that the store holds at a key is, as
long as it lives, the number of attempts in the current window of the key, and lapses as that window
ends.  So every attempt is allowed exactly by its number in its window, whatever else happens in
between (`LimiterRun.fixedWindows`).
-/

namespace SignOn.Engine

set_option autoImplicit false

open Operation

/-! ## Runs of the limiter -/

/-- The attempt that a call of the limiter is in a world. -/
def World.attempt (world : World) (key : String) (limit : Nat) (window : Duration) : Attempt :=
  ⟨key, limit, window, world.clock, ((allow key limit window).on world).1⟩

/-- The action is one of those that revoking, and asking whether something is revoked, are made
of. -/
def Action.IsRevocation : Action → Prop
  | .readClock => True
  | .store (.mark key _ _) | .store (.isMarked key) => ∃ token, key = markKey token
  | _ => False

/-- A run of the limiter leads from an empty store to a world by the given attempts, latest first.
The clock never goes back and, like the ends of the windows, stays within the calendar. -/
inductive LimiterRun : List Attempt → World → Prop where
  | fresh {world : World} (empty : world.keyValue = .empty)
      (within : world.clock.isRepresentable = true) : LimiterRun [] world
  | attempt {past : List Attempt} {world : World} (run : LimiterRun past world) (key : String)
      (limit : Nat) (window : Duration)
      (within : (window.after world.clock).isRepresentable = true) :
      LimiterRun (world.attempt key limit window :: past) ((allow key limit window).on world).2
  | revocation {past : List Attempt} {world : World} (run : LimiterRun past world) {α : Type}
      {operation : Operation α} (only : operation.Only Action.IsRevocation) :
      LimiterRun past (operation.on world).2
  | sweep {past : List Attempt} {world : World} (run : LimiterRun past world) :
      LimiterRun past world.sweep
  | wait {past : List Attempt} {world : World} (run : LimiterRun past world) (later : Instant)
      (ordered : world.clock ≤ later) (within : later.isRepresentable = true) :
      LimiterRun past (world.waitUntil later)

theorem revoke_isRevocation (codec : Codec) (token : String) :
    (revoke codec token).Only Action.IsRevocation :=
  Service.only_revoke trivial fun _ => ⟨token, rfl⟩

theorem isRevoked_isRevocation (token : String) : (isRevoked token).Only Action.IsRevocation :=
  only_call ⟨token, rfl⟩

/-- The attempts on a key. -/
def attemptsOn (key : String) (past : List Attempt) : List Attempt :=
  past.filter fun attempt => attempt.key = key

section Run

variable {past : List Attempt} {world : World}

theorem LimiterRun.isRepresentable (run : LimiterRun past world) :
    world.clock.isRepresentable = true := by
  induction run with
  | fresh empty within => exact within
  | attempt run key limit window within ih => rwa [clock_on]
  | revocation run only ih => rwa [clock_on]
  | sweep run ih => exact ih
  | wait run later ordered within ih => exact within

/-- No attempt lies ahead of the clock. -/
theorem LimiterRun.instant_le_clock (run : LimiterRun past world) :
    ∀ attempt ∈ past, attempt.instant ≤ world.clock := by
  induction run with
  | fresh empty within => exact List.forall_mem_nil _
  | attempt run key limit window within ih =>
    rw [clock_on]
    exact List.forall_mem_cons.2 ⟨Int.le_refl _, ih⟩
  | revocation run only ih => rwa [clock_on]
  | sweep run ih => exact ih
  | wait run later ordered within ih =>
    intro attempt member
    exact Int.le_trans (ih attempt member) ordered

theorem LimiterRun.inOrder (run : LimiterRun past world) : InOrder past := by
  induction run with
  | fresh empty within => exact List.Pairwise.nil
  | attempt run key limit window within ih => exact List.pairwise_cons.2 ⟨run.instant_le_clock, ih⟩
  | revocation run only ih => exact ih
  | sweep run ih => exact ih
  | wait run later ordered within ih => exact ih

end Run

/-! ## The counter of a key -/

/-- What a world holds at a key whose attempts have the given windows: nothing before the first of
them, and then the number of attempts in the current window, until that ends. -/
inductive Counted (key : String) (world : World) : List RateWindow → Prop where
  | untried (absent : world.keyValue.get? (windowKeyStart ++ key) = none) : Counted key world []
  | tried {current : RateWindow} {closed : List RateWindow}
      (held : Store.IsThereUntil (world.keyValue.get? (windowKeyStart ++ key))
        ⟨.counter current.attempts.length, current.ends⟩ current.ends world.clock) :
      Counted key world (current :: closed)

section Counted

variable {key : String} {world after : World} {windows : List RateWindow}

theorem Counted.of_kept (counted : Counted key world windows)
    (kept : KeepsKey (windowKeyStart ++ key) world after) (ordered : world.clock ≤ after.clock) :
    Counted key after windows := by
  cases counted with
  | untried absent => exact .untried (absent_of_kept kept absent)
  | tried held => exact .tried (held.of_kept decide_eq_true_iff kept ordered)

/-- Where the current window has ended, or there is none, nothing live is held. -/
theorem Counted.liveAt_eq_none (counted : Counted key world windows)
    (late : ∀ current ∈ windows.head?, current.ends ≤ world.clock) :
    world.keyValue.liveAt world.clock (windowKeyStart ++ key) = none := by
  rw [Store.KeyValue.liveAt]
  cases counted with
  | untried absent =>
    rw [absent]
    rfl
  | @tried current closed held =>
    have ended := Instant.not_lt.2 (late current rfl)
    rcases held with there | ⟨absent, _⟩
    · rw [there]
      exact Option.filter_some_neg (decide_eq_false ended)
    · rw [absent]
      rfl

/-- Before the current window has ended, its counter is live. -/
theorem Counted.liveAt_eq_some {current : RateWindow} {closed : List RateWindow}
    (counted : Counted key world (current :: closed)) (early : world.clock < current.ends) :
    world.keyValue.liveAt world.clock (windowKeyStart ++ key) =
      some ⟨.counter current.attempts.length, current.ends⟩ := by
  cases counted with
  | tried held =>
    rcases held with there | ⟨_, ended⟩
    · exact Store.KeyValue.liveAt_eq_some_iff.2 ⟨there, early⟩
    · exact absurd early (Instant.not_lt.2 ended)

end Counted

/-! ## One attempt more -/

/-- What a run holds at a key, and what its attempts on the key came to. -/
structure KeepsWindows (key : String) (past : List Attempt) (world : World) : Prop where
  counted : Counted key world (windowsOf (attemptsOn key past))
  ranked : ∀ window ∈ windowsOf (attemptsOn key past), Ranked window.attempts

section Step

variable {key : String} {past : List Attempt} {world after : World}

theorem KeepsWindows.of_kept (keeps : KeepsWindows key past world)
    (kept : KeepsKey (windowKeyStart ++ key) world after) (ordered : world.clock ≤ after.clock) :
    KeepsWindows key past after :=
  ⟨keeps.counted.of_kept kept ordered, keeps.ranked⟩

theorem KeepsWindows.on (keeps : KeepsWindows key past world) {α : Type} {operation : Operation α}
    (spares : operation.Only (Action.SparesKey (windowKeyStart ++ key))) :
    KeepsWindows key past (operation.on world).2 := by
  refine keeps.of_kept (keepsKey_of_spares spares rfl) ?_
  rw [clock_on]
  exact Int.le_refl _

/-- An attempt on another key changes nothing at this one. -/
theorem KeepsWindows.attempt_of_ne (keeps : KeepsWindows key past world) {other : String}
    (differs : other ≠ key) (limit : Nat) (window : Duration) :
    KeepsWindows key (world.attempt other limit window :: past)
      ((allow other limit window).on world).2 := by
  have same : attemptsOn key (world.attempt other limit window :: past) = attemptsOn key past :=
    List.filter_cons_of_neg fun same => differs (of_decide_eq_true same)
  have spares : (allow other limit window).Only (Action.SparesKey (windowKeyStart ++ key)) :=
    only_bind (only_call fun equal => differs ((String.append_right_inj _).1 equal).symm)
      fun _ => only_pure _
  have kept := keeps.on spares
  exact ⟨same ▸ kept.counted, same ▸ kept.ranked⟩

/-- An attempt on the key is counted in its window and allowed by its number there. -/
theorem KeepsWindows.attempt (keeps : KeepsWindows key past world) (limit : Nat) {window : Duration}
    (here : world.clock.isRepresentable = true)
    (there : (window.after world.clock).isRepresentable = true) :
    KeepsWindows key (world.attempt key limit window :: past) ((allow key limit window).on world).2 := by
  have same : attemptsOn key (world.attempt key limit window :: past) =
      world.attempt key limit window :: attemptsOn key past :=
    List.filter_cons_of_pos (decide_eq_true rfl)
  have grouped := grouped_windowsOf (world.attempt key limit window) (attemptsOn key past)
  obtain ⟨counted, ranked⟩ := keeps
  rw [← same] at grouped
  suffices both : Counted key ((allow key limit window).on world).2
        (windowsOf (attemptsOn key (world.attempt key limit window :: past))) ∧
      ∀ group ∈ windowsOf (attemptsOn key (world.attempt key limit window :: past)),
        Ranked group.attempts from ⟨both.1, both.2⟩
  generalize windowsOf (attemptsOn key (world.attempt key limit window :: past)) = windows
    at grouped ⊢
  cases grouped with
  | @joins current closed before early =>
    rw [before] at counted ranked
    obtain ⟨currentRanked, closedRanked⟩ := List.forall_mem_cons.1 ranked
    have allowed : (allow key limit window).on world = _ :=
      Service.on_allow (Store.KeyValue.count_of_live (counted.liveAt_eq_some early))
    refine ⟨.tried (Or.inl ?_), List.forall_mem_cons.2 ⟨ranked_cons.2 ⟨?_, currentRanked⟩,
      closedRanked⟩⟩
    · rw [allowed]
      exact Store.Table.get?_insert_self _ _ _
    · exact congrArg Prod.fst allowed
  | opens late =>
    have allowed : (allow key limit window).on world = _ :=
      Service.on_allow (Store.KeyValue.count_of_lapsed (counted.liveAt_eq_none late)
        (Store.expiry_of_isRepresentable here there))
    refine ⟨.tried (Or.inl ?_), List.forall_mem_cons.2 ⟨ranked_cons.2 ⟨?_, ?_⟩, ranked⟩⟩
    · rw [allowed]
      exact Store.Table.get?_insert_self _ _ _
    · exact congrArg Prod.fst allowed
    · intro later attempt earlier split
      simp at split

end Step

theorem LimiterRun.keeps {past : List Attempt} {world : World} (run : LimiterRun past world)
    (key : String) : KeepsWindows key past world := by
  induction run with
  | fresh empty within =>
    refine ⟨.untried ?_, List.forall_mem_nil _⟩
    rw [empty, Store.Table.get?_empty]
  | attempt run other limit window within ih =>
    by_cases same : other = key
    · subst same
      exact ih.attempt limit run.isRepresentable within
    · exact ih.attempt_of_ne same limit window
  | @revocation past world run α operation only ih =>
    have spares : operation.Only (Action.SparesKey (windowKeyStart ++ key)) := by
      intro past
      refine (only past).mono (fun _ action allowed => ?_) fun _ _ _ => trivial
      cases action with
      | store call =>
        cases call with
        | mark other text lifetime =>
          obtain ⟨token, rfl⟩ := allowed
          exact windowKeyStart_ne_markKey key token
        | count other window => exact allowed.elim
        | _ => trivial
      | _ => trivial
    exact ih.on spares
  | sweep run ih => exact ih.of_kept (Or.inr Store.KeyValue.get?_purge) (Int.le_refl _)
  | wait run later ordered within ih => exact ih.of_kept (Or.inl rfl) ordered

/-! ## The limiter -/

/-- What counting in fixed windows means for the attempts on one key, latest first. -/
structure FixedWindows (attempts : List Attempt) : Prop where
  /-- The windows hold all attempts, in their order. -/
  grouped : (windowsOf attempts).flatMap RateWindow.attempts = attempts
  /-- An attempt is allowed exactly if its number in its window is within its limit. -/
  ranked : ∀ window ∈ windowsOf attempts, ∀ later attempt earlier,
    window.attempts = later ++ attempt :: earlier →
      attempt.outcome = .ok (.ok (decide (earlier.length + 1 ≤ attempt.limit)))
  /-- With one limit, no window allows more. -/
  perWindow : ∀ limit, (∀ attempt ∈ attempts, attempt.limit = limit) →
    ∀ window ∈ windowsOf attempts, window.attempts.countP Attempt.isAllowed ≤ limit
  /-- With one limit and one length, no interval of that length allows more than twice as many. -/
  perInterval : ∀ limit length,
    (∀ attempt ∈ attempts, attempt.limit = limit ∧ attempt.window = length) →
      ∀ start : Instant,
        attempts.countP (Attempt.isAllowedIn start (length.after start)) ≤ 2 * limit
  /-- A window without a length holds one attempt. -/
  alone : ∀ window ∈ windowsOf attempts, window.opener.window = ⟨0⟩ →
    window.attempts = [window.opener]

/-- **The limiter counts in fixed windows**, on every key of every run. -/
theorem LimiterRun.fixedWindows {past : List Attempt} {world : World}
    (run : LimiterRun past world) (key : String) : FixedWindows (attemptsOn key past) := by
  have ordered : InOrder (attemptsOn key past) := run.inOrder.sublist List.filter_sublist
  have ranked := (run.keeps key).ranked
  have few (limit : Nat) (constant : ∀ attempt ∈ attemptsOn key past, attempt.limit = limit) :
      ∀ window ∈ windowsOf (attemptsOn key past),
        window.attempts.countP Attempt.isAllowed ≤ limit := by
    intro window inside
    rw [(ranked window inside).countP_isAllowed fun attempt member =>
      constant attempt (mem_of_mem_windowsOf inside member)]
    exact Nat.min_le_left _ _
  refine ⟨flatMap_attempts_windowsOf _, ranked, few, fun limit length constant start => ?_,
    fun window inside zero => ?_⟩
  · have counted : ((windowsOf (attemptsOn key past)).flatMap RateWindow.attempts).countP
        (Attempt.isAllowedIn start (length.after start)) ≤ 2 * limit :=
      countP_interval_le (windowsOf_pairwise_apart ordered)
        (few limit fun attempt member => (constant attempt member).1) fun window inside =>
          (constant _ (mem_of_mem_windowsOf inside window.opener_mem_attempts)).2
    rwa [flatMap_attempts_windowsOf] at counted
  · rw [RateWindow.attempts, joined_eq_nil_of_zero ordered inside zero, List.nil_append]

/-- With a limit of two for a second, a third attempt is turned down, and an attempt at the very end
of the second opens a window, with a question about a mark and a sweep in between. -/
theorem Sample.fixedWindows_third_refused :
    ∃ (past : List Attempt) (world : World), LimiterRun past world ∧
      past.map Attempt.isAllowed = [true, false, true, true] ∧
      (windowsOf (attemptsOn "dana" past)).length = 2 ∧
      FixedWindows (attemptsOn "dana" past) := by
  have start : LimiterRun [] world := .fresh rfl (by decide)
  have first := start.attempt "dana" 2 (.ofSeconds 1) (by decide)
  have second := (first.revocation (isRevoked_isRevocation "")).attempt "dana" 2 (.ofSeconds 1)
    (by decide)
  have third := second.attempt "dana" 2 (.ofSeconds 1) (by decide)
  have waited := third.wait (.ofSeconds 1700000001) (by decide) (by decide)
  have fourth := waited.sweep.attempt "dana" 2 (.ofSeconds 1) (by decide)
  exact ⟨_, _, fourth, by decide, by decide, fourth.fixedWindows "dana"⟩

end SignOn.Engine
