import SignOn.Engine.Limiter
import SignOn.Engine.World
import SignOn.Proofs.Time.Instant

/-!
# Attempts in windows

The attempts on one key fall into windows.  An attempt that comes before the current window has
ended joins it and does not move its end; any other attempt opens a window, which ends its own
length after it (`windowsOf`).  This is a grouping of the attempts alone, which knows nothing of
the store that counts them.

Attempts that were made in the order of time are grouped into windows that lie apart
(`windowsOf_pairwise_apart`).  If, in addition, each is allowed exactly by its number in its window,
then with one limit for all no window allows more, and with one length for all no interval of that
length allows more than twice as many (`countP_interval_le`).
-/

namespace SignOn.Engine

set_option autoImplicit false

/-! ## Attempts and windows -/

/-- A call of the limiter, with the instant at which it was made and what came of it. -/
structure Attempt where
  key : String
  limit : Nat
  window : Duration
  instant : Instant
  outcome : Except CalendarEnd (Except Failure Bool)

namespace Attempt

/-- Whether an attempt was allowed. -/
def isAllowed (attempt : Attempt) : Bool :=
  match attempt.outcome with
  | .ok (.ok allowed) => allowed
  | _ => false

/-- Whether an attempt was allowed, from one instant on and before another. -/
def isAllowedIn (start stop : Instant) (attempt : Attempt) : Bool :=
  attempt.isAllowed && decide (start ≤ attempt.instant) && decide (attempt.instant < stop)

theorem isAllowedIn_iff {start stop : Instant} {attempt : Attempt} :
    attempt.isAllowedIn start stop = true ↔
      attempt.isAllowed = true ∧ start ≤ attempt.instant ∧ attempt.instant < stop := by
  simp only [isAllowedIn, Bool.and_eq_true, decide_eq_true_eq, and_assoc]

end Attempt

/-- A window of attempts: the one that opened it and the others, latest first. -/
structure RateWindow where
  opener : Attempt
  joined : List Attempt

namespace RateWindow

/-- A window ends its opener's length after its opener. -/
def ends (window : RateWindow) : Instant :=
  window.opener.window.after window.opener.instant

/-- All attempts of a window, latest first. -/
def attempts (window : RateWindow) : List Attempt :=
  window.joined ++ [window.opener]

/-- The window with one more attempt. -/
def join (window : RateWindow) (attempt : Attempt) : RateWindow :=
  { window with joined := attempt :: window.joined }

theorem attempts_join (window : RateWindow) (attempt : Attempt) :
    (window.join attempt).attempts = attempt :: window.attempts := rfl

theorem opener_mem_attempts (window : RateWindow) : window.opener ∈ window.attempts :=
  List.mem_append_right _ (List.mem_singleton.2 rfl)

end RateWindow

/-- The windows of attempts on one key.  Attempts and windows are listed latest first. -/
def windowsOf : List Attempt → List RateWindow
  | [] => []
  | attempt :: past =>
      match windowsOf past with
      | [] => [⟨attempt, []⟩]
      | current :: closed =>
          if attempt.instant < current.ends then current.join attempt :: closed
          else ⟨attempt, []⟩ :: current :: closed

/-- What one more attempt does to the windows. -/
inductive Grouped (attempt : Attempt) (past : List Attempt) : List RateWindow → Prop where
  | joins {current : RateWindow} {closed : List RateWindow}
      (before : windowsOf past = current :: closed) (early : attempt.instant < current.ends) :
      Grouped attempt past (current.join attempt :: closed)
  | opens (late : ∀ current ∈ (windowsOf past).head?, current.ends ≤ attempt.instant) :
      Grouped attempt past (⟨attempt, []⟩ :: windowsOf past)

theorem grouped_windowsOf (attempt : Attempt) (past : List Attempt) :
    Grouped attempt past (windowsOf (attempt :: past)) := by
  rw [windowsOf]
  cases before : windowsOf past with
  | nil =>
    have opens : Grouped attempt past (⟨attempt, []⟩ :: windowsOf past) :=
      .opens (by simp [before])
    rwa [before] at opens
  | cons current closed =>
    by_cases early : attempt.instant < current.ends
    · simp only [if_pos early]
      exact .joins before early
    · have opens : Grouped attempt past (⟨attempt, []⟩ :: windowsOf past) :=
        .opens (by simpa [before] using Instant.not_lt.1 early)
      rw [before] at opens
      simpa only [if_neg early] using opens

/-- Grouping loses no attempt and keeps their order. -/
theorem flatMap_attempts_windowsOf (attempts : List Attempt) :
    (windowsOf attempts).flatMap RateWindow.attempts = attempts := by
  induction attempts with
  | nil => rfl
  | cons attempt past ih =>
    have grouped := grouped_windowsOf attempt past
    generalize windowsOf (attempt :: past) = windows at grouped ⊢
    cases grouped with
    | joins before early =>
      rw [before] at ih
      rw [List.flatMap_cons] at ih ⊢
      rw [RateWindow.attempts_join, List.cons_append, ih]
    | opens late =>
      rw [List.flatMap_cons, ih]
      rfl

theorem mem_of_mem_windowsOf {attempts : List Attempt} {window : RateWindow} {attempt : Attempt}
    (inside : window ∈ windowsOf attempts) (member : attempt ∈ window.attempts) :
    attempt ∈ attempts := by
  rw [← flatMap_attempts_windowsOf attempts]
  exact List.mem_flatMap.2 ⟨window, inside, member⟩

/-- Whoever joins a window comes before its end. -/
theorem instant_lt_ends {attempts : List Attempt} {window : RateWindow}
    (inside : window ∈ windowsOf attempts) {attempt : Attempt} (member : attempt ∈ window.joined) :
    attempt.instant < window.ends := by
  induction attempts generalizing window attempt with
  | nil => cases inside
  | cons latest past ih =>
    have grouped := grouped_windowsOf latest past
    generalize windowsOf (latest :: past) = windows at grouped inside
    cases grouped with
    | joins before early =>
      rw [before] at ih
      rcases List.mem_cons.1 inside with rfl | inside
      · rcases List.mem_cons.1 member with rfl | member
        · exact early
        · exact ih List.mem_cons_self member
      · exact ih (List.mem_cons_of_mem _ inside) member
    | opens late =>
      rcases List.mem_cons.1 inside with rfl | inside
      · cases member
      · exact ih inside member

/-! ## Attempts in the order of time -/

/-- Attempts, latest first, that were made in the order of time. -/
def InOrder (attempts : List Attempt) : Prop :=
  attempts.Pairwise fun later earlier => earlier.instant ≤ later.instant

/-- One window lies apart from an earlier one: nothing in it comes before the earlier one has ended,
nor before anything in that. -/
def RateWindow.Apart (later earlier : RateWindow) : Prop :=
  (∀ attempt ∈ later.attempts, earlier.ends ≤ attempt.instant) ∧
    ∀ attempt ∈ later.attempts, ∀ former ∈ earlier.attempts, former.instant ≤ attempt.instant

section InOrder

variable {attempts : List Attempt}

theorem InOrder.window (ordered : InOrder attempts) {window : RateWindow}
    (inside : window ∈ windowsOf attempts) : InOrder window.attempts := by
  rw [InOrder, ← flatMap_attempts_windowsOf attempts, List.pairwise_flatMap] at ordered
  exact ordered.1 window inside

/-- An attempt that opens a window comes after the ends of all windows before it. -/
theorem ends_le_of_opens {attempt : Attempt} {past : List Attempt}
    (ordered : InOrder (attempt :: past))
    (late : ∀ current ∈ (windowsOf past).head?, current.ends ≤ attempt.instant)
    (apart : (windowsOf past).Pairwise RateWindow.Apart) {window : RateWindow}
    (inside : window ∈ windowsOf past) : window.ends ≤ attempt.instant := by
  have earlier := (List.pairwise_cons.1 ordered).1
  cases before : windowsOf past with
  | nil =>
    rw [before] at inside
    cases inside
  | cons current closed =>
    have opened := earlier current.opener (mem_of_mem_windowsOf
      (before ▸ List.mem_cons_self) current.opener_mem_attempts)
    rw [before] at inside late apart
    rcases List.mem_cons.1 inside with rfl | closedBefore
    · exact late _ rfl
    · have ended := ((List.pairwise_cons.1 apart).1 window closedBefore).1 _
        current.opener_mem_attempts
      exact Int.le_trans ended opened

/-- The windows of attempts in order lie apart. -/
theorem windowsOf_pairwise_apart (ordered : InOrder attempts) :
    (windowsOf attempts).Pairwise RateWindow.Apart := by
  induction attempts with
  | nil => exact List.Pairwise.nil
  | cons attempt past ih =>
    have apart := ih (List.pairwise_cons.1 ordered).2
    have earlier := (List.pairwise_cons.1 ordered).1
    have grouped := grouped_windowsOf attempt past
    generalize windowsOf (attempt :: past) = windows at grouped ⊢
    cases grouped with
    | @joins current closed before early =>
      rw [before] at apart
      obtain ⟨lastApart, closedApart⟩ := List.pairwise_cons.1 apart
      have opened := earlier current.opener (mem_of_mem_windowsOf
        (before ▸ List.mem_cons_self) current.opener_mem_attempts)
      refine List.pairwise_cons.2 ⟨fun window inside => ?_, closedApart⟩
      obtain ⟨ended, after⟩ := lastApart window inside
      refine ⟨List.forall_mem_cons.2 ⟨?_, ended⟩, List.forall_mem_cons.2 ⟨?_, after⟩⟩
      · exact Int.le_trans (ended _ current.opener_mem_attempts) opened
      · intro former member
        exact Int.le_trans (after _ current.opener_mem_attempts former member) opened
    | opens late =>
      refine List.pairwise_cons.2 ⟨fun window inside => ?_, apart⟩
      refine ⟨List.forall_mem_singleton.2 (ends_le_of_opens ordered late apart inside), ?_⟩
      refine List.forall_mem_singleton.2 fun former member => ?_
      exact earlier former (mem_of_mem_windowsOf inside member)

/-- Nobody joins a window without a length. -/
theorem joined_eq_nil_of_zero (ordered : InOrder attempts) {window : RateWindow}
    (inside : window ∈ windowsOf attempts) (zero : window.opener.window = ⟨0⟩) :
    window.joined = [] := by
  refine List.eq_nil_iff_forall_not_mem.2 fun attempt member => ?_
  have early := instant_lt_ends inside member
  have late := (List.pairwise_append.1 (ordered.window inside)).2.2 attempt member
    window.opener (List.mem_singleton.2 rfl)
  rw [RateWindow.ends, zero, Duration.after, Instant.lt_def] at early
  rw [Instant.le_def] at late
  simp only at early
  omega

end InOrder

/-! ## Attempts allowed by their number -/

/-- Of some attempts on one window, latest first, each is allowed exactly if its number in the
window, counted from one, is within its limit. -/
def Ranked (attempts : List Attempt) : Prop :=
  ∀ later attempt earlier, attempts = later ++ attempt :: earlier →
    attempt.outcome = .ok (.ok (decide (earlier.length + 1 ≤ attempt.limit)))

theorem ranked_cons {attempt : Attempt} {earlier : List Attempt} :
    Ranked (attempt :: earlier) ↔
      attempt.outcome = .ok (.ok (decide (earlier.length + 1 ≤ attempt.limit))) ∧
        Ranked earlier := by
  constructor
  · intro ranked
    refine ⟨ranked [] attempt earlier rfl, fun later inner rest split => ?_⟩
    exact ranked (attempt :: later) inner rest (by rw [split, List.cons_append])
  · rintro ⟨first, others⟩ later inner rest split
    rcases List.cons_eq_append_iff.1 split with ⟨rfl, same⟩ | ⟨later, rfl, same⟩
    · obtain ⟨rfl, rfl⟩ := List.cons.inj same
      exact first
    · exact others later inner rest same

/-- With one limit for all, exactly the first attempts up to the limit are allowed. -/
theorem Ranked.countP_isAllowed {attempts : List Attempt} (ranked : Ranked attempts) {limit : Nat}
    (constant : ∀ attempt ∈ attempts, attempt.limit = limit) :
    attempts.countP Attempt.isAllowed = min limit attempts.length := by
  induction attempts with
  | nil => simp
  | cons attempt earlier ih =>
    obtain ⟨outcome, others⟩ := ranked_cons.1 ranked
    obtain ⟨same, constant⟩ := List.forall_mem_cons.1 constant
    have allowed : attempt.isAllowed = decide (earlier.length + 1 ≤ limit) := by
      rw [Attempt.isAllowed, outcome, same]
    rw [List.countP_cons, ih others constant, allowed, List.length_cons]
    by_cases within : earlier.length + 1 ≤ limit
    · simp only [within, decide_true, if_true]
      omega
    · simp only [within, decide_false, Bool.false_eq_true, if_false]
      omega

/-! ## Attempts in an interval of time -/

section Interval

variable {windows : List RateWindow} {limit : Nat} {start stop : Instant}

theorem countP_isAllowedIn_le {window : RateWindow}
    (few : window.attempts.countP Attempt.isAllowed ≤ limit) :
    window.attempts.countP (Attempt.isAllowedIn start stop) ≤ limit :=
  Nat.le_trans (List.countP_mono_left fun _ _ allowed => (Attempt.isAllowedIn_iff.1 allowed).1) few

/-- Of windows that were opened before an interval begins only the last has attempts in it. -/
theorem countP_le_of_opened_before (apart : windows.Pairwise RateWindow.Apart)
    (few : ∀ window ∈ windows, window.attempts.countP Attempt.isAllowed ≤ limit)
    (opened : ∀ window ∈ windows, window.opener.instant < start) :
    (windows.flatMap RateWindow.attempts).countP (Attempt.isAllowedIn start stop) ≤ limit := by
  cases windows with
  | nil => simp
  | cons window closed =>
    have none : (closed.flatMap RateWindow.attempts).countP (Attempt.isAllowedIn start stop) = 0 := by
      refine List.countP_eq_zero.2 fun attempt member allowed => ?_
      obtain ⟨former, inside, member⟩ := List.mem_flatMap.1 member
      have before := ((List.pairwise_cons.1 apart).1 former inside).2 _ window.opener_mem_attempts
        attempt member
      have late := (Attempt.isAllowedIn_iff.1 allowed).2.1
      have early := opened window List.mem_cons_self
      rw [Instant.le_def] at before late
      rw [Instant.lt_def] at early
      omega
    rw [List.flatMap_cons, List.countP_append, none]
    exact countP_isAllowedIn_le (few window List.mem_cons_self)

/-- Attempts in windows of one length that lie apart: an interval of that length meets two windows
at most. -/
theorem countP_interval_le {length : Duration} (apart : windows.Pairwise RateWindow.Apart)
    (few : ∀ window ∈ windows, window.attempts.countP Attempt.isAllowed ≤ limit)
    (constant : ∀ window ∈ windows, window.opener.window = length) :
    (windows.flatMap RateWindow.attempts).countP
      (Attempt.isAllowedIn start (length.after start)) ≤ 2 * limit := by
  induction windows with
  | nil => simp
  | cons window closed ih =>
    obtain ⟨lastApart, closedApart⟩ := List.pairwise_cons.1 apart
    obtain ⟨lastFew, closedFew⟩ := List.forall_mem_cons.1 few
    obtain ⟨_, closedConstant⟩ := List.forall_mem_cons.1 constant
    rw [List.flatMap_cons, List.countP_append]
    by_cases none : window.attempts.countP (Attempt.isAllowedIn start (length.after start)) = 0
    · rw [none, Nat.zero_add]
      exact ih closedApart closedFew closedConstant
    · -- An attempt of the last window lies in the interval, so no window before it was opened there.
      obtain ⟨attempt, member, allowed⟩ := List.countP_pos_iff.1 (Nat.pos_of_ne_zero none)
      have early := (Attempt.isAllowedIn_iff.1 allowed).2.2
      have opened : ∀ former ∈ closed, former.opener.instant < start := by
        intro former inside
        have ended := (lastApart former inside).1 attempt member
        rw [RateWindow.ends, closedConstant former inside, Duration.after, Instant.le_def] at ended
        rw [Duration.after, Instant.lt_def] at early
        rw [Instant.lt_def]
        simp only at ended early
        omega
      have last : window.attempts.countP (Attempt.isAllowedIn start (length.after start)) ≤ limit :=
        countP_isAllowedIn_le lastFew
      have others : (closed.flatMap RateWindow.attempts).countP
          (Attempt.isAllowedIn start (length.after start)) ≤ limit :=
        countP_le_of_opened_before closedApart closedFew opened
      omega

end Interval

end SignOn.Engine
