import SignOn.Time.Instant

/-!
# Whole seconds and instants

What lapses at a whole second and what lapses at an instant are compared through the last whole
second before an instant: it is below a number of seconds exactly when the instant is before that
second (`seconds_lt_iff`).
-/

namespace SignOn

set_option autoImplicit false

namespace Instant

variable {now later : Instant}

theorem le_def : now ≤ later ↔ now.nanoseconds ≤ later.nanoseconds := Iff.rfl

theorem lt_def : now < later ↔ now.nanoseconds < later.nanoseconds := Iff.rfl

theorem not_lt : ¬ now < later ↔ later ≤ now := Int.not_lt

theorem isRepresentable_iff :
    now.isRepresentable = true ↔ firstSecond ≤ now.seconds ∧ now.seconds ≤ lastSecond := by
  rw [isRepresentable, Bool.and_eq_true, decide_eq_true_iff, decide_eq_true_iff]

@[simp] theorem seconds_ofSeconds (second : Int) : (ofSeconds second).seconds = second := by
  simp only [seconds, ofSeconds]
  omega

theorem isRepresentable_ofSeconds_iff {second : Int} :
    (ofSeconds second).isRepresentable = true ↔ firstSecond ≤ second ∧ second ≤ lastSecond := by
  rw [isRepresentable_iff, seconds_ofSeconds]

theorem seconds_nonneg (natural : 0 ≤ now.nanoseconds) : 0 ≤ now.seconds :=
  Int.ediv_nonneg natural (by decide)

theorem seconds_lt_iff {second : Int} : now.seconds < second ↔ now < ofSeconds second := by
  simp only [lt_def, seconds, ofSeconds]
  omega

theorem seconds_le_seconds (ordered : now ≤ later) : now.seconds ≤ later.seconds := by
  rw [le_def] at ordered
  rw [seconds, seconds]
  omega

theorem ofSeconds_seconds_le (now : Instant) : ofSeconds now.seconds ≤ now := by
  simp only [le_def, ofSeconds, seconds]
  omega

theorem lt_ofSeconds_succ_seconds (now : Instant) : now < ofSeconds (now.seconds + 1) :=
  seconds_lt_iff.1 (Int.lt_succ _)

theorem subsecond_lt (now : Instant) : now.subsecond < 1000000000 := by
  rw [subsecond]
  omega

theorem seconds_mul_add_subsecond (now : Instant) :
    (⟨now.seconds * 1000000000 + now.subsecond⟩ : Instant) = now := by
  rw [Instant.mk.injEq, seconds, subsecond]
  omega

/-- Whole seconds are added to an instant as they are to its last whole second. -/
theorem seconds_after_ofSeconds (now : Instant) (time : Nat) :
    ((Duration.ofSeconds time).after now).seconds = now.seconds + time := by
  simp only [seconds, Duration.after, Duration.ofSeconds]
  omega

theorem le_after (now : Instant) (time : Duration) : now ≤ time.after now := by
  simp only [le_def, Duration.after]
  omega

/-- An instant whose last whole second is before the end of a lifetime, counted in whole seconds, is
before the end of the lifetime. -/
theorem lt_after (lifetime : Duration)
    (live : later.seconds < now.seconds + lifetime.seconds) : later < lifetime.after now := by
  simp only [lt_def, Duration.after]
  simp only [seconds, Duration.seconds] at live
  omega

/-- The time left until a later instant leads there. -/
theorem after_toNat_sub (ordered : now ≤ later) :
    Duration.after ⟨(later.nanoseconds - now.nanoseconds).toNat⟩ now = later := by
  rw [le_def] at ordered
  have sum : now.nanoseconds + (later.nanoseconds - now.nanoseconds) = later.nanoseconds := by omega
  rw [Duration.after, Int.toNat_of_nonneg (by omega), sum]

end Instant

@[simp] theorem Duration.seconds_ofSeconds (time : Nat) : (ofSeconds time).seconds = time := by
  rw [seconds, ofSeconds, Nat.mul_div_cancel _ (by decide)]

end SignOn
