import Mathlib.Tactic.ByContra
import Mathlib.Tactic.SplitIfs
import SignOn.Time.Calendar

/-!
# Days and dates

Every number of days leads to a date that exists (`isValid_ofDays`), and that date leads back to the
number (`toDays_ofDays`).  The years of an era of four hundred are counted from March, so a year that
is one day longer than the others ends with the leap day of the calendar year in which it ends
(`liesIn_yearOfDay`).
-/

namespace SignOn.Date

set_option autoImplicit false

/-! ## Dates that exist -/

theorem isValid_iff {date : Date} :
    date.isValid = true ↔ (1 ≤ date.month ∧ date.month ≤ 12) ∧
      1 ≤ date.day ∧ date.day ≤ daysInMonth date.year date.month := by
  simp only [isValid, Bool.and_eq_true, decide_eq_true_eq, and_assoc]

/-- A date that exists lies within twelve months of at most thirty-one days. -/
theorem le_of_isValid {date : Date} (valid : date.isValid = true) :
    date.month ≤ 12 ∧ date.day ≤ 31 := by
  obtain ⟨⟨_, december⟩, _, last⟩ := isValid_iff.1 valid
  refine ⟨december, Nat.le_trans last ?_⟩
  unfold daysInMonth
  split_ifs <;> decide

/-! ## The years of an era -/

/-- The number of days of an era before one of its years. -/
def daysBefore (yearOfEra : Int) : Int :=
  365 * yearOfEra + yearOfEra / 4 - yearOfEra / 100

/-- The year of an era that a day of the era lies in. -/
def yearOfDay (dayOfEra : Int) : Int :=
  (dayOfEra - dayOfEra / 1460 + dayOfEra / 36524 - dayOfEra / 146096) / 365

/-- A day of an era lies in one of its years. -/
structure LiesIn (dayOfEra yearOfEra : Int) : Prop where
  first : 0 ≤ yearOfEra
  last : yearOfEra < 400
  begun : daysBefore yearOfEra ≤ dayOfEra
  ended : dayOfEra ≤ daysBefore yearOfEra + 365
  /-- Only a year that ends in a leap year has so many days. -/
  leap : dayOfEra = daysBefore yearOfEra + 365 →
    (yearOfEra + 1) % 4 = 0 ∧ ((yearOfEra + 1) % 100 ≠ 0 ∨ (yearOfEra + 1) % 400 = 0)

theorem liesIn_yearOfDay {dayOfEra : Int} (first : 0 ≤ dayOfEra) (last : dayOfEra < 146097) :
    LiesIn dayOfEra (yearOfDay dayOfEra) := by
  obtain ⟨century, counted⟩ : ∃ century, century = dayOfEra / 36524 - dayOfEra / 146096 := ⟨_, rfl⟩
  obtain ⟨cycle, rest, split, least, greatest⟩ :
      ∃ cycle rest, dayOfEra = 1460 * cycle + rest ∧ 0 ≤ rest ∧ rest < 1460 :=
    ⟨dayOfEra / 1460, dayOfEra % 1460, by omega, by omega, by omega⟩
  -- The last of the four centuries of an era is longer by one day.
  have bounds : 0 ≤ century ∧ century ≤ 3 ∧ 36524 * century ≤ dayOfEra ∧
      dayOfEra ≤ 36524 * century + 36524 ∧
      (century < 3 → dayOfEra < 36524 * century + 36524) := by omega
  obtain ⟨year, named⟩ : ∃ year, yearOfDay dayOfEra = year := ⟨_, rfl⟩
  have quotient : (1459 * cycle + rest + century) / 365 = year := by
    rw [← named, yearOfDay]
    congr 1
    omega
  have ofCentury : year / 100 = century := by
    obtain rfl | rfl | rfl | rfl : century = 0 ∨ century = 1 ∨ century = 2 ∨ century = 3 := by omega
    all_goals omega
  have ofCycle : year / 4 = cycle ∨ year / 4 = cycle - 1 := by omega
  rw [named]
  clear named counted
  refine ⟨by omega, by omega, ?begun, ?ended, ?leap⟩
  case begun =>
    unfold daysBefore
    omega
  case ended =>
    unfold daysBefore
    omega
  case leap =>
    unfold daysBefore
    intro full
    have behind : year / 4 = cycle - 1 := by omega
    have ends : year + 1 = 4 * cycle := by omega
    refine ⟨by omega, ?_⟩
    -- Otherwise the year ends a century other than the last, which has no day to spare.
    by_contra! turn
    have turned : year + 1 = 100 * (century + 1) := by omega
    omega

/-! ## The days of a year -/

/-- The date of a day of a year of an era, all of them counted from March. -/
def ofParts (era yearOfEra dayOfYear : Int) : Date :=
  let monthFromMarch := (5 * dayOfYear + 2) / 153
  let month := if monthFromMarch < 10 then monthFromMarch + 3 else monthFromMarch - 9
  let year := yearOfEra + era * 400
  ⟨if month ≤ 2 then year + 1 else year, month.toNat,
    (dayOfYear - (153 * monthFromMarch + 2) / 5 + 1).toNat⟩

theorem ofDays_eq (days : Int) :
    ofDays days = ofParts ((days + 719468) / 146097) (yearOfDay ((days + 719468) % 146097))
      ((days + 719468) % 146097 - daysBefore (yearOfDay ((days + 719468) % 146097))) := rfl

section OfParts

variable {era yearOfEra dayOfYear : Int}

/-- The date of a day by the month it lies in, which is counted from March. -/
theorem ofParts_eq {month : Int} (counted : (5 * dayOfYear + 2) / 153 = month)
    (first : 0 ≤ month) (last : month ≤ 11) :
    ofParts era yearOfEra dayOfYear =
      if month < 10 then
        ⟨yearOfEra + era * 400, (month + 3).toNat, (dayOfYear - (153 * month + 2) / 5 + 1).toNat⟩
      else
        ⟨yearOfEra + era * 400 + 1, (month - 9).toNat,
          (dayOfYear - (153 * month + 2) / 5 + 1).toNat⟩ := by
  unfold ofParts
  simp only [counted]
  split
  · rw [if_neg (by omega)]
  · rw [if_pos (by omega)]

theorem isValid_ofParts (lies : LiesIn (daysBefore yearOfEra + dayOfYear) yearOfEra) :
    (ofParts era yearOfEra dayOfYear).isValid = true := by
  obtain ⟨first, last, begun, ended, leap⟩ := lies
  obtain ⟨month, counted⟩ : ∃ month, (5 * dayOfYear + 2) / 153 = month := ⟨_, rfl⟩
  have within : 0 ≤ month ∧ month ≤ 11 := by omega
  rw [ofParts_eq counted within.1 within.2, isValid_iff]
  split
  · -- From March to December the length of a month is the distance to the start of the next.
    dsimp only
    refine ⟨⟨by omega, by omega⟩, by omega, ?_⟩
    simp only [daysInMonth, Bool.or_eq_true, decide_eq_true_eq]
    rw [if_neg (by omega)]
    split <;> omega
  · dsimp only
    refine ⟨⟨by omega, by omega⟩, by omega, ?_⟩
    simp only [daysInMonth, isLeap, Bool.or_eq_true, Bool.and_eq_true, decide_eq_true_eq]
    obtain rfl | rfl : month = 10 ∨ month = 11 := by omega
    · rw [if_neg (by omega), if_neg (by omega)]
      omega
    · -- February ends the year.
      rw [if_pos (by omega)]
      split <;> omega

theorem toDays_ofParts (lies : LiesIn (daysBefore yearOfEra + dayOfYear) yearOfEra) :
    (ofParts era yearOfEra dayOfYear).toDays =
      era * 146097 + daysBefore yearOfEra + dayOfYear - 719468 := by
  obtain ⟨first, last, begun, ended, _⟩ := lies
  obtain ⟨month, counted⟩ : ∃ month, (5 * dayOfYear + 2) / 153 = month := ⟨_, rfl⟩
  have within : 0 ≤ month ∧ month ≤ 11 := by omega
  have begins : (153 * month + 2) / 5 ≤ dayOfYear := by omega
  have ofEra : (yearOfEra + era * 400) / 400 = era := by omega
  have inEra : (yearOfEra + era * 400) % 400 = yearOfEra := by omega
  rw [ofParts_eq counted within.1 within.2]
  split
  · have back : (((month + 3).toNat : Int) + 9) % 12 = month := by omega
    simp only [toDays, daysBefore]
    rw [if_neg (by omega), ofEra, inEra, back]
    omega
  · have back : (((month - 9).toNat : Int) + 9) % 12 = month := by omega
    simp only [toDays, daysBefore]
    rw [if_pos (by omega), Int.add_sub_cancel, ofEra, inEra, back]
    omega

end OfParts

/-! ## All days -/

theorem liesIn_ofDays (days : Int) :
    ∃ era yearOfEra dayOfYear, ofDays days = ofParts era yearOfEra dayOfYear ∧
      LiesIn (daysBefore yearOfEra + dayOfYear) yearOfEra ∧
      days = era * 146097 + daysBefore yearOfEra + dayOfYear - 719468 := by
  have lies := liesIn_yearOfDay (Int.emod_nonneg (days + 719468) (by decide : (146097 : Int) ≠ 0))
    (Int.emod_lt_of_pos _ (by decide))
  have whole (day before : Int) : before + (day - before) = day := by omega
  refine ⟨_, _, _, ofDays_eq days, ?_, by omega⟩
  rwa [whole]

/-- **The date of a number of days exists.** -/
theorem isValid_ofDays (days : Int) : (ofDays days).isValid = true := by
  obtain ⟨era, yearOfEra, dayOfYear, date, lies, _⟩ := liesIn_ofDays days
  rw [date, isValid_ofParts lies]

/-- **The date of a number of days leads back to it.** -/
theorem toDays_ofDays (days : Int) : (ofDays days).toDays = days := by
  obtain ⟨era, yearOfEra, dayOfYear, date, lies, counted⟩ := liesIn_ofDays days
  rw [date, toDays_ofParts lies, ← counted]

/-- The days of the calendar lie in its years. -/
theorem year_ofDays_mem {days : Int} (first : -96465292 ≤ days) (last : days ≤ 95026236) :
    -262143 ≤ (ofDays days).year ∧ (ofDays days).year ≤ 262142 := by
  obtain ⟨era, yearOfEra, dayOfYear, date, lies, counted⟩ := liesIn_ofDays days
  obtain ⟨begins, ends, begun, ended, _⟩ := lies
  have within : 0 ≤ (5 * dayOfYear + 2) / 153 ∧ (5 * dayOfYear + 2) / 153 ≤ 11 := by omega
  rw [date, ofParts_eq rfl within.1 within.2]
  unfold daysBefore at counted
  -- The calendar ends within an era.
  have inside : era < 655 ∨ era = 655 := by omega
  split
  · dsimp only
    omega
  · dsimp only
    obtain earlier | rfl := inside
    · omega
    · omega

end SignOn.Date
