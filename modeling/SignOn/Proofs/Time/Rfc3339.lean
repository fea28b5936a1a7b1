import SignOn.Proofs.Text.Digits
import SignOn.Proofs.Time.Calendar
import SignOn.Proofs.Time.Instant
import SignOn.Time.Rfc3339

/-!
# Timestamps and their texts

A timestamp is read back from its text exactly when it is one of the calendar
(`Timestamp.ofText?_text_iff`): its instant can be stored, and if it lies in a leap second, then that
second follows the last one of a minute.

The two halves meet at this condition.  Each field of the text of such a timestamp is read back as
it was written, the year with or without a sign and the fraction in any of its lengths, and the date
of a number of days leads back to it.  The other way, every timestamp that is read at all is one of
the calendar, for offsets from universal time are whole minutes and so leave a leap second where it
is (`Timestamp.onCalendar_of_ofText?`).
-/

namespace SignOn

set_option autoImplicit false

namespace Timestamp

open Text (StartsOtherwise paddedDigits)

/-- A timestamp that the calendar has: any instant that can be stored, to the nanosecond, and a
leap second only where there can be one. -/
structure OnCalendar (timestamp : Timestamp) : Prop where
  within : timestamp.instant.isRepresentable = true
  /-- A leap second follows the last second of a minute. -/
  leap : timestamp.inLeapSecond = true → timestamp.instant.seconds % 60 = 59

/-- Outside leap seconds the calendar has just the instants that can be stored. -/
theorem onCalendar_ofInstant_iff {instant : Instant} :
    (ofInstant instant).OnCalendar ↔ instant.isRepresentable = true :=
  ⟨OnCalendar.within, fun within => ⟨within, fun leap => nomatch leap⟩⟩

/-! ## Numbers -/

section Numbers

variable {width value : Nat} {rest : List Char}

/-- There are no blanks to skip in front of digits. -/
theorem skipBlanks_paddedDigits :
    skipBlanks (paddedDigits width value ++ rest) = paddedDigits width value ++ rest := by
  obtain ⟨first, others, digits, isDigit⟩ := Text.exists_paddedDigits_eq_cons width value
  rw [skipBlanks, digits, List.cons_append, List.dropWhile_cons_of_neg]
  rw [Text.not_isBlank_of_isDigit isDigit]
  decide

theorem unsigned_paddedDigits {most : Nat} (fits : (paddedDigits width value).length ≤ most)
    (otherwise : StartsOtherwise rest) :
    readYear.unsigned most (paddedDigits width value ++ rest) = some (value, rest) := by
  simp only [readYear.unsigned, Text.takeDigits_append (Text.paddedDigits_isDigit _ _) fits otherwise,
    Text.ofDigits?_paddedDigits, Option.map_some]

theorem readNumber_paddedDigits (positive : 0 < width) (fits : value < 10 ^ width)
    (otherwise : StartsOtherwise rest) :
    readNumber width (paddedDigits width value ++ rest) = some (value, rest) := by
  have long := Text.length_paddedDigits positive fits
  have unblanked (characters : List Char) :
      readNumber width characters = readYear.unsigned width (skipBlanks characters) := rfl
  rw [unblanked, skipBlanks_paddedDigits, unsigned_paddedDigits long.le otherwise]

/-- Two digits end where a mark follows. -/
theorem readNumber_marked (fits : value < 100) {mark : Char} (otherwise : mark.isDigit = false)
    (rest : List Char) :
    readNumber 2 (paddedDigits 2 value ++ mark :: rest) = some (value, mark :: rest) :=
  readNumber_paddedDigits (by decide) fits otherwise

/-- A year without a sign has four digits. -/
theorem readYear_paddedDigits (fits : value < 10 ^ 4) (otherwise : StartsOtherwise rest) :
    readYear (paddedDigits 4 value ++ rest) = some ((value : Int), rest) := by
  have long := Text.length_paddedDigits (by decide) fits
  obtain ⟨first, others, digits, isDigit⟩ := Text.exists_paddedDigits_eq_cons 4 value
  have unsigned {sign : Char} {more : List Char}
      (same : paddedDigits 4 value ++ rest = sign :: more) : sign.isDigit = true := by
    rw [digits] at same
    rwa [← (List.cons.inj same).1]
  rw [readYear, skipBlanks_paddedDigits]
  split
  · next same => exact absurd (unsigned same) (by decide)
  · next same => exact absurd (unsigned same) (by decide)
  · rw [unsigned_paddedDigits long.le otherwise, Option.map_some]

theorem readYear_yearText (year : Int) (otherwise : StartsOtherwise rest) :
    readYear (yearText year ++ rest) = some (year, rest) := by
  -- After a sign the digits may be as many as there are.
  have room (value : Nat) :
      (paddedDigits 4 value).length ≤ (paddedDigits 4 value ++ rest).length := by
    rw [List.length_append]
    omega
  rw [yearText]
  split_ifs with short negative
  · have natural : (year.toNat : Int) = year := Int.toNat_of_nonneg short.1
    rw [readYear_paddedDigits (by omega) otherwise, natural]
  · have signed : -(year.natAbs : Int) = year := by omega
    have skip : skipBlanks ('-' :: (paddedDigits 4 year.natAbs ++ rest)) =
        '-' :: (paddedDigits 4 year.natAbs ++ rest) := rfl
    rw [List.cons_append, readYear, skip]
    simp only [unsigned_paddedDigits (room _) otherwise, Option.map_some, signed]
  · have natural : (year.toNat : Int) = year := Int.toNat_of_nonneg (by omega)
    have skip : skipBlanks ('+' :: (paddedDigits 4 year.toNat ++ rest)) =
        '+' :: (paddedDigits 4 year.toNat ++ rest) := rfl
    rw [List.cons_append, readYear, skip]
    simp only [unsigned_paddedDigits (room _) otherwise, Option.map_some, natural]

end Numbers

/-! ## Fractions -/

/-- A fraction of some digits stands for as many nanoseconds as fill it up to nine of them. -/
theorem readFraction_paddedDigits {width value : Nat} (positive : 0 < width) (short : width ≤ 9)
    (fits : value < 10 ^ width) {rest : List Char} (otherwise : StartsOtherwise rest) :
    readFraction ('.' :: (paddedDigits width value ++ rest)) =
      some (value * Nat.pow 10 (9 - width), rest) := by
  have long := Text.length_paddedDigits positive fits
  simp only [readFraction, Text.takeDigits_append (Text.paddedDigits_isDigit _ _)
    (long.trans_le short) otherwise, Text.ofDigits?_paddedDigits, Option.map_some, long,
    otherwise.dropWhile_isDigit]

theorem startsOtherwise_fractionText (nanoseconds : Nat) :
    StartsOtherwise (fractionText nanoseconds ++ ['Z']) := by
  rw [fractionText]
  split_ifs <;> rfl

theorem readFraction_fractionText {nanoseconds : Nat} (small : nanoseconds < 10 ^ 9) :
    readFraction (fractionText nanoseconds ++ ['Z']) = some (nanoseconds, ['Z']) := by
  have otherwise : StartsOtherwise ['Z'] := rfl
  rw [fractionText]
  split_ifs with whole milli micro
  · rw [whole]
    rfl
  · have back : nanoseconds / 1000000 * Nat.pow 10 (9 - 3) = nanoseconds :=
      Nat.div_mul_cancel (Nat.dvd_of_mod_eq_zero milli)
    rw [List.cons_append, readFraction_paddedDigits (by decide) (by decide) (by omega) otherwise,
      back]
  · have back : nanoseconds / 1000 * Nat.pow 10 (9 - 6) = nanoseconds :=
      Nat.div_mul_cancel (Nat.dvd_of_mod_eq_zero micro)
    rw [List.cons_append, readFraction_paddedDigits (by decide) (by decide) (by omega) otherwise,
      back]
  · have back : nanoseconds * Nat.pow 10 (9 - 9) = nanoseconds := Nat.mul_one nanoseconds
    rw [List.cons_append, readFraction_paddedDigits (by decide) (by decide) small otherwise, back]

theorem filled_lt {digits : List Char} (areDigits : ∀ digit ∈ digits, digit.isDigit = true)
    (short : digits.length ≤ 9) :
    Text.valueOfDigits digits * Nat.pow 10 (9 - digits.length) < 10 ^ 9 := by
  calc Text.valueOfDigits digits * 10 ^ (9 - digits.length)
      < 10 ^ digits.length * 10 ^ (9 - digits.length) :=
        Nat.mul_lt_mul_of_pos_right (Text.valueOfDigits_lt areDigits) (Nat.pow_pos (by decide))
    _ = 10 ^ 9 := by rw [← Nat.pow_add, Nat.add_sub_cancel' short]

/-- What is read as a fraction is less than a second. -/
theorem lt_of_readFraction {characters rest : List Char} {nanoseconds : Nat}
    (read : readFraction characters = some (nanoseconds, rest)) : nanoseconds < 10 ^ 9 := by
  unfold readFraction at read
  split at read
  · next more =>
    obtain ⟨value, found, same⟩ := Option.map_eq_some_iff.1 read
    obtain ⟨_, areDigits, rfl⟩ := Text.ofDigits?_eq_some_iff.1 found
    obtain ⟨rfl, _⟩ := Prod.mk.inj same
    exact filled_lt areDigits (Text.length_takeDigits_le more)
  · obtain ⟨rfl, _⟩ := Prod.mk.inj (Option.some.inj read)
    decide

/-! ## Offsets -/

theorem dvd_of_signed {sign offset : Int} {characters rest : List Char}
    (read : readOffset.signed sign characters = some (offset, rest)) : 60 ∣ offset := by
  simp only [readOffset.signed, Option.bind_eq_bind, Option.bind_eq_some_iff] at read
  obtain ⟨⟨hours, _⟩, -, ⟨minutes, _⟩, -, same⟩ := read
  split at same
  · obtain ⟨rfl, _⟩ := Prod.mk.inj (Option.some.inj same)
    exact Int.dvd_mul_of_dvd_right (by omega)
  · cases same

/-- An offset is a whole number of minutes. -/
theorem dvd_of_readOffset {offset : Int} {characters rest : List Char}
    (read : readOffset characters = some (offset, rest)) : 60 ∣ offset := by
  have universal {rest' : List Char} (same : some ((0 : Int), rest') = some (offset, rest)) :
      60 ∣ offset := by
    obtain ⟨rfl, _⟩ := Prod.mk.inj (Option.some.inj same)
    exact Int.dvd_zero 60
  simp only [readOffset] at read
  split at read
  · exact universal read
  · split at read
    · exact universal read
    · exact universal read
    · exact dvd_of_signed read
    · exact dvd_of_signed read
    · exact dvd_of_signed read
    · cases read

/-! ## Fields -/

/-- The date of a timestamp. -/
def date (timestamp : Timestamp) : Date :=
  .ofDays (timestamp.instant.seconds / 86400)

/-- The whole seconds of the day before a timestamp. -/
def secondOfDay (timestamp : Timestamp) : Nat :=
  (timestamp.instant.seconds % 86400).toNat

/-- The second of the minute that a timestamp lies in. -/
def second (timestamp : Timestamp) : Nat :=
  timestamp.secondOfDay % 60 + if timestamp.inLeapSecond then 1 else 0

theorem isValid_date (timestamp : Timestamp) : timestamp.date.isValid = true :=
  Date.isValid_ofDays _

theorem secondOfDay_lt (timestamp : Timestamp) : timestamp.secondOfDay < 86400 := by
  rw [secondOfDay]
  omega

/-- The characters of a text, one field after the other. -/
theorem toList_text (timestamp : Timestamp) :
    timestamp.text.toList =
      yearText timestamp.date.year ++ '-' :: (paddedDigits 2 timestamp.date.month ++
        '-' :: (paddedDigits 2 timestamp.date.day ++
          'T' :: (paddedDigits 2 (timestamp.secondOfDay / 3600) ++
            ':' :: (paddedDigits 2 (timestamp.secondOfDay / 60 % 60) ++
              ':' :: (paddedDigits 2 timestamp.second ++
                (fractionText timestamp.instant.subsecond ++ ['Z'])))))) := by
  simp only [text, localText, String.toList_ofList, List.append_assoc, List.cons_append, date,
    secondOfDay, second]

namespace OnCalendar

variable {timestamp : Timestamp}

theorem year_mem (dated : timestamp.OnCalendar) :
    -262143 ≤ timestamp.date.year ∧ timestamp.date.year ≤ 262142 := by
  obtain ⟨first, last⟩ := Instant.isRepresentable_iff.1 dated.within
  simp only [Instant.firstSecond, Instant.lastSecond] at first last
  exact Date.year_ofDays_mem (by omega) (by omega)

/-- The second is at most sixty, and it is sixty in a leap second only. -/
theorem second_spec (dated : timestamp.OnCalendar) :
    timestamp.second ≤ 60 ∧ min timestamp.second 59 = timestamp.secondOfDay % 60 ∧
      decide (timestamp.second = 60) = timestamp.inLeapSecond := by
  rw [second, secondOfDay]
  cases leap : timestamp.inLeapSecond with
  | true =>
    -- The instant lies in the second before, which is the last of its minute.
    have last := dated.leap leap
    rw [if_pos rfl, decide_eq_true_iff]
    omega
  | false =>
    rw [if_neg Bool.false_ne_true, decide_eq_false_iff_not]
    omega

/-- The fields of a timestamp lead back to it. -/
theorem ofFields?_fields (dated : timestamp.OnCalendar) :
    ofFields? timestamp.date (timestamp.secondOfDay / 3600) (timestamp.secondOfDay / 60 % 60)
      timestamp.second timestamp.instant.subsecond 0 = some timestamp := by
  have days : timestamp.date.toDays = timestamp.instant.seconds / 86400 := Date.toDays_ofDays _
  obtain ⟨first, last⟩ := dated.year_mem
  obtain ⟨second, counted, sixty⟩ := dated.second_spec
  have day := timestamp.secondOfDay_lt
  have instant : timestamp.instant.seconds / 86400 * 86400 +
      (timestamp.secondOfDay / 3600 * 3600 + timestamp.secondOfDay / 60 % 60 * 60 +
        timestamp.secondOfDay % 60 : Nat) - 0 = timestamp.instant.seconds := by
    rw [secondOfDay]
    omega
  rw [ofFields?, if_pos ⟨timestamp.isValid_date, first, last, by omega, by omega, second⟩]
  simp only [days, counted, sixty, instant, Instant.seconds_mul_add_subsecond, dated.within, if_true]

end OnCalendar

theorem onCalendar_of_ofFields? {date : Date} {hour minute second nanoseconds : Nat} {offset : Int}
    {timestamp : Timestamp} (small : nanoseconds < 10 ^ 9) (minutes : 60 ∣ offset)
    (read : ofFields? date hour minute second nanoseconds offset = some timestamp) :
    timestamp.OnCalendar := by
  simp only [ofFields?] at read
  split at read
  · split at read
    · obtain rfl := Option.some.inj read
      refine ⟨‹_›, fun leap => ?_⟩
      have sixty : second = 60 := of_decide_eq_true leap
      simp only [Instant.seconds]
      omega
    · cases read
  · cases read

/-! ## The round trip -/

/-- The timestamp of a date and the text of a time of day. -/
def readTime? (date : Date) (characters : List Char) : Option Timestamp := do
  let (hour, rest) ← readNumber 2 characters
  let (minute, rest) ← readNumber 2 (← readSeparator ':' rest)
  let (second, rest) ← readNumber 2 (← readSeparator ':' rest)
  let (nanoseconds, rest) ← readFraction rest
  let (offset, rest) ← readOffset rest
  if rest.all Text.isBlank then ofFields? date hour minute second nanoseconds offset
  else none

theorem onCalendar_of_readTime? {date : Date} {characters : List Char} {timestamp : Timestamp}
    (read : readTime? date characters = some timestamp) : timestamp.OnCalendar := by
  simp only [readTime?, Option.bind_eq_bind, Option.bind_eq_some_iff] at read
  obtain ⟨⟨hour, _⟩, -, _, -, ⟨minute, _⟩, -, _, -, ⟨second, _⟩, -, ⟨nanoseconds, _⟩, fraction,
    ⟨offset, _⟩, minutes, fields⟩ := read
  split at fields
  · exact onCalendar_of_ofFields? (lt_of_readFraction fraction) (dvd_of_readOffset minutes) fields
  · cases fields

/-- A timestamp that is read from a text is one of the calendar. -/
theorem onCalendar_of_ofText? {text : String} {timestamp : Timestamp}
    (read : ofText? text = some timestamp) : timestamp.OnCalendar := by
  obtain ⟨⟨year, _⟩, -, read⟩ := Option.bind_eq_some_iff.1 read
  obtain ⟨_, -, read⟩ := Option.bind_eq_some_iff.1 read
  obtain ⟨⟨month, _⟩, -, read⟩ := Option.bind_eq_some_iff.1 read
  obtain ⟨_, -, read⟩ := Option.bind_eq_some_iff.1 read
  obtain ⟨⟨day, _⟩, -, time⟩ := Option.bind_eq_some_iff.1 read
  -- Any of the three marks between date and time of day leads on to the same reading.
  dsimp only at time
  split at time
  · exact onCalendar_of_readTime? time
  · exact onCalendar_of_readTime? time
  · exact onCalendar_of_readTime? time
  · cases time

theorem readTime?_text {timestamp : Timestamp} (dated : timestamp.OnCalendar) :
    readTime? timestamp.date (paddedDigits 2 (timestamp.secondOfDay / 3600) ++
      ':' :: (paddedDigits 2 (timestamp.secondOfDay / 60 % 60) ++
        ':' :: (paddedDigits 2 timestamp.second ++
          (fractionText timestamp.instant.subsecond ++ ['Z'])))) = some timestamp := by
  have day := timestamp.secondOfDay_lt
  have sixty := dated.second_spec.1
  have hour : timestamp.secondOfDay / 3600 < 100 := by omega
  have minute : timestamp.secondOfDay / 60 % 60 < 100 := by omega
  have colon : ':'.isDigit = false := rfl
  have second : timestamp.second < 10 ^ 2 := by omega
  have separator (rest : List Char) : readSeparator ':' (':' :: rest) = some rest := rfl
  have fraction := readFraction_fractionText (Instant.subsecond_lt timestamp.instant)
  have offset : readOffset ['Z'] = some (0, []) := by decide
  simp only [readTime?, Option.bind_eq_bind, Option.bind_some, readNumber_marked hour colon,
    readNumber_marked minute colon, readNumber_paddedDigits (by decide) second
      (startsOtherwise_fractionText _), fraction, separator, offset, List.all_nil, if_true]
  exact dated.ofFields?_fields

theorem ofText?_text {timestamp : Timestamp} (dated : timestamp.OnCalendar) :
    ofText? timestamp.text = some timestamp := by
  obtain ⟨monthFits, dayFits⟩ := Date.le_of_isValid timestamp.isValid_date
  have month : timestamp.date.month < 100 := by omega
  have day : timestamp.date.day < 100 := by omega
  have hyphen : '-'.isDigit = false := rfl
  have letter : 'T'.isDigit = false := rfl
  have year (rest : List Char) :
      readYear (yearText timestamp.date.year ++ '-' :: rest) =
        some (timestamp.date.year, '-' :: rest) := readYear_yearText _ hyphen
  have separator (rest : List Char) : readSeparator '-' ('-' :: rest) = some rest := rfl
  rw [ofText?, toList_text]
  refine Option.bind_eq_some_iff.2 ⟨_, year _, ?_⟩
  refine Option.bind_eq_some_iff.2 ⟨_, separator _, ?_⟩
  refine Option.bind_eq_some_iff.2 ⟨_, readNumber_marked month hyphen _, ?_⟩
  refine Option.bind_eq_some_iff.2 ⟨_, separator _, ?_⟩
  refine Option.bind_eq_some_iff.2 ⟨_, readNumber_marked day letter _, ?_⟩
  exact readTime?_text dated

/-- **Exactly the timestamps of the calendar are read back from their texts.** -/
theorem ofText?_text_iff {timestamp : Timestamp} :
    ofText? timestamp.text = some timestamp ↔ timestamp.OnCalendar :=
  ⟨onCalendar_of_ofText?, ofText?_text⟩

end Timestamp

end SignOn
