import SignOn.Text.Blank
import SignOn.Text.Digits
import SignOn.Time.Calendar

/-!
# Timestamps as text

A timestamp is written as date, the letter `T`, time of day, a fraction of three, six or nine digits
when one is needed, and the offset of universal time.  Years from 0 to 9999 have four digits, all
others a sign and four digits at least.

Reading is more liberal: fields may be short, blanks may stand before numbers and separators, a
blank may stand for the letter, and any offset below one day is taken into account.  A second
numbered sixty is a leap second; it is kept as such, so that it is written as it was read.
-/

namespace SignOn

set_option autoImplicit false

/-- An instant that may lie within a leap second.  Then it is counted from the start of the second
before, and the leap second is told apart by the mark. -/
structure Timestamp where
  instant : Instant
  inLeapSecond : Bool
deriving DecidableEq, Repr

namespace Timestamp

/-- The timestamp of an instant outside leap seconds. -/
def ofInstant (instant : Instant) : Timestamp :=
  ⟨instant, false⟩

/-! ## Writing -/

/-- A year of four digits, with a sign in front when it lies outside 0 to 9999. -/
def yearText (year : Int) : List Char :=
  if 0 ≤ year ∧ year ≤ 9999 then Text.paddedDigits 4 year.toNat
  else if year < 0 then '-' :: Text.paddedDigits 4 year.natAbs
  else '+' :: Text.paddedDigits 4 year.toNat

/-- The fraction of a second, in the fewest groups of three digits that are exact. -/
def fractionText (nanoseconds : Nat) : List Char :=
  if nanoseconds = 0 then []
  else if nanoseconds % 1000000 = 0 then '.' :: Text.paddedDigits 3 (nanoseconds / 1000000)
  else if nanoseconds % 1000 = 0 then '.' :: Text.paddedDigits 6 (nanoseconds / 1000)
  else '.' :: Text.paddedDigits 9 nanoseconds

/-- A timestamp in universal time, without its offset. -/
def localText (timestamp : Timestamp) : List Char :=
  let seconds := timestamp.instant.seconds
  let date := Date.ofDays (seconds / 86400)
  let secondOfDay := (seconds % 86400).toNat
  let second := secondOfDay % 60 + (if timestamp.inLeapSecond then 1 else 0)
  yearText date.year ++ '-' :: Text.paddedDigits 2 date.month ++ '-' :: Text.paddedDigits 2 date.day ++
    'T' :: Text.paddedDigits 2 (secondOfDay / 3600) ++
    ':' :: Text.paddedDigits 2 (secondOfDay / 60 % 60) ++ ':' :: Text.paddedDigits 2 second ++
    fractionText timestamp.instant.subsecond

/-- A timestamp with the letter of universal time. -/
def text (timestamp : Timestamp) : String :=
  String.ofList (timestamp.localText ++ ['Z'])

/-- A timestamp with the offset of universal time in digits. -/
def offsetText (timestamp : Timestamp) : String :=
  String.ofList (timestamp.localText ++ "+00:00".toList)

/-! ## Reading -/

/-- A text without the blanks in front. -/
def skipBlanks (characters : List Char) : List Char :=
  characters.dropWhile Text.isBlank

/-- A number of at most the given count of digits, after blanks, with what follows it. -/
def readNumber (most : Nat) (characters : List Char) : Option (Nat × List Char) :=
  let (found, rest) := Text.takeDigits most (skipBlanks characters)
  (Text.ofDigits? found).map fun value => (value, rest)

/-- A year: up to four digits, or any number of digits after a sign. -/
def readYear (characters : List Char) : Option (Int × List Char) :=
  match skipBlanks characters with
  | '-' :: rest => (unsigned rest.length rest).map fun (value, more) => (-(value : Int), more)
  | '+' :: rest => (unsigned rest.length rest).map fun (value, more) => ((value : Int), more)
  | rest => (unsigned 4 rest).map fun (value, more) => ((value : Int), more)
where
  /-- Digits with nothing before them. -/
  unsigned (most : Nat) (characters : List Char) : Option (Nat × List Char) :=
    let (found, rest) := Text.takeDigits most characters
    (Text.ofDigits? found).map fun value => (value, rest)

/-- A separator, after blanks. -/
def readSeparator (separator : Char) (characters : List Char) : Option (List Char) :=
  match skipBlanks characters with
  | found :: rest => if found = separator then some rest else none
  | [] => none

/-- The nanoseconds of an optional fraction.  Digits after the ninth are passed over. -/
def readFraction : List Char → Option (Nat × List Char)
  | '.' :: rest =>
      let (found, more) := Text.takeDigits 9 rest
      (Text.ofDigits? found).map fun value =>
        (value * Nat.pow 10 (9 - found.length), more.dropWhile Char.isDigit)
  | rest => some (0, rest)

/-- Two digits, with what follows them. -/
def readTwoDigits : List Char → Option (Nat × List Char)
  | tens :: ones :: rest => (Text.ofDigits? [tens, ones]).map fun value => (value, rest)
  | _ => none

/-- Whether a text starts with the name of universal time, in letters of either case. -/
def startsWithUtc (characters : List Char) : Bool :=
  (characters.take 3).map Char.toUpper = ['U', 'T', 'C']

/-- An offset from universal time in seconds: the letter `Z`, the name of universal time, or a sign
with hours and minutes, which colons and blanks may part. -/
def readOffset (characters : List Char) : Option (Int × List Char) :=
  let start := skipBlanks characters
  if startsWithUtc start then some (0, start.drop 3)
  else
    match start with
    | 'Z' :: rest | 'z' :: rest => some (0, rest)
    | '+' :: rest => signed 1 rest
    | '-' :: rest | '\u2212' :: rest => signed (-1) rest
    | _ => none
where
  /-- Hours and minutes after a sign. -/
  signed (sign : Int) (characters : List Char) : Option (Int × List Char) := do
    let (hours, rest) ← readTwoDigits characters
    let (minutes, rest) ← readTwoDigits (rest.dropWhile fun c => c = ':' || Text.isBlank c)
    if minutes ≤ 59 ∧ hours ≤ 23 then
      some (sign * (hours * 3600 + minutes * 60 : Nat), rest)
    else none

/-- The timestamp of its fields in local time, with an offset, where they exist and the instant lies
within the calendar. -/
def ofFields? (date : Date) (hour minute second nanoseconds : Nat) (offset : Int) :
    Option Timestamp :=
  if date.isValid ∧ -262143 ≤ date.year ∧ date.year ≤ 262142 ∧ hour ≤ 23 ∧ minute ≤ 59 ∧ second ≤ 60
  then
    let counted := min second 59
    let seconds : Int := date.toDays * 86400 + (hour * 3600 + minute * 60 + counted : Nat) - offset
    let instant : Instant := ⟨seconds * 1000000000 + nanoseconds⟩
    if instant.isRepresentable then some ⟨instant, second = 60⟩ else none
  else none

/-- The timestamp that a text denotes. -/
def ofText? (text : String) : Option Timestamp := do
  let (year, rest) ← readYear text.toList
  let (month, rest) ← readNumber 2 (← readSeparator '-' rest)
  let (day, rest) ← readNumber 2 (← readSeparator '-' rest)
  let rest ← match rest with
    | 'T' :: more | 't' :: more | ' ' :: more => some more
    | _ => none
  let (hour, rest) ← readNumber 2 rest
  let (minute, rest) ← readNumber 2 (← readSeparator ':' rest)
  let (second, rest) ← readNumber 2 (← readSeparator ':' rest)
  let (nanoseconds, rest) ← readFraction rest
  let (offset, rest) ← readOffset rest
  if rest.all Text.isBlank then
    ofFields? ⟨year, month, day⟩ hour minute second nanoseconds offset
  else none

end Timestamp

end SignOn
