import SignOn.Settings.Value
import SignOn.Text.Hex
import SignOn.Text.Split
import SignOn.Time.Calendar

/-!
# The parts of a TOML document

Keys, strings, numbers, dates, arrays and inline tables are read from the front of a text; every
reader gives back what follows.  Inside arrays and inline tables other values stand, so those
readers take a bound on the steps, for which the length of the text is always enough.
-/

namespace SignOn.Toml

set_option autoImplicit false

open Settings (Value Real)

/-- A reader of the front of a text: what it found, and what follows. -/
abbrev Scan (α : Type) := List Char → Option (α × List Char)

/-! ## Blanks and comments -/

/-- A text without the spaces and tabs in front. -/
def skipSpaces (characters : List Char) : List Char :=
  characters.dropWhile fun c => c = ' ' || c = '\t'

/-- Whether a character may stand in a comment or a literal string. -/
def isPrintable (character : Char) : Bool :=
  character = '\t' || (character.toNat ≥ 0x20 && character.toNat ≠ 0x7F)

/-- What follows the end of a line, which may have a comment; the end of the text ends a line too.
-/
def endOfLine (characters : List Char) : Option (List Char) :=
  let start := skipSpaces characters
  let rest := match start with
    | '#' :: comment => comment.dropWhile isPrintable
    | other => other
  match rest with
  | [] => some []
  | '\n' :: more => some more
  | '\r' :: '\n' :: more => some more
  | _ => none

/-- A text without the spaces, line ends and comments in front. -/
def skipLines : Nat → List Char → List Char
  | 0, characters => characters
  | count + 1, characters =>
      match skipSpaces characters with
      | '\n' :: rest => skipLines count rest
      | '\r' :: '\n' :: rest => skipLines count rest
      | '#' :: rest =>
          match endOfLine ('#' :: rest) with
          | some more => skipLines count more
          | none => '#' :: rest
      | rest => rest

/-! ## Strings -/

/-- The character of a number of hexadecimal digits. -/
def readPoint (width : Nat) (characters : List Char) : Option (Char × List Char) := do
  let digits := characters.take width
  if digits.length < width then none
  let value ← digits.foldlM (fun value digit => (Text.hexValue? digit).map (value * 16 + ·)) 0
  if value.isValidChar then some (Char.ofNat value, characters.drop width) else none

/-- The character that an escape stands for, after its backslash. -/
def readEscape : Scan Char
  | 'b' :: rest => some ('\x08', rest)
  | 't' :: rest => some ('\t', rest)
  | 'n' :: rest => some ('\n', rest)
  | 'f' :: rest => some ('\x0c', rest)
  | 'r' :: rest => some ('\r', rest)
  | 'e' :: rest => some ('\x1b', rest)
  | '"' :: rest => some ('"', rest)
  | '\\' :: rest => some ('\\', rest)
  | 'x' :: rest => readPoint 2 rest
  | 'u' :: rest => readPoint 4 rest
  | 'U' :: rest => readPoint 8 rest
  | _ => none

/-- A text without the line end in front. -/
def dropLineEnd : List Char → List Char
  | '\n' :: rest => rest
  | '\r' :: '\n' :: rest => rest
  | rest => rest

/-- A text without the spaces, tabs and line ends in front. -/
def skipBlanks : List Char → List Char
  | ' ' :: rest | '\t' :: rest | '\n' :: rest => skipBlanks rest
  | '\r' :: '\n' :: rest => skipBlanks rest
  | rest => rest

/-- The rest of a string on one line, after its opening quote. -/
def readString : Nat → Scan (List Char)
  | 0, _ => none
  | count + 1, characters =>
      match characters with
      | '"' :: rest => some ([], rest)
      | '\\' :: rest => do
          let (character, rest) ← readEscape rest
          let (text, rest) ← readString count rest
          some (character :: text, rest)
      | character :: rest =>
          if isPrintable character then
            (readString count rest).map fun (text, rest) => (character :: text, rest)
          else none
      | [] => none

/-- The rest of a literal string on one line, after its opening quote. -/
def readLiteral (characters : List Char) : Option (List Char × List Char) :=
  match Text.splitFirst? '\'' characters with
  | some (text, rest) => if text.all isPrintable then some (text, rest) else none
  | none => none

/-- Whether a character may stand for itself within a string of several lines. -/
def isPrintableOrLine (character : Char) : Bool :=
  isPrintable character || character = '\n'

/-- The quotes of a kind in front of a text, when they end a string of several lines: three quotes
end it, and up to two more belong to it. -/
def closing? (quote : Char) (characters : List Char) : Option (List Char × List Char) :=
  let count := (characters.takeWhile (· = quote)).length
  if count < 3 then none
  else
    let inside := min (count - 3) 2
    some (List.replicate inside quote, characters.drop (inside + 3))

/-- The rest of a string of several lines.  A backslash at the end of a line joins it to the next
character that is not blank; all other line ends stay as they are. -/
def readLines (quote : Char) (escapes : Bool) : Nat → Scan (List Char)
  | 0, _ => none
  | count + 1, characters =>
      match closing? quote characters with
      | some found => some found
      | none =>
          match characters with
          | '\r' :: '\n' :: rest =>
              (readLines quote escapes count rest).map fun (text, rest) =>
                ('\r' :: '\n' :: text, rest)
          | '\\' :: rest =>
              if escapes then
                match skipSpaces rest with
                | '\n' :: _ | '\r' :: '\n' :: _ =>
                    readLines quote escapes count (skipBlanks rest)
                | _ => do
                    let (character, rest) ← readEscape rest
                    let (text, rest) ← readLines quote escapes count rest
                    some (character :: text, rest)
              else (readLines quote escapes count rest).map fun (text, rest) => ('\\' :: text, rest)
          | character :: rest =>
              if isPrintableOrLine character then
                (readLines quote escapes count rest).map fun (text, rest) => (character :: text, rest)
              else none
          | [] => none

/-- A string of any of the four kinds. -/
def readText (characters : List Char) : Option (List Char × List Char) :=
  match characters with
  | '"' :: '"' :: '"' :: rest => readLines '"' true (rest.length + 1) (dropLineEnd rest)
  | '\'' :: '\'' :: '\'' :: rest => readLines '\'' false (rest.length + 1) (dropLineEnd rest)
  | '"' :: rest => readString (rest.length + 1) rest
  | '\'' :: rest => readLiteral rest
  | _ => none

/-! ## Keys -/

/-- Whether a character may stand in a key without quotes. -/
def isBare (character : Char) : Bool :=
  character.isAlphanum || character = '-' || character = '_'

/-- One part of a key: bare characters, or a string on one line. -/
def readSimpleKey (characters : List Char) : Option (String × List Char) :=
  match characters with
  | '"' :: '"' :: '"' :: _ => none
  | '\'' :: '\'' :: '\'' :: _ => none
  | '"' :: rest =>
      (readString (rest.length + 1) rest).map fun (text, rest) => (String.ofList text, rest)
  | '\'' :: rest => (readLiteral rest).map fun (text, rest) => (String.ofList text, rest)
  | _ =>
      let bare := characters.takeWhile isBare
      if bare.isEmpty then none else some (String.ofList bare, characters.dropWhile isBare)

/-- One part of a key or several, at most as many as given, with points between them. -/
def readParts : Nat → Scan (List String)
  | 0, _ => none
  | count + 1, characters =>
      match readSimpleKey (skipSpaces characters) with
      | none => none
      | some (part, rest) =>
          match skipSpaces rest with
          | '.' :: more => (readParts count more).map fun (parts, rest) => (part :: parts, rest)
          | other => some ([part], other)

/-- How deep a document may go: how many parts a key may have, and how many brackets and braces may
be open at one place. -/
def deepest : Nat := 80

/-- A key: one part or several with points between them. -/
def readKey : Scan (List String) := readParts deepest

/-! ## Numbers and dates -/

/-- Digits of a base with single underscores between them, without the underscores. -/
def groupedDigits? (isDigit : Char → Bool) (characters : List Char) : Option (List Char) :=
  let groups := Text.splitOn '_' characters
  if groups.all fun group => !group.isEmpty && group.all isDigit then some groups.flatten else none

/-- The value of digits in a base. -/
def valueInBase (base : Nat) (digits : List Char) : Nat :=
  digits.foldl (fun value digit => value * base + (Text.hexValue? digit).getD 0) 0

/-- A number of sixty-four bits with a sign. -/
def integer? (value : Int) : Option Value :=
  if -9223372036854775808 ≤ value ∧ value ≤ 9223372036854775807 then some (.integer value) else none

/-- Digits without a superfluous zero in front. -/
def wholeDigits? (characters : List Char) : Option (List Char) :=
  (groupedDigits? Char.isDigit characters).filter fun digits =>
    digits.length = 1 || digits.head? ≠ some '0'

/-- The number of a sign and what follows it. -/
def decimal? (negative : Bool) (characters : List Char) : Option Value :=
  if characters = "inf".toList then some (.real (.infinite negative))
  else if characters = "nan".toList then some (.real .undefined)
  else
    let mantissa := characters.takeWhile fun c => c ≠ 'e' && c ≠ 'E'
    let exponent := characters.drop mantissa.length
    let whole := mantissa.takeWhile (· ≠ '.')
    let fraction := mantissa.drop whole.length
    if exponent.isEmpty && fraction.isEmpty then
      (wholeDigits? whole).bind fun digits =>
        integer? (if negative then -(Text.valueOfDigits digits : Int) else Text.valueOfDigits digits)
    else do
      let digits ← wholeDigits? whole
      let places ← if fraction.isEmpty then some [] else groupedDigits? Char.isDigit (fraction.drop 1)
      let power ← readExponent exponent
      let value := Real.ofDecimal negative (Text.valueOfDigits (digits ++ places))
        (power - places.length)
      if value.isFinite then some (.real value) else none
where
  /-- The value of an exponent with its letter; nothing stands for zero. -/
  readExponent : List Char → Option Int
    | [] => some 0
    | _ :: '-' :: digits =>
        (groupedDigits? Char.isDigit digits).map fun found => -(Text.valueOfDigits found : Int)
    | _ :: '+' :: digits =>
        (groupedDigits? Char.isDigit digits).map fun found => (Text.valueOfDigits found : Int)
    | _ :: digits =>
        (groupedDigits? Char.isDigit digits).map fun found => (Text.valueOfDigits found : Int)

/-- The number that a word denotes. -/
def number? (word : List Char) : Option Value :=
  match word with
  | '0' :: 'x' :: digits => based 16 (fun c => (Text.hexValue? c).isSome) digits
  | '0' :: 'o' :: digits => based 8 (fun c => '0' ≤ c && c ≤ '7') digits
  | '0' :: 'b' :: digits => based 2 (fun c => c = '0' || c = '1') digits
  | '-' :: rest => decimal? true rest
  | '+' :: rest => decimal? false rest
  | rest => decimal? false rest
where
  /-- A number in a base other than ten. -/
  based (base : Nat) (isDigit : Char → Bool) (digits : List Char) : Option Value :=
    (groupedDigits? isDigit digits).bind fun found => integer? (valueInBase base found)

/-- Whether characters match a pattern, in which a zero stands for any digit. -/
def matchesShape (shape : String) (characters : List Char) : Bool :=
  shape.toList.length = characters.length &&
    (shape.toList.zip characters).all fun (wanted, found) =>
      if wanted = '0' then found.isDigit else wanted = found

/-- The text of a fraction of a second: nine digits count at most, and the zeros at the end go, but
one digit stays. -/
def fractionText? : List Char → Option (List Char)
  | [] => some []
  | '.' :: digits =>
      let kept := ((digits.take 9).reverse.dropWhile (· = '0')).reverse
      if digits.isEmpty || !digits.all Char.isDigit then none
      else some ('.' :: if kept.isEmpty then ['0'] else kept)
  | _ => none

/-- The text of a time of day.  The seconds may be left out, and with them the fraction. -/
def timeText? (characters : List Char) : Option (List Char) :=
  let clock := characters.take 5
  let seconds := (characters.drop 5).take 3
  if matchesShape "00:00" clock && Text.valueOfDigits (clock.take 2) < 24 &&
      Text.valueOfDigits (clock.drop 3) < 60 then
    if seconds.isEmpty then some clock
    else if matchesShape ":00" seconds && Text.valueOfDigits (seconds.drop 1) ≤ 60 then
      (fractionText? (characters.drop 8)).map fun fraction => clock ++ seconds ++ fraction
    else none
  else none

/-- The text of a date that exists. -/
def dayText? (characters : List Char) : Option (List Char) :=
  if matchesShape "0000-00-00" characters then
    let date : Date :=
      ⟨Text.valueOfDigits (characters.take 4), Text.valueOfDigits ((characters.drop 5).take 2),
        Text.valueOfDigits (characters.drop 8)⟩
    if date.isValid then some characters else none
  else none

/-- The text of an offset below a day, or nothing for none.  An offset of no time has a plus sign.
-/
def offsetText? (characters : List Char) : Option (List Char) :=
  match characters with
  | [] => some []
  | ['Z'] | ['z'] => some ['Z']
  | sign :: rest =>
      let hours := Text.valueOfDigits (rest.take 2)
      let minutes := Text.valueOfDigits (rest.drop 3)
      if (sign = '+' || sign = '-') && matchesShape "00:00" rest && hours < 24 && minutes < 60 then
        some ((if hours = 0 ∧ minutes = 0 then '+' else sign) :: rest)
      else none

/-- The text of a date, of a time of day, or of both with an optional offset. -/
def dateText? (word : List Char) : Option String :=
  match dayText? (word.take 10) with
  | none => (timeText? word).map String.ofList
  | some day =>
      match word.drop 10 with
      | [] => some (String.ofList day)
      | separator :: rest =>
          let clock := rest.takeWhile fun c => c.isDigit || c = ':' || c = '.'
          if separator = 'T' || separator = 't' || separator = ' ' then
            match timeText? clock, offsetText? (rest.drop clock.length) with
            | some time, some offset => some (String.ofList (day ++ 'T' :: time ++ offset))
            | _, _ => none
          else none

/-- Whether a character may stand in a number, a date or a truth value. -/
def isWordCharacter (character : Char) : Bool :=
  character.isAlphanum || character = '+' || character = '-' || character = '.' || character = '_' ||
    character = ':'

/-- A number, a date or a truth value. -/
def readWord (characters : List Char) : Option (Value × List Char) :=
  let first := characters.takeWhile isWordCharacter
  let rest := characters.dropWhile isWordCharacter
  let (word, rest) := match rest with
    | ' ' :: next :: more =>
        if matchesShape "0000-00-00" first && next.isDigit then
          let clock := (next :: more).takeWhile isWordCharacter
          (first ++ ' ' :: clock, (next :: more).dropWhile isWordCharacter)
        else (first, rest)
    | _ => (first, rest)
  if word = "true".toList then some (.boolean true, rest)
  else if word = "false".toList then some (.boolean false, rest)
  else
    match dateText? word with
    | some text => some (.text text, rest)
    | none => (number? word).map fun value => (value, rest)

end SignOn.Toml
