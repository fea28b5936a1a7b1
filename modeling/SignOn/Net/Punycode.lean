import SignOn.Text.Split

/-!
# Labels in ASCII characters

A label of a domain name that holds characters beyond ASCII is written with ASCII characters
alone: first come its ASCII characters, a hyphen if there are any, and then the others as a
sequence of numbers in base thirty-six, each of which tells how far to go from one insertion to
the next.  The weight at which a digit ends a number adapts to the numbers seen so far.
-/

namespace SignOn.Net.Punycode

set_option autoImplicit false

/-! ## Numbers of variable length -/

/-- The digit of a value below thirty-six: letters come before numerals. -/
def digit (value : Nat) : Char :=
  if value < 26 then Char.ofNat (97 + value) else Char.ofNat (22 + value)

/-- The value of a digit in lowercase. -/
def digitValue? (character : Char) : Option Nat :=
  if 'a' ≤ character ∧ character ≤ 'z' then some (character.toNat - 97)
  else if '0' ≤ character ∧ character ≤ '9' then some (character.toNat - 22)
  else none

/-- The least digit that does not end a number at a place. -/
def threshold (bias place : Nat) : Nat :=
  min 26 (max 1 (place - bias))

theorem threshold_bounds (bias place : Nat) : 1 ≤ threshold bias place ∧ threshold bias place ≤ 26 := by
  unfold threshold
  omega

/-- The digits of a number from a place on. -/
def digitsFrom (bias place value : Nat) : List Char :=
  let least := threshold bias place
  if value < least then [digit value]
  else
    digit (least + (value - least) % (36 - least)) ::
      digitsFrom bias (place + 36) ((value - least) / (36 - least))
termination_by value
decreasing_by
  have bounds := threshold_bounds bias place
  have quotient := Nat.div_le_self (value - threshold bias place) (36 - threshold bias place)
  omega

/-- The bias after a number, with how many characters are placed by then and whether it was the
first number. -/
def adapt (distance placed : Nat) (isFirst : Bool) : Nat :=
  let scaled := if isFirst then distance / 700 else distance / 2
  settle (scaled + scaled / placed) 0
where
  /-- Divides a distance until it is small, and counts the divisions. -/
  settle (distance bias : Nat) : Nat :=
    if 455 < distance then settle (distance / 35) (bias + 36)
    else bias + 36 * distance / (distance + 38)
  termination_by distance
  decreasing_by omega

/-! ## Writing labels -/

/-- How far the writing of a label has come. -/
structure Writing where
  written : List Char
  /-- The distance since the last insertion. -/
  distance : Nat
  bias : Nat
  placed : Nat

/-- Passes over a character of the label while the characters of one code point are inserted. -/
def Writing.pass (simple code : Nat) (state : Writing) (character : Char) : Writing :=
  if character.toNat < code then { state with distance := state.distance + 1 }
  else if character.toNat = code then
    { written := state.written ++ digitsFrom state.bias 36 state.distance
      distance := 0
      bias := adapt state.distance (state.placed + 1) (state.placed = simple)
      placed := state.placed + 1 }
  else state

/-- Inserts all characters of a code point, after those of smaller ones. -/
def Writing.insert (label : List Char) (simple previous code : Nat) (state : Writing) : Writing :=
  let started :=
    { state with distance := state.distance + (code - previous) * (state.placed + 1) }
  let passed := label.foldl (Writing.pass simple code) started
  { passed with distance := passed.distance + 1 }

/-- The code points beyond ASCII in a label, in ascending order and without repetition. -/
def codesBeyond (label : List Char) : List Nat :=
  (((label.map Char.toNat).filter (128 ≤ ·)).mergeSort (· ≤ ·)).eraseDups

/-- The characters that write a label. -/
def encode (label : List Char) : List Char :=
  let simple := label.filter fun c => c.toNat < 128
  let start : Writing := ⟨[], 0, 72, simple.length⟩
  let (state, _) := (codesBeyond label).foldl
    (fun (state, previous) code => (state.insert label simple.length previous code, code + 1))
    (start, 128)
  simple ++ (if simple.isEmpty then [] else ['-']) ++ state.written

/-! ## Reading labels -/

/-- How far the reading of a label has come. -/
structure Reading where
  found : List Char
  code : Nat
  /-- Where the next character is inserted, as far as its number has been read. -/
  position : Nat
  /-- Where the number started. -/
  origin : Nat
  weight : Nat
  place : Nat
  bias : Nat

/-- Reads a digit.  The last digit of a number inserts a character. -/
def Reading.step (state : Reading) (character : Char) : Option Reading := do
  let value ← digitValue? character
  let position := state.position + value * state.weight
  let least := threshold state.bias state.place
  if value < least then
    let placed := state.found.length + 1
    let code := state.code + position / placed
    if code.isValidChar then
      let target := position % placed
      some
        { found := state.found.take target ++ Char.ofNat code :: state.found.drop target
          code := code
          position := target + 1
          origin := target + 1
          weight := 1
          place := 36
          bias := adapt (position - state.origin) placed (state.origin = 0) }
    else none
  else
    some { state with
      position := position
      weight := state.weight * (36 - least)
      place := state.place + 36 }

/-- The ASCII characters that begin the written form of a label, and the digits after them.  A
hyphen in front follows no characters, so it can only be a digit, which it is not. -/
def cut (characters : List Char) : List Char × List Char :=
  match Text.splitLast? '-' characters with
  | some (character :: simple, numbers) => (character :: simple, numbers)
  | _ => ([], characters)

/-- The label that characters write. -/
def decode? (characters : List Char) : Option (List Char) := do
  let (simple, numbers) := cut characters
  let state ← numbers.foldlM Reading.step ⟨simple, 128, 0, 0, 1, 36, 72⟩
  if state.place = 36 then some state.found else none

end SignOn.Net.Punycode
