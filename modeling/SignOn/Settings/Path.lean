import SignOn.Text.Blank
import SignOn.Text.Digits
import SignOn.Text.Split

/-!
# Paths to settings

A setting is found by the name of a member of the root and steps from there: to a member of a table
by its name, or to an item of an array by its place.  A path is written as names with points between
them, and places in brackets; a negative place counts from the end of an array.
-/

namespace SignOn.Settings

set_option autoImplicit false

/-- A step from a value to a part of it. -/
inductive Step where
  | member (name : String)
  /-- The item at a place, counted from the end when the place is negative. -/
  | item (place : Int)
deriving DecidableEq, Repr

namespace Step

/-- Whether a character may stand in a name of a path. -/
def isNamePart (character : Char) : Bool :=
  character.isAlphanum || character = '-' || character = '_'

/-- A name in front of a text, with what follows it. -/
def readName (characters : List Char) : Option (Step × List Char) :=
  let name := characters.takeWhile isNamePart
  if name.isEmpty then none
  else some (.member (String.ofList name), characters.dropWhile isNamePart)

/-- A place in front of a text up to its closing bracket.  Spaces and tabs may stand around it, and
it must fit into sixty-four bits. -/
def readPlace (characters : List Char) : Option (Step × List Char) :=
  let isSpace (character : Char) : Bool := character = ' ' || character = '\t'
  match Text.splitFirst? ']' characters with
  | none => none
  | some (inner, rest) =>
      let (negative, digits) := match Text.stripBoth isSpace inner with
        | '-' :: digits => (true, digits)
        | digits => (false, digits)
      (Text.ofDigits? digits).bind fun value =>
        let place : Int := if negative then -value else value
        if -9223372036854775808 ≤ place ∧ place ≤ 9223372036854775807 then
          some (.item place, rest)
        else none

/-- The steps of a text in which every step says how it is written, at most as many as given. -/
def readSteps : Nat → List Char → Option (List Step)
  | _, [] => some []
  | 0, _ => none
  | count + 1, '.' :: rest => do
      let (step, rest) ← readName rest
      return step :: (← readSteps count rest)
  | count + 1, '[' :: rest => do
      let (step, rest) ← readPlace rest
      return step :: (← readSteps count rest)
  | _, _ => none

/-- The path that a key writes.  A key that writes none is a single name as it stands. -/
def ofKey (key : String) : List Step :=
  match readSteps (key.toList.length + 1) ('.' :: key.toList) with
  | some steps => steps
  | none => [.member key]

end Step

end SignOn.Settings
