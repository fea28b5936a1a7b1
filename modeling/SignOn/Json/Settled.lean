import SignOn.Json.Basic

/-!
# Values taken whole

Where a value is kept as it is, and not read field by field, every part of it counts: strings must
be readable, numbers must lie within the range of binary numbers, and arrays and objects must not
nest more than 127 deep.  Of members that share a name the last one stays.

A reader that gives up on a value stands somewhere.  Where it stands behind the value, another may
go on as if nothing had happened; `progress` tells.
-/

namespace SignOn.Json

set_option autoImplicit false

/-! ## How far a reader comes -/

/-- How far a reader comes that takes a value whole. -/
inductive Progress where
  | taken
  /-- The reader has given up, behind the value. -/
  | passed
  /-- The reader has given up, before the end of the value. -/
  | stuck
deriving DecidableEq, Repr

/-- How far a reader comes that gives up at the first thing it sees. -/
def Progress.ofPassed (passed : Bool) : Progress := if passed then .passed else .stuck

/-- How far a reader comes with a part and the ones after it, if there are any: behind the last part
it still closes what it has opened. -/
def Progress.andThen (first : Progress) (isLast : Bool) (rest : Progress) : Progress :=
  match first with
  | .taken => rest
  | .passed => Progress.ofPassed isLast
  | .stuck => .stuck

mutual

/-- How far a reader comes with a value, when so many arrays and objects may still be opened. -/
def progress (depth : Nat) : Json → Progress
  | .null | .boolean _ | .string _ | .number (.integer _) | .number (.real _ _) => .taken
  | .number (.tooLarge passed) | .unreadable passed => .ofPassed passed
  | .array items => if depth = 0 then .stuck else progressItems (depth - 1) items
  | .object members => if depth = 0 then .stuck else progressMembers (depth - 1) members

/-- How far a reader comes with the items of an array. -/
def progressItems (depth : Nat) : List Json → Progress
  | [] => .taken
  | item :: rest => (progress depth item).andThen rest.isEmpty (progressItems depth rest)

/-- How far a reader comes with the members of an object. -/
def progressMembers (depth : Nat) : List (String × Json) → Progress
  | [] => .taken
  | (_, value) :: rest => (progress depth value).andThen rest.isEmpty (progressMembers depth rest)

end

/-! ## What is kept -/

/-- The members without those whose name occurs again later. -/
def keepLast : List (String × Json) → List (String × Json)
  | [] => []
  | member :: rest =>
      if rest.any fun other => other.1 = member.1 then keepLast rest else member :: keepLast rest

mutual

/-- A value without members whose name occurs again later. -/
def settled : Json → Json
  | .array items => .array (settledItems items)
  | .object members => .object (keepLast (settledMembers members))
  | json => json

/-- Items without members whose name occurs again later. -/
def settledItems : List Json → List Json
  | [] => []
  | item :: rest => settled item :: settledItems rest

/-- Members whose values are without members whose name occurs again later. -/
def settledMembers : List (String × Json) → List (String × Json)
  | [] => []
  | (name, value) :: rest => (name, settled value) :: settledMembers rest

end

/-- The most arrays and objects that may nest. -/
def deepest : Nat := 127

/-- A value taken whole. -/
def settle? (json : Json) : Option Json :=
  if json.progress deepest = .taken then some json.settled else none

end SignOn.Json
