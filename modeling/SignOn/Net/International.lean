import SignOn.Net.International.Composition
import SignOn.Net.International.Direction
import SignOn.Net.International.Joiner
import SignOn.Net.International.Mark
import SignOn.Net.International.Table
import SignOn.Net.Punycode

/-!
# International domain names

A domain name may be given in any script and is brought to one written form: its characters count
as what the table of the mapping says, the text is composed, and each label that still holds
characters beyond ASCII is written after `xn--` in ASCII characters.  A label that is given in that
form must be the written form of some label, and no label may mislead the eye: it begins with no
mark, its joiners stand where they are seen, and its characters keep to one direction.
-/

namespace SignOn.Net.International

set_option autoImplicit false

/-! ## Mapping -/

/-- What a character counts as, unless no domain name can hold it. -/
def mapped? (character : Char) : Option (List Char) :=
  let code := character.toNat
  if code < 0x80 then some [character.toLower]
  else if Text.CodeTable.covers excluded code then none
  else if Text.CodeTable.covers ignored code then some []
  else
    match Text.CodeTable.shifted? images code with
    | some targets => some (targets.map Char.ofNat)
    | none => some [character]

/-- A domain name with every character as what it counts as, in composed form. -/
def normalized? (domain : List Char) : Option (List Char) :=
  (domain.mapM mapped?).map fun pieces => composed pieces.flatten

/-! ## Labels -/

/-- What the written form of a label begins with. -/
def start : List Char := "xn--".toList

/-- Whether a label has ASCII characters alone. -/
def isAscii (label : List Char) : Bool := label.all (·.toNat < 0x80)

/-- The greatest length of a label that is written, in characters. -/
def longestWritten : Nat := 1000

/-- The greatest length of a written form, without what it begins with. -/
def longestForm : Nat := 2000

/-- The label that a normalized label stands for.  One that looks like a written form must be the
one of a normalized label that needs it. -/
def meaning? (label : List Char) : Option (List Char) :=
  if start.isPrefixOf label then
    if isAscii label && label.length ≤ start.length + longestForm then
      (Punycode.decode? (label.drop start.length)).filter fun found =>
        !isAscii found && normalized? found = some found && !start.isPrefixOf found
    else none
  else some label

/-- Whether a label shows what it holds. -/
def isPlain (label : List Char) : Bool :=
  !label.head?.any (fun first => isMark first.toNat) && joinersStand label

/-- A label in ASCII characters. -/
def written? (label : List Char) : Option (List Char) :=
  if isAscii label then some label
  else if label.length ≤ longestWritten then some (start ++ Punycode.encode label)
  else none

/-! ## Domain names -/

/-- A domain name in small ASCII characters. -/
def ascii? (domain : List Char) : Option (List Char) := do
  let labels ← (Text.splitOn '.' (← normalized? domain)).mapM meaning?
  if labels.all isPlain && keepDirections labels then
    (labels.mapM written?).map (Text.joinWith '.')
  else none

end SignOn.Net.International
