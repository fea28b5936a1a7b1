import SignOn.Text.Hex
import SignOn.Text.Split

/-!
# Tables of characters

What is known of single characters is kept in tables, and a table is written as a text: its entries
stand between blanks, in ascending order of code points.  `AD` is one code point, `41-5A` are all
from one to another and `100=12E` every second of them.  After a colon an entry may say what belongs
to its first code point, as code points with a plus sign between each two: `41-5A:61`, `BD:31+32`.
All code points are hexadecimal.
-/

namespace SignOn.Text.CodeTable

set_option autoImplicit false

/-- Code points at equal distances, and what belongs to the first of them. -/
structure Row where
  first : Nat
  last : Nat
  /-- The distance between neighbours. -/
  stride : Nat
  image : List Nat

/-- Whether a code point is one of a row. -/
def Row.holds (row : Row) (code : Nat) : Bool :=
  row.first ≤ code && code ≤ row.last && (code - row.first) % row.stride = 0

/-! ## Reading tables -/

/-- The code point that hexadecimal digits stand for. -/
def codeOf (digits : List Char) : Nat :=
  digits.foldl (fun code digit => 16 * code + (hexValue? digit).getD 0) 0

/-- The row that an entry stands for. -/
def rowOf (entry : List Char) : Row :=
  let (codes, image) :=
    match splitFirst? ':' entry with
    | some (codes, image) => (codes, (splitOn '+' image).map codeOf)
    | none => (entry, [])
  match splitFirst? '-' codes, splitFirst? '=' codes with
  | some (first, last), _ => ⟨codeOf first, codeOf last, 1, image⟩
  | none, some (first, last) => ⟨codeOf first, codeOf last, 2, image⟩
  | none, none => ⟨codeOf codes, codeOf codes, 1, image⟩

/-- The rows of a table that is written as a text. -/
def rows (text : String) : List Row :=
  let blanks := text.toList.map fun c => if c = '\n' then ' ' else c
  ((splitOn ' ' blanks).filter fun entry => !entry.isEmpty).map rowOf

/-! ## Looking up -/

/-- Whether a code point is in a table. -/
def covers (table : List Row) (code : Nat) : Bool :=
  table.any fun row => row.holds code

/-- What the row of a code point says, the same for all code points of the row. -/
def image? (table : List Row) (code : Nat) : Option (List Nat) :=
  (table.find? fun row => row.holds code).map fun row => row.image

/-- What belongs to a code point, where neighbours in a row have neighbours as their images. -/
def shifted? (table : List Row) (code : Nat) : Option (List Nat) :=
  (table.find? fun row => row.holds code).map fun row =>
    row.image.map fun target => target + (code - row.first)

/-- The code point whose image is given. -/
def source? (table : List Row) (image : List Nat) : Option Nat :=
  (table.find? fun row => row.image = image).map fun row => row.first

end SignOn.Text.CodeTable
