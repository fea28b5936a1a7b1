import Mathlib.Tactic.ByContra
import SignOn.Json.Record

/-!
# What a JSON record says

A record is read by the values of the members that have the names of its fields, whatever members
there are beside them and wherever they stand (`fieldOf?_valuesOf`).  Two members of one name say
nothing that can be relied on.  `Says` tells what a record says about a field without reading it,
and reading finds just that (`Says.iff_given`).
-/

namespace SignOn.Json

set_option autoImplicit false

variable {names : List String} {name : String} {members : List (String × Json)} {json value : Json}
  {field : String → Field Json}

/-! ## Members of one name -/

/-- The values of the members with a name. -/
def valuesOf (name : String) (members : List (String × Json)) : List Json :=
  (members.filter fun member => member.1 = name).map Prod.snd

/-- The field of a record that has some values, unless there are several. -/
def fieldOf? : List Json → Option (Field Json)
  | [] => some .missing
  | [value] => some (.given value)
  | _ :: _ :: _ => none

theorem length_valuesOf :
    (valuesOf name members).length = (members.filter fun member => member.1 = name).length :=
  List.length_map _

theorem fieldOf?_eq_none_iff {values : List Json} : fieldOf? values = none ↔ 1 < values.length := by
  match values with
  | [] | [_] | _ :: _ :: _ => simp [fieldOf?]

/-- A field with one value at most is the field of its name. -/
theorem fieldOf?_valuesOf_of_le (once : (valuesOf name members).length ≤ 1) :
    fieldOf? (valuesOf name members) = some (fieldOfMembers members name) := by
  have first : members.find? (fun member => member.1 = name) =
      (members.filter fun member => member.1 = name).head? := List.head?_filter.symm
  rw [fieldOfMembers, first]
  unfold valuesOf at once ⊢
  cases found : members.filter fun member => member.1 = name with
  | nil => rfl
  | cons member rest =>
    rw [found, List.length_map, List.length_cons] at once
    obtain rfl := List.length_eq_zero_iff.1 (Nat.le_zero.1 (Nat.le_of_succ_le_succ once))
    rfl

theorem saysOnce_iff :
    saysOnce names members = true ↔ ∀ name ∈ names, (valuesOf name members).length ≤ 1 := by
  simp only [saysOnce, List.all_eq_true, decide_eq_true_iff, length_valuesOf]

/-- An object is read by the values of its names. -/
theorem fieldOf?_valuesOf (read : fields? names (.object members) = some field)
    (member : name ∈ names) : fieldOf? (valuesOf name members) = some (field name) := by
  simp only [fields?] at read
  split at read
  · next once =>
    obtain rfl := Option.some.inj read
    exact fieldOf?_valuesOf_of_le (saysOnce_iff.1 once name member)
  · cases read

/-- An object that cannot be read has several values of one name. -/
theorem exists_fieldOf?_eq_none (unread : fields? names (.object members) = none) :
    ∃ name ∈ names, fieldOf? (valuesOf name members) = none := by
  simp only [fields?] at unread
  split at unread
  · cases unread
  · next several =>
    by_contra! single
    refine several (saysOnce_iff.2 fun name member => ?_)
    exact Nat.not_lt.1 (mt fieldOf?_eq_none_iff.2 (single name member))

/-! ## What is said about a field -/

/-- A record with some names says a value about one of them. -/
inductive Says (names : List String) (name : String) : Json → Json → Prop
  | member {members : List (String × Json)} {value : Json} (only : valuesOf name members = [value]) :
      Says names name (.object members) value
  | item {items : List Json} {value : Json} (place : items[names.idxOf name]? = some value) :
      Says names name (.array items) value

theorem fieldOf?_eq_given_iff {values : List Json} :
    fieldOf? values = some (.given value) ↔ values = [value] := by
  match values with
  | [] | [_] | _ :: _ :: _ => simp [fieldOf?]

theorem Says.iff_given (read : fields? names json = some field) (member : name ∈ names) :
    field name = .given value ↔ Says names name json value := by
  cases json with
  | object members =>
    have told := fieldOf?_valuesOf read member
    constructor
    · intro given
      rw [given] at told
      exact .member (fieldOf?_eq_given_iff.1 told)
    · rintro ⟨only⟩
      rw [fieldOf?_eq_given_iff.2 only] at told
      exact (Option.some.inj told).symm
  | array items =>
    simp only [fields?] at read
    split at read
    · obtain rfl := Option.some.inj read
      unfold fieldOfItems
      constructor
      · intro given
        split at given
        · next found place =>
          cases given
          exact .item place
        · cases given
      · rintro (_ | place)
        rw [place]
    · cases read
  | null | boolean | number | string | unreadable => cases read

end SignOn.Json
