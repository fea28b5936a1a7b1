import SignOn.Json.Basic
import SignOn.Record

/-!
# Reading records from JSON

A record is written as an object, or as an array of the field values in the order of declaration.
In an object a field of the record must not be repeated, while other members may be; an array must
not be longer than the record.
-/

namespace SignOn.Json

set_option autoImplicit false

/-- Whether no name of a list occurs more than once among the members of an object. -/
def saysOnce (names : List String) (members : List (String × Json)) : Bool :=
  names.all fun name => (members.filter fun member => member.1 = name).length ≤ 1

/-- The fields of a record with the given names, in the order of declaration. -/
def fields? (names : List String) : Json → Option (String → Field Json)
  | .object members => if saysOnce names members then some (fieldOfMembers members) else none
  | .array items => if items.length ≤ names.length then some (fieldOfItems names items) else none
  | _ => none

end SignOn.Json

namespace SignOn

set_option autoImplicit false

/-- A field that may be null or missing, but not cut off. -/
def Field.optional {α : Type} (read : Json → Option α) (field : Field Json) : Option (Option α) :=
  field.orMissing (Json.nullable read)

end SignOn
