/-!
# Records read by name or by place

A record with named fields is given either by members that carry the names, in any order and perhaps
beside others, or by the field values in the order of declaration.  What an absent field means
differs between the two: an optional field may be missing among members, while values may only end
before fields that have a default.
-/

namespace SignOn

set_option autoImplicit false

/-- What a record says about one of its fields. -/
inductive Field (ν : Type) where
  | given (value : ν)
  /-- No member has the name of the field. -/
  | missing
  /-- The values end before the field. -/
  | cutOff

namespace Field

variable {ν α : Type}

/-- A field that has to be there. -/
def required (read : ν → Option α) : Field ν → Option α
  | .given value => read value
  | _ => none

/-- A field that may be missing, but not cut off. -/
def orMissing (read : ν → Option (Option α)) : Field ν → Option (Option α)
  | .given value => read value
  | .missing => some none
  | .cutOff => none

/-- A field that has a default for being absent. -/
def orElse (standard : α) (read : ν → Option α) : Field ν → Option α
  | .given value => read value
  | _ => some standard

end Field

/-- The field of a name among members; of several the first one. -/
def fieldOfMembers {ν : Type} (members : List (String × ν)) (name : String) : Field ν :=
  match members.find? fun member => member.1 = name with
  | some member => .given member.2
  | none => .missing

/-- The field of a name among values in the order of the names. -/
def fieldOfItems {ν : Type} (names : List String) (items : List ν) (name : String) : Field ν :=
  match items[names.idxOf name]? with
  | some value => .given value
  | none => .cutOff

end SignOn
