import SignOn.Json.Record

/-!
# Forms of settings documents

Settings are read from two kinds of document: from JSON, where every value must have exactly the
kind that a field asks for, and from configuration files, where a number may stand for a text and
a text for a number.  A form says how the values of one kind of document are read, so that the
settings themselves are described once.
-/

namespace SignOn.Settings

set_option autoImplicit false

/-- How the values of a document are read. -/
structure Form (ν : Type) where
  /-- The fields of a record with the given names. -/
  fields? : List String → ν → Option (String → Field ν)
  isNull : ν → Bool
  text? : ν → Option String
  /-- A number of sixty-four bits without a sign. -/
  natural? : ν → Option Nat
  boolean? : ν → Option Bool

namespace Form

variable {ν α : Type}

/-- Null as nothing, and every other value through a reader. -/
def nullable (form : Form ν) (read : ν → Option α) (value : ν) : Option (Option α) :=
  if form.isNull value then some none else (read value).map some

/-- The form of JSON documents. -/
def json : Form Json where
  fields? := Json.fields?
  isNull
    | .null => true
    | _ => false
  text? := Json.asString?
  natural? := Json.asNatural?
  boolean? := Json.asBoolean?

end Form

end SignOn.Settings
