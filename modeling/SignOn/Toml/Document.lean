import SignOn.Text.Utf8
import SignOn.Toml.Scan

/-!
# TOML documents

A document is a sequence of lines: table headers, headers of tables in an array, and keys with
values.  Every table is defined once.  A header may name a table that only stood above another so
far.  A key of several parts may add to such a table too, or to one that such keys made; from then
on no header may name it.  A table in braces is closed.  Reading keeps track of how each table
came about and refuses a document that defines something twice.
-/

namespace SignOn.Toml

set_option autoImplicit false

open Settings (Value)

/-! ## Trees under construction -/

/-- How a table came about. -/
inductive Origin where
  /-- As the parent of a table that a header names. -/
  | implied
  /-- By its own header. -/
  | header
  /-- By a key of several parts. -/
  | dotted
deriving DecidableEq, Repr

/-- A node of the tree that a document builds. -/
inductive Node where
  | value (value : Value)
  | table (origin : Origin) (members : List (String × Node))
  /-- The tables of an array, of which the last one is still open. -/
  | tables (done : List (List (String × Node))) (last : List (String × Node))

/-- The members of a table of the tree. -/
abbrev Members := List (String × Node)

/-- The node of a name. -/
def find? (members : Members) (name : String) : Option Node :=
  (members.find? fun member => member.1 = name).map Prod.snd

/-- Members with the node of a name replaced or added. -/
def set (members : Members) (name : String) (node : Node) : Members :=
  if members.any fun member => member.1 = name then
    members.map fun member => if member.1 = name then (name, node) else member
  else members ++ [(name, node)]

/-- The members after a header of a table. -/
def openTable : List String → Members → Option Members
  | [], _ => none
  | [name], members =>
      match find? members name with
      | none => some (set members name (.table .header []))
      | some (.table .implied inner) => some (set members name (.table .header inner))
      | some _ => none
  | name :: rest, members =>
      match find? members name with
      | none => (openTable rest []).map fun inner => set members name (.table .implied inner)
      | some (.table origin inner) =>
          (openTable rest inner).map fun inner => set members name (.table origin inner)
      | some (.tables done last) =>
          (openTable rest last).map fun last => set members name (.tables done last)
      | some (.value _) => none

/-- The members after a header of a table in an array. -/
def appendTable : List String → Members → Option Members
  | [], _ => none
  | [name], members =>
      match find? members name with
      | none => some (set members name (.tables [] []))
      | some (.tables done last) => some (set members name (.tables (done ++ [last]) []))
      | some _ => none
  | name :: rest, members =>
      match find? members name with
      | none => (appendTable rest []).map fun inner => set members name (.table .implied inner)
      | some (.table origin inner) =>
          (appendTable rest inner).map fun inner => set members name (.table origin inner)
      | some (.tables done last) =>
          (appendTable rest last).map fun last => set members name (.tables done last)
      | some (.value _) => none

/-- The members after a key with a value. -/
def assign (value : Value) : List String → Members → Option Members
  | [], _ => none
  | [name], members =>
      match find? members name with
      | none => some (set members name (.value value))
      | some _ => none
  | name :: rest, members =>
      match find? members name with
      | none => (assign value rest []).map fun inner => set members name (.table .dotted inner)
      | some (.table .implied inner) | some (.table .dotted inner) =>
          (assign value rest inner).map fun inner => set members name (.table .dotted inner)
      | some _ => none

/-- The members after a key with a value in the table that a header opened. -/
def assignWithin (value : Value) (key : List String) : List String → Members → Option Members
  | [], members => assign value key members
  | name :: rest, members =>
      match find? members name with
      | some (.table origin inner) =>
          (assignWithin value key rest inner).map fun inner => set members name (.table origin inner)
      | some (.tables done last) =>
          (assignWithin value key rest last).map fun last => set members name (.tables done last)
      | _ => none

mutual

/-- The value that a node stands for. -/
def Node.toValue : Node → Value
  | .value value => value
  | .table _ members => .table (membersToValues members)
  | .tables done last => .array (tablesToValues done ++ [.table (membersToValues last)])

/-- The values of the members of a table. -/
def membersToValues : List (String × Node) → List (String × Value)
  | [] => []
  | (name, node) :: rest => (name, node.toValue) :: membersToValues rest

/-- The values of the tables of an array. -/
def tablesToValues : List (List (String × Node)) → List Value
  | [] => []
  | members :: rest => .table (membersToValues members) :: tablesToValues rest

end

/-! ## Values -/

mutual

/-- A value of any kind, with the number of brackets and braces that may still be opened. -/
def readValue : Nat → Nat → Scan Value
  | 0, _, _ => none
  | count + 1, depth, characters =>
      match characters, depth with
      | '[' :: _, 0 | '\x7b' :: _, 0 => none
      | '[' :: rest, depth + 1 =>
          (readItems count depth rest).map fun (items, rest) => (.array items, rest)
      | '\x7b' :: rest, depth + 1 =>
          (readInline count depth [] rest).map fun (members, rest) =>
            (.table (membersToValues members), rest)
      | '"' :: _, _ | '\'' :: _, _ =>
          (readText characters).map fun (text, rest) => (.text (String.ofList text), rest)
      | _, _ => readWord characters

/-- The rest of an array after its bracket or a comma. -/
def readItems : Nat → Nat → Scan (List Value)
  | 0, _, _ => none
  | count + 1, depth, characters =>
      match skipLines characters.length characters with
      | ']' :: rest => some ([], rest)
      | start =>
          match readValue count depth start with
          | none => none
          | some (item, rest) =>
              match skipLines rest.length rest with
              | ',' :: more =>
                  (readItems count depth more).map fun (items, rest) => (item :: items, rest)
              | ']' :: more => some ([item], more)
              | _ => none

/-- The rest of a table in braces after its brace or a comma, with the members so far.  Lines may
end around keys, equals signs, values and commas. -/
def readInline : Nat → Nat → Members → Scan Members
  | 0, _, _, _ => none
  | count + 1, depth, members, characters =>
      match skipLines characters.length characters with
      | '\x7d' :: rest => some (members, rest)
      | start =>
          match readKey start with
          | none => none
          | some (key, rest) =>
              match skipLines rest.length rest with
              | '=' :: rest =>
                  match readValue count depth (skipLines rest.length rest) with
                  | none => none
                  | some (value, rest) =>
                      match assign value key members with
                      | none => none
                      | some members =>
                          match skipLines rest.length rest with
                          | ',' :: more => readInline count depth members more
                          | '\x7d' :: more => some (members, more)
                          | _ => none
              | _ => none

end

/-! ## Documents -/

/-- The tree of the lines of a document, with the header under which they stand. -/
def readDocument : Nat → List String → Members → List Char → Option Members
  | 0, _, _, _ => none
  | count + 1, current, members, characters =>
      match skipLines characters.length characters with
      | [] => some members
      | '[' :: '[' :: rest =>
          match readKey rest with
          | some (key, ']' :: ']' :: rest) =>
              match appendTable key members, endOfLine rest with
              | some members, some rest => readDocument count key members rest
              | _, _ => none
          | _ => none
      | '[' :: rest =>
          match readKey rest with
          | some (key, ']' :: rest) =>
              match openTable key members, endOfLine rest with
              | some members, some rest => readDocument count key members rest
              | _, _ => none
          | _ => none
      | line =>
          match readKey line with
          | some (key, '=' :: rest) =>
              match readValue line.length deepest (skipSpaces rest) with
              | none => none
              | some (value, rest) =>
                  match assignWithin value key current members, endOfLine rest with
                  | some members, some rest => readDocument count current members rest
                  | _, _ => none
          | _ => none

/-- The members of the table that a document denotes.  A byte-order mark in front does not count. -/
def ofText? (text : String) : Option (List (String × Value)) :=
  let characters := Text.dropByteOrderMark text.toList
  (readDocument (characters.length + 1) [] [] characters).map membersToValues

end SignOn.Toml
