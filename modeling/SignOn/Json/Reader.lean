import SignOn.Json.Token

/-!
# Reading JSON texts

The tokens of a text are taken one after another while a stack remembers the arrays and objects that
are still open.  No bound is put on their nesting.  A text is read when its tokens form exactly one
value.
-/

namespace SignOn.Json

set_option autoImplicit false

/-! ## The stack -/

/-- An array or an object that is still open, with its parts so far, latest first.  An open object
is waiting for the value of the given name. -/
inductive Frame where
  | items (done : List Json)
  | members (done : List (Option String × Json)) (name : Option String)

/-- What may come next, with the frames that are open, innermost first. -/
inductive Reading where
  /-- A value. -/
  | value (frames : List Frame)
  /-- The first item of an array, or its end. -/
  | firstItem (frames : List Frame)
  /-- The first name of an object, or its end. -/
  | firstName (frames : List Frame)
  /-- A further name of an object. -/
  | name (frames : List Frame) (done : List (Option String × Json))
  /-- The colon after a name. -/
  | colon (frames : List Frame) (done : List (Option String × Json)) (name : Option String)
  /-- A comma or an end after a value, or nothing more when no frame is open. -/
  | after (frames : List Frame) (json : Json)

/-- The object with the given members, in order.  A name that spells no text makes the whole object
unreadable, and no reader comes to its end, since a value follows the name. -/
def objectOf (members : List (Option String × Json)) : Json :=
  match members.mapM fun member => member.1.map fun name => (name, member.2) with
  | some named => .object named
  | none => .unreadable false

/-- The value of a string literal. -/
def ofPieces (pieces : List Piece) : Json :=
  match textOfPieces pieces with
  | some text => .string text
  | none => .unreadable (reachesQuote pieces)

namespace Reading

/-- Takes a token where a value must come. -/
def takeValue (frames : List Frame) : Token → Option Reading
  | .leftBrace => some (.firstName frames)
  | .leftBracket => some (.firstItem frames)
  | .null => some (.after frames .null)
  | .boolean truth => some (.after frames (.boolean truth))
  | .number literal => some (.after frames (.number literal))
  | .string pieces => some (.after frames (ofPieces pieces))
  | .rightBrace | .rightBracket | .colon | .comma => none

/-- Takes one token. -/
def step : Reading → Token → Option Reading
  | .value frames, token => takeValue frames token
  | .firstItem frames, .rightBracket => some (.after frames (.array []))
  | .firstItem frames, token => takeValue (.items [] :: frames) token
  | .firstName frames, .rightBrace => some (.after frames (.object []))
  | .firstName frames, .string pieces => some (.colon frames [] (textOfPieces pieces))
  | .name frames done, .string pieces => some (.colon frames done (textOfPieces pieces))
  | .colon frames done label, .colon => some (.value (.members done label :: frames))
  | .after (.items done :: frames) json, .comma => some (.value (.items (json :: done) :: frames))
  | .after (.items done :: frames) json, .rightBracket =>
      some (.after frames (.array (json :: done).reverse))
  | .after (.members done label :: frames) json, .comma =>
      some (.name frames ((label, json) :: done))
  | .after (.members done label :: frames) json, .rightBrace =>
      some (.after frames (objectOf ((label, json) :: done).reverse))
  | _, _ => none

/-- The value read, if it is complete. -/
def finish : Reading → Option Json
  | .after [] json => some json
  | _ => none

end Reading

/-- The value that a sequence of tokens forms. -/
def ofTokens? (tokens : List Token) : Option Json :=
  (tokens.foldlM Reading.step (Reading.value [])).bind Reading.finish

/-- The value that the bytes of a JSON text denote. -/
def ofBytes? (bytes : List UInt8) : Option Json :=
  (tokens? bytes).bind ofTokens?

/-- The value that a JSON text denotes. -/
def ofText? (text : String) : Option Json :=
  ofBytes? (Text.utf8 text)

end SignOn.Json
