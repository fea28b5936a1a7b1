import SignOn.Json.Reader
import SignOn.Json.Record
import SignOn.Json.Writer
import SignOn.Time.Rfc3339

/-!
# Audit events

Every audited operation leaves one record: what was done, by whom, with what outcome, from where,
how grave it is and when it happened.  Records are kept as JSON texts, whose members stand in a
fixed order, and are also written to the log as one line of named fields.
-/

namespace SignOn.Audit

set_option autoImplicit false

/-! ## Casing

The variants of a record's enumerations are written by their identifiers, cased by a rule.
-/

/-- An identifier in capitals. -/
def inCapitals (identifier : String) : String :=
  String.ofList (identifier.toList.map Char.toUpper)

/-- An identifier in capitals, with an underscore before each capital it had behind its first
character. -/
def inSpacedCapitals (identifier : String) : String :=
  match identifier.toList with
  | [] => ""
  | first :: rest =>
      String.ofList (first.toUpper :: rest.flatMap fun character =>
        if character.isUpper then ['_', character] else [character.toUpper])

/-! ## Kinds and levels -/

/-- What is audited. -/
inductive Operation where
  | login
  | tokenReissue
  | logout
  | accessCheck
  | rateLimitExceeded
deriving DecidableEq, Repr

namespace Operation

/-- All operations. -/
def all : List Operation := [.login, .tokenReissue, .logout, .accessCheck, .rateLimitExceeded]

/-- The name of an operation in the log. -/
def name : Operation → String
  | .login => "LOGIN"
  | .tokenReissue => "TOKEN_REISSUE"
  | .logout => "LOGOUT"
  | .accessCheck => "ACCESS_CHECK"
  | .rateLimitExceeded => "RATE_LIMIT_EXCEEDED"

/-- The identifier of an operation. -/
def identifier : Operation → String
  | .login => "Login"
  | .tokenReissue => "TokenReissue"
  | .logout => "Logout"
  | .accessCheck => "AccessCheck"
  | .rateLimitExceeded => "RateLimitExceeded"

/-- The tag of an operation in records. -/
def tag (operation : Operation) : String := inSpacedCapitals operation.identifier

/-- The operation with a tag. -/
def ofTag? (tag : String) : Option Operation :=
  all.find? fun operation => operation.tag = tag

end Operation

/-- How grave an event is: a success, an expected failure, or an unexpected one. -/
inductive Level where
  | info
  | warn
  | error
deriving DecidableEq, Repr

namespace Level

/-- The identifier of a level. -/
def identifier : Level → String
  | .info => "Info"
  | .warn => "Warn"
  | .error => "Error"

/-- The tag of a level in records. -/
def tag (level : Level) : String := inCapitals level.identifier

/-- The level with a tag. -/
def ofTag? (tag : String) : Option Level :=
  [Level.info, .warn, .error].find? fun level => level.tag = tag

end Level

/-! ## Events -/

/-- The record of one audited operation. -/
structure Event where
  operation : Operation
  /-- The identity that acted, or the placeholder for none. -/
  user : String
  /-- The outcome in words. -/
  message : String
  /-- The rendering of the caller's address. -/
  origin : String
  level : Level
  timestamp : Timestamp
deriving DecidableEq, Repr

namespace Event

/-- The names of the members of a record, in order. -/
def memberNames : List String := ["type", "user", "message", "ip", "level", "timestamp"]

/-- A record as a JSON value. -/
def toJson (event : Event) : Json :=
  .object
    [("type", .string event.operation.tag), ("user", .string event.user),
     ("message", .string event.message), ("ip", .string event.origin),
     ("level", .string event.level.tag), ("timestamp", .string event.timestamp.text)]

/-- A record as a JSON text. -/
def text (event : Event) : String :=
  event.toJson.text

/-- The record in a JSON value. -/
def ofJson? (json : Json) : Option Event := do
  let field ← json.fields? memberNames
  let operation ← (field "type").required (Json.asTag? Operation.ofTag?)
  let user ← (field "user").required Json.asString?
  let message ← (field "message").required Json.asString?
  let origin ← (field "ip").required Json.asString?
  let level ← (field "level").required (Json.asTag? Level.ofTag?)
  let timestamp ← (field "timestamp").required fun value =>
    value.asString?.bind Timestamp.ofText?
  some ⟨operation, user, message, origin, level, timestamp⟩

/-- The record that a JSON text denotes. -/
def ofText? (text : String) : Option Event :=
  (Json.ofText? text).bind ofJson?

end Event

/-! ## Log lines -/

/-- One line of the log: its level, the target it is addressed to, and its fields by name. -/
structure LogLine where
  level : Level
  target : String
  fields : List (String × String)
deriving DecidableEq, Repr

/-- The target of audit events in the log. -/
def logTarget : String := "security_audit"

/-- The log line of an event. -/
def Event.logLine (event : Event) : LogLine :=
  ⟨event.level, logTarget,
   [("operation", event.operation.name), ("user", event.user), ("ip", event.origin),
    ("timestamp", event.timestamp.offsetText), ("message", event.message)]⟩

end SignOn.Audit
