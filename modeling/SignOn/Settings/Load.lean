import SignOn.Credential.Codec
import SignOn.Settings.Auth
import SignOn.Settings.Site
import SignOn.Toml.Document

/-!
# Loading the settings

Settings come in three layers: built-in ones, those of a file, and those of the environment.  A
later layer replaces single values of an earlier one, and a key may lead into tables and arrays.
What has been put together is read into the settings of the deployment and then checked for values
that could not work.
-/

namespace SignOn.Settings

set_option autoImplicit false

/-! ## The settings of the deployment -/

/-- All settings of the deployment. -/
structure Deployment where
  server : Server
  auth : Auth
  providers : Providers
  sweepSeconds : Nat

/-- Why settings cannot be used. -/
inductive LoadError where
  /-- A layer cannot be read, or the layers together lack something or do not fit. -/
  | unreadable
  /-- The settings contradict themselves. -/
  | invalid (reason : String)
deriving DecidableEq, Repr

/-- The message of settings that contradict themselves. -/
def LoadError.message : LoadError → String
  | .unreadable => "configuration error"
  | .invalid reason => "invalid configuration: " ++ reason

/-- The settings of the deployment in a document. -/
def Form.deployment? {ν : Type} (form : Form ν) (value : ν) : Option Deployment := do
  let field ← form.fields? ["server", "auth", "providers", "store"] value
  let server ← (field "server").required form.server?
  let auth ← (field "auth").required form.auth?
  let providers ← (field "providers").orElse Providers.none form.providers?
  let sweepSeconds ← (field "store").required fun store => do
    let inner ← form.fields? ["sweep_interval_secs"] store
    (inner "sweep_interval_secs").required form.natural?
  some ⟨server, auth, providers, sweepSeconds⟩

/-- What makes settings unusable, if anything does: a short secret, a lifetime of zero, no time
between sweeps, or access credentials that live as long as refresh credentials. -/
def Deployment.defect? (deployment : Deployment) : Option String :=
  let length := (Text.utf8 deployment.auth.signingSecret).length
  if length < minimumSecretLength then
    some ("auth.signing_secret must be at least " ++
      String.ofList (Text.digits minimumSecretLength) ++ " bytes, got " ++
      String.ofList (Text.digits length))
  else if deployment.auth.accessSeconds = 0 ∨ deployment.auth.refreshSeconds = 0 then
    some "token lifetimes must be positive"
  else if deployment.sweepSeconds = 0 then some "store.sweep_interval_secs must be positive"
  else if deployment.auth.accessSeconds ≥ deployment.auth.refreshSeconds then
    some "auth.access_ttl_secs must be shorter than auth.refresh_ttl_secs"
  else none

/-- Settings that do not contradict themselves. -/
def Deployment.validate (deployment : Deployment) : Except LoadError Deployment :=
  match deployment.defect? with
  | some reason => .error (.invalid reason)
  | none => .ok deployment

/-! ## Layers -/

/-- The built-in settings. -/
def builtIn : Value :=
  .table
    [("server", .table
       [("host", .text "0.0.0.0"), ("port", .integer 8080),
        ("allowed_origin", .text "http://localhost:3000"),
        ("cookie", .table
          [("name", .text "refreshToken"), ("path", .text "/"), ("secure", .boolean true)])]),
     ("store", .table [("sweep_interval_secs", .integer 60)])]

/-- What the name of a variable of the settings begins with, in small letters. -/
def variableStart : List Char := "warden__".toList

/-- A character as it counts in the name of a variable: its small letter.  Only letters of ASCII
matter in the names of settings, and beyond ASCII only the Kelvin sign has one as its small letter.
-/
def smallLetter (character : Char) : Char :=
  if character = '\u212A' then 'k' else character.toLower

/-- The path of the setting that a variable of the environment gives, if it gives one.  Case does
not matter; two underscores part the names. -/
def pathOfVariable? (name : String) : Option (List Step) :=
  let lower := name.toList.map smallLetter
  if variableStart.isPrefixOf lower then
    some (Step.ofKey (String.ofList (separate (lower.drop variableStart.length))))
  else none
where
  /-- Two underscores as a point. -/
  separate : List Char → List Char
    | '_' :: '_' :: rest => '.' :: separate rest
    | character :: rest => character :: separate rest
    | [] => []

/-- A number of sixty-four bits with a sign, in digits after an optional sign. -/
def integerOfText? (text : String) : Option Int :=
  let (negative, digits) := match text.toList with
    | '-' :: rest => (true, rest)
    | '+' :: rest => (false, rest)
    | rest => (false, rest)
  (Text.ofDigits? digits).bind fun value =>
    let signed : Int := if negative then -value else value
    if -9223372036854775808 ≤ signed ∧ signed ≤ 9223372036854775807 then some signed else none

/-- A number with a fraction or an exponent, or the name of a value beyond all numbers. -/
def realOfText? (text : String) : Option Real :=
  let (negative, rest) := match text.toList with
    | '-' :: rest => (true, rest)
    | '+' :: rest => (false, rest)
    | rest => (false, rest)
  let word := String.ofList (rest.map Char.toLower)
  if word = "inf" ∨ word = "infinity" then some (.infinite negative)
  else if word = "nan" then some .undefined
  else
    let whole := rest.takeWhile Char.isDigit
    let rest := rest.dropWhile Char.isDigit
    let (places, rest) := match rest with
      | '.' :: more => (more.takeWhile Char.isDigit, more.dropWhile Char.isDigit)
      | more => ([], more)
    if whole.isEmpty && places.isEmpty then none
    else
      (exponent rest).map fun power =>
        Real.ofDecimal negative (Text.valueOfDigits (whole ++ places)) (power - places.length)
where
  /-- The value of an exponent with its letter; nothing stands for zero. -/
  exponent : List Char → Option Int
    | [] => some 0
    | letter :: rest =>
        if letter = 'e' ∨ letter = 'E' then
          match rest with
          | '-' :: digits => (Text.ofDigits? digits).map fun value => -(value : Int)
          | '+' :: digits => (Text.ofDigits? digits).map fun value => (value : Int)
          | digits => (Text.ofDigits? digits).map fun value => (value : Int)
        else none

/-- The value that a variable of the environment gives: a truth value, a number, or the text. -/
def valueOfVariable (text : String) : Value :=
  let word := String.ofList (text.toList.map Char.toLower)
  if word = "true" then .boolean true
  else if word = "false" then .boolean false
  else
    match integerOfText? text with
    | some value => .integer value
    | none =>
        match realOfText? text with
        | some value => .real value
        | none => .text text

/-! ## Loading -/

/-- The file that holds settings: its text, if there is one. -/
inductive File where
  | present (text : String)
  | absent
  /-- There is none, and there need not be one. -/
  | optionalAbsent
deriving DecidableEq, Repr

/-- The members of the file layer. -/
def File.members? : File → Option (List (String × Value))
  | .present text => Toml.ofText? text
  | .absent => none
  | .optionalAbsent => some []

/-- All layers put together: those of the file and the environment first, so that what they leave
out of a table is built in even where one of them took the place of another. -/
def layered (file : List (String × Value)) (environment : List (String × String)) : Value :=
  let ofFile := file.foldl (fun root entry => root.mergeAt (Step.ofKey entry.1) entry.2) (.table [])
  let given := environment.foldl
    (fun root entry =>
      match pathOfVariable? entry.1 with
      | some path => root.mergeAt path (valueOfVariable entry.2)
      | none => root)
    ofFile
  builtIn.merge given

/-- The settings of a file and an environment. -/
def load (file : File) (environment : List (String × String)) : Except LoadError Deployment :=
  match file.members? with
  | none => .error .unreadable
  | some members =>
      match Form.liberal.deployment? (layered members environment) with
      | none => .error .unreadable
      | some deployment => deployment.validate

end SignOn.Settings
