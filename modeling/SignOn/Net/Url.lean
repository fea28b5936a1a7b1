import SignOn.Net.Host
import SignOn.Text.Blank

/-!
# Addresses on the web

An address has a scheme, for most schemes a host with perhaps a user and a port, a path, and perhaps
a query and a fragment.  Reading normalises it: scheme and host in lowercase, the port left out when
it is the usual one, dot segments of the path resolved, and characters that may not stand for
themselves escaped.  An address without a scheme is refused.

An address is read from its front to its end; each reader of a part gives back what follows.
-/

namespace SignOn.Net

set_option autoImplicit false

/-! ## Parts -/

/-- The part of an address that names a machine. -/
structure Authority where
  /-- The name of a user, with a password after a colon if there is one. -/
  user : List Char
  host : List Char
  port : Option Nat
deriving DecidableEq, Repr

/-- An address on the web. -/
structure Url where
  scheme : List Char
  authority : Option Authority
  /-- Whether a dot segment stands in front of the path, so that what follows is not taken for a
  machine. -/
  shielded : Bool
  path : List Char
  query : Option (List Char)
  fragment : Option (List Char)
deriving DecidableEq, Repr

/-- The usual port of a scheme. -/
def usualPort? (scheme : List Char) : Option Nat :=
  if scheme = "http".toList ∨ scheme = "ws".toList then some 80
  else if scheme = "https".toList ∨ scheme = "wss".toList then some 443
  else if scheme = "ftp".toList then some 21
  else none

/-- The scheme of local files. -/
def fileScheme : List Char := "file".toList

/-- Whether addresses of a scheme always have a host and a path, and take a backslash for a slash.
-/
def isSpecial (scheme : List Char) : Bool :=
  (usualPort? scheme).isSome || scheme = fileScheme

/-! ## Escapes -/

/-- Whether a byte is a control or lies beyond ASCII. -/
def isControlByte (byte : UInt8) : Bool := byte < 0x20 || byte > 0x7E

/-- Whether a byte stands for one of the given characters. -/
def isAmong (characters : String) (byte : UInt8) : Bool :=
  characters.toList.any fun character => character.toNat = byte.toNat

/-- Bytes that are escaped in a fragment. -/
def escapedInFragment (byte : UInt8) : Bool := isControlByte byte || isAmong " \"<>`" byte

/-- Bytes that are escaped in a query. -/
def escapedInQuery (special : Bool) (byte : UInt8) : Bool :=
  isControlByte byte || isAmong " \"#<>" byte || (special && isAmong "'" byte)

/-- Bytes that are escaped in a path. -/
def escapedInPath (byte : UInt8) : Bool := isControlByte byte || isAmong " \"#<>?`\x7b\x7d" byte

/-- Bytes that are escaped in the name of a user. -/
def escapedInUser (byte : UInt8) : Bool := escapedInPath byte || isAmong "/:;=@[\\]^|" byte

/-- Characters with the bytes that satisfy a test escaped. -/
def escapeChars (escaped : UInt8 → Bool) (characters : List Char) : List Char :=
  Text.Percent.encode escaped (String.ofList characters)

/-! ## Paths -/

/-- Whether a segment stands for the place that it is in. -/
def isSingleDot (segment : List Char) : Bool :=
  [".", "%2e"].contains (String.ofList (segment.map Char.toLower))

/-- Whether a segment stands for the place above. -/
def isDoubleDot (segment : List Char) : Bool :=
  ["..", ".%2e", "%2e.", "%2e%2e"].contains (String.ofList (segment.map Char.toLower))

/-- Whether a segment names a disk: a letter with a colon or a bar. -/
def isDisk : List Char → Bool
  | [letter, mark] => letter.isAlpha && (mark = ':' || mark = '|')
  | _ => false

/-- Whether no dot segment leads above a segment: it names a disk, perhaps with more after a
backslash. -/
def isFixed : List Char → Bool
  | letter :: mark :: '\\' :: _ => isDisk [letter, mark]
  | segment => isDisk segment

/-- The segments so far, latest first, without the last one where that may go. -/
def dropLast : List (List Char) → List (List Char)
  | [] => []
  | last :: rest => if isFixed last then last :: rest else rest

/-- A segment of a path after the ones so far.  At the start of the path of a local file the mark
of a disk is a colon. -/
def placed (isFile : Bool) (done : List (List Char)) (segment : List Char) : List Char :=
  if isFile && done.isEmpty && isDisk segment then segment.take 1 ++ [':'] else segment

/-- The segments of a path with dot segments resolved.  The segments so far stand latest first; a
dot segment at the end leaves an empty one. -/
def resolveDots (isFile : Bool) : List (List Char) → List (List Char) → List (List Char)
  | done, [] => done.reverse
  | done, [segment] =>
      if isDoubleDot segment then ([] :: dropLast done).reverse
      else if isSingleDot segment then ([] :: done).reverse
      else (placed isFile done segment :: done).reverse
  | done, segment :: rest =>
      if isDoubleDot segment then resolveDots isFile (dropLast done) rest
      else if isSingleDot segment then resolveDots isFile done rest
      else resolveDots isFile (placed isFile done segment :: done) rest

/-- The segments of a path after its first slash, dot segments resolved and characters escaped. -/
def segmentsOf (scheme characters : List Char) : List (List Char) :=
  let slashes :=
    if isSpecial scheme then characters.map fun c => if c = '\\' then '/' else c else characters
  resolveDots (scheme = fileScheme) []
    ((Text.splitOn '/' slashes).map (escapeChars escapedInPath))

/-- The path that segments form from the root.  That of a local file starts with one slash only. -/
def rootedPath (scheme : List Char) (segments : List (List Char)) : List Char :=
  let joined := Text.joinWith '/' segments
  '/' :: if scheme = fileScheme then joined.dropWhile (· = '/') else joined

/-- The path of what follows its first slash, normalised. -/
def normalPath (scheme characters : List Char) : List Char :=
  rootedPath scheme (segmentsOf scheme characters)

/-! ## Reading -/

/-- The scheme in front of a text, in lowercase, and what follows its colon. -/
def readScheme (characters : List Char) : Option (List Char × List Char) :=
  match Text.splitFirst? ':' characters with
  | none => none
  | some (scheme, rest) =>
      match scheme with
      | first :: more =>
          if first.isAlpha && more.all fun c => c.isAlphanum || c = '+' || c = '-' || c = '.' then
            some (scheme.map Char.toLower, rest)
          else none
      | [] => none

/-- A user as it is written in an address; without a name and a password there is none. -/
def userText (characters : List Char) : List Char :=
  match Text.splitFirst? ':' characters with
  | none => escapeChars escapedInUser characters
  | some (name, password) =>
      if password.isEmpty then escapeChars escapedInUser name
      else escapeChars escapedInUser name ++ ':' :: escapeChars escapedInUser password

/-- Whether a character begins the query or the fragment. -/
def endsPath (character : Char) : Bool := character = '?' || character = '#'

/-- Whether a character separates the parts of a path. -/
def isSlash (special : Bool) (character : Char) : Bool :=
  character = '/' || (special && character = '\\')

/-- The user in front of a machine, with what follows the sign after it.  A sign with nothing before
it counts for nothing, but then something must follow. -/
def readUser (special : Bool) (characters : List Char) : Option (List Char × List Char) :=
  let front := characters.takeWhile fun c => !isSlash special c && !endsPath c
  match Text.splitLast? '@' front with
  | none => some ([], characters)
  | some (user, _) =>
      let rest := characters.drop (user.length + 1)
      if user.isEmpty && rest.head?.any (fun c => isSlash special c || endsPath c) then none
      else some (userText user, rest)

/-- The text of a host, up to a colon outside brackets or the end of the machine, with what follows.
-/
def splitHost (special : Bool) : Bool → List Char → List Char × List Char
  | _, [] => ([], [])
  | inBrackets, character :: rest =>
      if isSlash special character || endsPath character || (character = ':' && !inBrackets) then
        ([], character :: rest)
      else
        let inside := if character = '[' then true else if character = ']' then false else inBrackets
        let (host, more) := splitHost special inside rest
        (character :: host, more)

/-- The port after a colon, with what follows: nothing, or digits up to 65535.  The usual port of
the scheme is left out. -/
def readPort (scheme characters : List Char) : Option (Option Nat × List Char) :=
  let digits := characters.takeWhile Char.isDigit
  let rest := characters.dropWhile Char.isDigit
  let port := Text.valueOfDigits digits
  if !rest.head?.all (fun c => isSlash true c || endsPath c) || port ≥ 65536 then none
  else some (if digits.isEmpty || usualPort? scheme = some port then none else some port, rest)

/-- The machine in front of a text, with what follows.  Neither a user nor a port goes without a
host. -/
def readAuthority (scheme characters : List Char) : Option (Authority × List Char) := do
  let special := isSpecial scheme
  let (user, rest) ← readUser special characters
  let (hostText, rest) := splitHost special false rest
  let host ← if special then domainHost? hostText else otherHost? hostText
  if host.isEmpty && (!user.isEmpty || rest.head? = some ':') then none
  match rest with
  | ':' :: rest => do
      let (port, rest) ← readPort scheme rest
      some (⟨user, host, port⟩, rest)
  | rest => some (⟨user, host, none⟩, rest)

/-- The machine itself. -/
def thisMachine : Authority := ⟨[], [], none⟩

/-- The machine of a local file; the machine itself is left out. -/
def readFileHost (characters : List Char) : Option Authority :=
  if characters.isEmpty then some thisMachine
  else
    (domainHost? characters).map fun host =>
      if host = "localhost".toList then thisMachine else ⟨[], host, none⟩

/-- The machine and the path of a local file, from what follows two slashes.  A disk in the place of
the machine, or at the start of the path, is one of the machine itself. -/
def readFileBody (characters : List Char) : Option (Authority × List Char) :=
  let machine := characters.takeWhile fun c => !isSlash true c
  let path := characters.dropWhile fun c => !isSlash true c
  if isDisk machine then some (thisMachine, normalPath fileScheme characters)
  else
    (readFileHost machine).map fun authority =>
      if authority = thisMachine then (thisMachine, normalPath fileScheme path)
      else
        let segments := segmentsOf fileScheme (path.drop 1)
        (if segments.head?.any isDisk then thisMachine else authority, rootedPath fileScheme segments)

/-- The machine and the path in the body of an address, which ends before the query. -/
def readBody (scheme body : List Char) : Option Url :=
  let special := isSpecial scheme
  let startsWithTwo := (body.take 2).length = 2 && (body.take 2).all (isSlash special)
  if scheme = fileScheme then
    if startsWithTwo then
      (readFileBody (body.drop 2)).map fun (authority, path) =>
        ⟨scheme, some authority, false, path, none, none⟩
    else
      let path := if body.head?.any (isSlash true) then body.drop 1 else body
      some ⟨scheme, some thisMachine, false, normalPath scheme path, none, none⟩
  else if body.head? = some '/' then
    let path := normalPath scheme (body.drop 1)
    some ⟨scheme, none, path.take 2 = ['/', '/'], path, none, none⟩
  else some ⟨scheme, none, false, escapeChars isControlByte body, none, none⟩

/-- The path after a machine. -/
def pathAfterMachine (scheme characters : List Char) : List Char :=
  match characters with
  | [] => if isSpecial scheme then ['/'] else []
  | first :: rest => normalPath scheme (if isSlash (isSpecial scheme) first then rest else characters)

/-- An address of a scheme, without its query and fragment, and what follows. -/
def readFront (scheme characters : List Char) : Option (Url × List Char) :=
  let special := isSpecial scheme
  let isNet := scheme ≠ fileScheme && (special || characters.take 2 = ['/', '/'])
  if isNet then
    let rest := if special then characters.dropWhile (isSlash true) else characters.drop 2
    (readAuthority scheme rest).map fun (authority, rest) =>
      let path := pathAfterMachine scheme (rest.takeWhile fun c => !endsPath c)
      (⟨scheme, some authority, false, path, none, none⟩, rest.dropWhile fun c => !endsPath c)
  else
    (readBody scheme (characters.takeWhile fun c => !endsPath c)).map fun url =>
      (url, characters.dropWhile fun c => !endsPath c)

/-- The query and the fragment at the end of a text. -/
def readTail : List Char → Option (List Char) × Option (List Char)
  | '?' :: rest =>
      match Text.splitFirst? '#' rest with
      | some (query, fragment) => (some query, some fragment)
      | none => (some rest, none)
  | '#' :: rest => (none, some rest)
  | _ => (none, none)

namespace Url

/-- The address that a text denotes.  Controls and spaces at its ends and line breaks and tabs
within are passed over. -/
def ofText? (text : String) : Option Url := do
  let stripped := Text.stripBoth (fun c => c.toNat ≤ 0x20) text.toList
  let cleaned := stripped.filter fun c => c ≠ '\t' && c ≠ '\n' && c ≠ '\r'
  let (scheme, rest) ← readScheme cleaned
  let (url, rest) ← readFront scheme rest
  let (query, fragment) := readTail rest
  some
    { url with
      query := query.map (escapeChars (escapedInQuery (isSpecial url.scheme)))
      fragment := fragment.map (escapeChars escapedInFragment) }

/-! ## Writing -/

/-- A host with its port, when that is not the usual one. -/
def hostText (authority : Authority) : List Char :=
  authority.host ++
    match authority.port with
    | some port => ':' :: Text.digits port
    | none => []

/-- An address as text. -/
def text (url : Url) : String :=
  String.ofList
    (url.scheme ++ ':' ::
      (match url.authority with
        | none => if url.shielded then ['/', '.'] else []
        | some authority =>
            '/' :: '/' :: (if authority.user.isEmpty then [] else authority.user ++ ['@']) ++
              hostText authority) ++
      url.path ++
      (match url.query with
        | none => []
        | some query => '?' :: query) ++
      (match url.fragment with
        | none => []
        | some fragment => '#' :: fragment))

/-- What a request for an address asks the machine for: the path and the query. -/
def target (url : Url) : String :=
  String.ofList
    (url.path ++
      match url.query with
      | none => []
      | some query => '?' :: query)

/-- The address with another path in place of path and query.  Where the path does not start at the
root, the slash in front is escaped. -/
def withPath (url : Url) (path : List Char) : Url :=
  { url with
    path :=
      if url.authority.isNone && url.path.head? ≠ some '/' then
        match path with
        | '/' :: rest => "%2F".toList ++ escapeChars isControlByte rest
        | rest => escapeChars isControlByte rest
      else path
    query := none }

/-- The address with a query already encoded. -/
def withQuery (url : Url) (query : List Char) : Url :=
  { url with query := some query }

end Url

end SignOn.Net
