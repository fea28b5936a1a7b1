import SignOn.Http.Message
import SignOn.Settings.Site
import SignOn.Text.Blank
import SignOn.Text.Percent

/-!
# The refresh cookie

The refresh credential travels in a cookie that scripts cannot read.  Its name and its value are
written with escapes for every character that could end them, so whatever they hold comes back
unchanged.  When cookies are read, pieces without an equals sign, without a name, or with escapes
that spell no text are passed over; of several cookies of one name the last one counts, and an empty
value counts as none.
-/

namespace SignOn.Http

set_option autoImplicit false

/-! ## Writing -/

/-- The marks that are escaped in the name and the value of a cookie. -/
def escapedMarks : List Char := " \"#<>?`\x7b\x7d/:;=@[\\]^|%(),".toList

/-- Whether a byte is escaped in the name and the value of a cookie: controls, bytes beyond ASCII,
and the marks. -/
def escapedInCookie (byte : UInt8) : Bool :=
  byte < 0x20 || byte ≥ 0x7F || escapedMarks.any fun mark => mark.toNat = byte.toNat

/-- The name and the value of a cookie, as they are written. -/
def cookiePair (name value : String) : List Char :=
  Text.Percent.encode escapedInCookie name ++ '=' :: Text.Percent.encode escapedInCookie value

/-- The cookie with a value that is kept for so many seconds, as it is sent to be set. -/
def setCookieText (settings : Settings.Cookie) (value : String) (maxAge : Int) : String :=
  String.ofList (cookiePair settings.name value) ++ "; HttpOnly; SameSite=Lax" ++
    (if settings.secure then "; Secure" else "") ++ "; Path=" ++ settings.path ++
    "; Max-Age=" ++ String.ofList (Text.signedDigits maxAge)

/-- The cookie that takes the refresh cookie away, as it is sent to be set. -/
def clearCookieText (settings : Settings.Cookie) : String :=
  setCookieText settings "" 0

/-- Whether a text may be the value of a header field: it holds no control but the tab. -/
def isLegalValue (value : String) : Bool :=
  value.toList.all fun c => (0x20 ≤ c.toNat && c.toNat ≠ 0x7F) || c = '\t'

/-- A response that also sets a cookie, unless the text of the cookie may not be sent. -/
def Response.withCookie (response : Response) (cookie : String) : Response :=
  if isLegalValue cookie then response.withHeader "set-cookie" cookie else response

/-! ## Reading -/

/-- The text that characters stand for once their escapes are undone, if they spell one. -/
def unescape? (characters : List Char) : Option String :=
  Text.ofUtf8? (Text.Percent.decode characters)

/-- The name and the value in a piece of a cookie header. -/
def readPair? (piece : List Char) : Option (String × String) := do
  let (name, value) ← Text.splitFirst? '=' piece
  let name := Text.stripBoth Text.isBlank name
  let value := Text.stripBoth Text.isBlank value
  if name.isEmpty then none
  else some (← unescape? name, ← unescape? value)

/-- The cookies in the values of cookie headers, in their order.  Unreadable values are skipped. -/
def readCookies (values : List String) : List (String × String) :=
  (values.filter isReadable).flatMap fun value =>
    (Text.splitOn ';' value.toList).filterMap readPair?

/-- The refresh credential among the cookies of a request. -/
def refreshValue? (settings : Settings.Cookie) (values : List String) : Option String :=
  (((readCookies values).reverse.find? fun cookie => cookie.1 = settings.name).map Prod.snd).filter
    fun value => value ≠ ""

end SignOn.Http
