import SignOn.Http.Message
import SignOn.Text.Utf8
import SignOn.Text.Percent

/-!
# Routes

The site answers at four places.  The path of a request must be exactly that of a place, with the
name of a provider as the last part of one of them; escapes in the fixed parts of a path are not
undone.  Two places are written to and two are read from, and where reading is allowed, asking for
the header fields alone is too.
-/

namespace SignOn.Http

set_option autoImplicit false

/-- The places of the site. -/
inductive Route where
  | reissue
  | logout
  | me
  /-- The landing place of a login at a provider, whose name stands as it was sent. -/
  | callback (provider : List Char)
deriving DecidableEq, Repr

namespace Route

/-- What the paths of all places start with. -/
def base : List Char := "/api/v1/auth/".toList

/-- What the paths of landing places go on with. -/
def callbackStart : List Char := "callback/".toList

/-- The place of a path. -/
def ofPath? (path : List Char) : Option Route :=
  if base.isPrefixOf path then
    let rest := path.drop base.length
    if rest = "reissue".toList then some .reissue
    else if rest = "logout".toList then some .logout
    else if rest = "me".toList then some .me
    else if callbackStart.isPrefixOf rest then
      let provider := rest.drop callbackStart.length
      if provider.isEmpty || provider.contains '/' then none else some (.callback provider)
    else none
  else none

/-- Whether a place is read from, and not written to. -/
def isRead : Route → Bool
  | .me | .callback _ => true
  | .reissue | .logout => false

/-- Whether a place can be asked with a method. -/
def allows (route : Route) (method : String) : Bool :=
  if route.isRead then method = "GET" || method = "HEAD" else method = "POST"

/-- The methods that a place can be asked with. -/
def allowed (route : Route) : String :=
  if route.isRead then "GET,HEAD" else "POST"

end Route

end SignOn.Http
