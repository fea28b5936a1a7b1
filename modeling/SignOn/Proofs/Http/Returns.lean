import SignOn.Proofs.Http.Requests
import SignOn.Proofs.Text.Form

/-!
# Cookies and addresses that are sent back

The refresh cookie can be sent whatever it holds, as long as the path in the settings can: all that
may not stand in a header field is escaped (`isLegalValue_setCookieText`).

A login at a provider is sent back to the front end.  The address is that of the front end with
another path and with one named value for a query, which reads as it was given whatever it holds
(`returnsTo_returnAddress`).
-/

namespace SignOn.Http

set_option autoImplicit false

/-! ## Legal cookies -/

section Legal

theorem isLegalValue_append (first second : String) :
    isLegalValue (first ++ second) = (isLegalValue first && isLegalValue second) := by
  simp only [isLegalValue, String.toList_append, List.all_append]

theorem isLegalValue_encodeByte : ∀ byte, isLegalValue
    (String.ofList (Text.Percent.encodeBytes escapedInCookie [byte])) = true :=
  Text.forall_byte (by decide +kernel)

/-- Whatever is written with the escapes of cookies may stand in a header field. -/
theorem isLegalValue_encode (text : String) :
    isLegalValue (String.ofList (Text.Percent.encode escapedInCookie text)) = true := by
  rw [Text.Percent.encode]
  induction Text.utf8 text with
  | nil => rfl
  | cons byte bytes ih =>
    have split : Text.Percent.encodeBytes escapedInCookie (byte :: bytes) =
        Text.Percent.encodeBytes escapedInCookie [byte] ++
          Text.Percent.encodeBytes escapedInCookie bytes := by
      simp only [Text.Percent.encodeBytes, List.flatMap_cons, List.flatMap_nil, List.append_nil]
    rw [split, String.ofList_append, isLegalValue_append, isLegalValue_encodeByte, ih]
    rfl

theorem isLegalValue_signedDigits (value : Int) :
    isLegalValue (String.ofList (Text.signedDigits value)) = true := by
  have legal : ∀ digit ∈ Text.digits value.natAbs,
      ((0x20 ≤ digit.toNat && digit.toNat ≠ 0x7F) || digit = '\t') = true := by
    intro digit member
    have bounds := Text.toNat_of_isDigit (Text.digits_isDigit _ digit member)
    have printable : 0x20 ≤ digit.toNat ∧ digit.toNat ≠ 0x7F := by omega
    simp [printable.1, printable.2]
  rw [isLegalValue, String.toList_ofList, Text.signedDigits]
  split
  · rw [List.all_cons, List.all_eq_true.2 legal]
    rfl
  · exact List.all_eq_true.2 legal

/-- The refresh cookie can be sent whatever it holds. -/
theorem isLegalValue_setCookieText {settings : Settings.Cookie}
    (path : isLegalValue settings.path = true) (value : String) (maxAge : Int) :
    isLegalValue (setCookieText settings value maxAge) = true := by
  have pair : isLegalValue (String.ofList (cookiePair settings.name value)) = true := by
    rw [cookiePair, String.ofList_append, String.ofList_cons, isLegalValue_append,
      isLegalValue_append, isLegalValue_encode, isLegalValue_encode]
    rfl
  have secure : isLegalValue (if settings.secure then "; Secure" else "") = true := by
    split <;> decide
  have fixed : isLegalValue "; HttpOnly; SameSite=Lax" = true ∧ isLegalValue "; Path=" = true ∧
      isLegalValue "; Max-Age=" = true := by decide
  simp only [setCookieText, isLegalValue_append, pair, secure, fixed.1, fixed.2.1, fixed.2.2, path,
    isLegalValue_signedDigits, Bool.and_self]

/-- Setting the cookie of a pair adds just this cookie. -/
theorem withPair_of_legal {settings : Settings.Cookie} (path : isLegalValue settings.path = true)
    (response : Response) (pair : TokenPair) :
    response.withPair settings pair = response.withHeader "set-cookie"
      (setCookieText settings pair.refreshToken pair.refreshMaxAge) :=
  if_pos (isLegalValue_setCookieText path _ _)

theorem status_withPair (response : Response) (settings : Settings.Cookie) (pair : TokenPair) :
    (response.withPair settings pair).status = response.status := by
  unfold Response.withPair Response.withCookie
  split <;> rfl

theorem body_withPair (response : Response) (settings : Settings.Cookie) (pair : TokenPair) :
    (response.withPair settings pair).body = response.body := by
  unfold Response.withPair Response.withCookie
  split <;> rfl

end Legal

/-! ## Addresses of the front end -/

/-- How an address starts that leads to the machine of the front end: with the scheme, and with the
machine if there is one, behind its user and in front of its port. -/
def frontOf (origin : Net.Url) : List Char :=
  origin.scheme ++ ':' ::
    match origin.authority with
    | none => if origin.shielded then ['/', '.'] else []
    | some ⟨user, host, port⟩ =>
        ['/', '/'] ++ (if user = [] then [] else user ++ ['@']) ++ host ++
          (port.map fun number => ':' :: Text.digits number).getD []

/-- How an address ends that leads to the same place of a page as that of the front end. -/
def endOf (origin : Net.Url) : List Char :=
  (origin.fragment.map ('#' :: ·)).getD []

/-- The address is that of the front end but for its path, which stands for `/login/callback`, and
its query, which goes up to the fragment and names one value. -/
inductive ReturnsTo (origin : Net.Url) (name value : String) : String → Prop where
  | intro {path query : List Char} (place : Text.Percent.decode path = Text.utf8 "/login/callback")
      /- Where the front end has a machine or a path from the root, no escapes are needed. -/
      (rooted : origin.authority ≠ none ∨ origin.path.head? = some '/' →
        path = "/login/callback".toList)
      (unbroken : '?' ∉ path ∧ '#' ∉ path ∧ '#' ∉ query)
      (names : Text.Form.decode query = [(name, value)]) :
      ReturnsTo origin name value
        (String.ofList (frontOf origin ++ path ++ '?' :: query ++ endOf origin))

theorem text_withPath_withQuery (origin : Net.Url) (path query : List Char) :
    ((origin.withPath path).withQuery query).text =
      String.ofList (frontOf origin ++ (origin.withPath path).path ++ '?' :: query ++
        endOf origin) := by
  obtain ⟨scheme, authority, shielded, _, _, fragment⟩ := origin
  rcases authority with _ | ⟨user, host, _ | port⟩ <;> cases fragment <;>
    simp [Net.Url.text, Net.Url.withPath, Net.Url.withQuery, Net.Url.hostText, frontOf, endOf]

/-- The path to which logins return, with or without an escape for its first slash. -/
theorem path_withPath (origin : Net.Url) :
    (origin.withPath returnPath).path = "/login/callback".toList ∨
      (origin.withPath returnPath).path = "%2Flogin/callback".toList ∧
        origin.authority = none ∧ origin.path.head? ≠ some '/' := by
  by_cases bare : origin.authority.isNone && origin.path.head? ≠ some '/'
  · refine Or.inr ⟨(if_pos bare).trans (by decide), ?_⟩
    simpa using bare
  · exact Or.inl (if_neg bare)

theorem returnsTo_returnAddress (origin : Net.Url) (name value : String) :
    ReturnsTo origin name value (returnAddress origin name value) := by
  have unwritten (text : String) : '#' ∉ Text.Form.encodeText text :=
    Text.Form.notMem_encodeText (by decide)
  have query : '#' ∉ Text.Form.encode [(name, value)] := by
    have pair : '#' ∉ Text.Form.encodePair (name, value) := by
      simp [Text.Form.encodePair, unwritten]
    exact pair
  rw [returnAddress, text_withPath_withQuery]
  rcases path_withPath origin with path | ⟨path, machine, root⟩
  · rw [path]
    exact .intro (by decide +kernel) (fun _ => rfl) ⟨by decide, by decide, query⟩
      (Text.Form.decode_encode _)
  · rw [path]
    refine .intro (by decide +kernel) ?_ ⟨by decide, by decide, query⟩ (Text.Form.decode_encode _)
    rintro (named | rooted)
    · exact absurd machine named
    · exact absurd rooted root

/-- The response sends back to the front end, with one named value. -/
structure SendsBack (origin : Net.Url) (name value : String) (response : Response) : Prop where
  status : response.status = 303
  body : response.body = ""
  location : ∃ address, response.valuesOf "location" = [address] ∧
    ReturnsTo origin name value address

theorem sendsBack_redirect (origin : Net.Url) (name value : String) :
    SendsBack origin name value (Response.redirect (returnAddress origin name value)) :=
  ⟨rfl, rfl, _, rfl, returnsTo_returnAddress origin name value⟩

namespace SendsBack

variable {origin : Net.Url} {name value : String} {response : Response}

theorem withHeader (back : SendsBack origin name value response) {field : String}
    (differs : "location" ≠ field) (text : String) :
    SendsBack origin name value (response.withHeader field text) where
  status := back.status
  body := back.body
  location := by
    rw [valuesOf_withHeader_of_ne differs]
    exact back.location

theorem finish (back : SendsBack origin name value response) (request : Request)
    (route : Option Route) (freshId : String) :
    SendsBack origin name value (Site.finish request route freshId response) where
  status := status_finish.trans back.status
  body := body_finish_of_empty back.body
  location := by
    rw [valuesOf_finish (by decide) (by decide)]
    exact back.location

end SendsBack

end SignOn.Http
