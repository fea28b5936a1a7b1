import SignOn.Gateway.CodeFlow
import SignOn.Proofs.Json.Record
import SignOn.Proofs.Text.Form

/-!
# What goes over the wire

The two requests of an exchange and the replies to them, by what another party sees of them.  A
request goes to the machine and for the path and the query of its address (`GoesTo`).  The first one
posts a form with five values (`isTokenRequest_tokenRequest`), and the second one presents a token
(`isUserinfoRequest_userinfoRequest`).  A reply to the first one is a record of two texts, of which
the second may be missing (`TellsTexts`).
-/

namespace SignOn.Gateway

set_option autoImplicit false

open Settings (Providers Registration)

/-! ## Addresses -/

/-- Where a provider exchanges codes, unless a registration names another address. -/
def usualTokenAddress : Provider → String
  | .google => "https://oauth2.googleapis.com/token"
  | .kakao => "https://kauth.kakao.com/oauth/token"

/-- Where a provider is asked about users, unless a registration names another address. -/
def usualUserinfoAddress : Provider → String
  | .google => "https://www.googleapis.com/oauth2/v3/userinfo"
  | .kakao => "https://kapi.kakao.com/v2/user/me"

/-- The registration at a provider. -/
inductive Registers (providers : Providers) : Provider → Registration → Prop
  | google {registration : Registration} (given : providers.google = some registration) :
      Registers providers .google registration
  | kakao {registration : Registration} (given : providers.kakao = some registration) :
      Registers providers .kakao registration

/-- A client reaches an endpoint at an address: the address can be read and names a machine, over a
connection that the client can make. -/
structure Client.Reaches (client : Client) (address : String) (endpoint : Endpoint) : Prop where
  reads : Net.Url.ofText? address = some endpoint.url
  machine : endpoint.url.authority = some endpoint.authority
  scheme : endpoint.url.scheme = "http".toList ∨
    client.encrypts = true ∧ endpoint.url.scheme = "https".toList
  host : ∀ character ∈ endpoint.authority.host, character ∉ ['"', '\x60', '\x7b', '\x7d']

section Addresses

variable {client : Client} {providers : Providers} {provider : Provider}
  {registration : Registration} {address : String} {endpoint : Endpoint}

theorem tokenAddress_eq (registration : Registration) (provider : Provider) :
    registration.tokenAddress provider =
      registration.tokenUrl.getD (usualTokenAddress provider) := by
  cases provider <;> rfl

theorem userinfoAddress_eq (registration : Registration) (provider : Provider) :
    registration.userinfoAddress provider =
      registration.userinfoUrl.getD (usualUserinfoAddress provider) := by
  cases provider <;> rfl

theorem registration?_eq_some_iff :
    providers.registration? provider = some registration ↔
      Registers providers provider registration := by
  constructor
  · cases provider with
    | google => exact .google
    | kakao => exact .kakao
  · rintro (given | given)
    · exact given
    · exact given

theorem registration?_eq_none_iff :
    providers.registration? provider = none ↔
      ∀ registration, ¬ Registers providers provider registration := by
  simp only [Option.eq_none_iff_forall_ne_some, ne_eq, registration?_eq_some_iff]

theorem endpoint?_eq_some_iff :
    client.endpoint? address = some endpoint ↔ client.Reaches address endpoint := by
  obtain ⟨url, authority⟩ := endpoint
  have speaks (scheme : List Char) : client.speaks scheme = true ↔
      scheme = "http".toList ∨ client.encrypts = true ∧ scheme = "https".toList := by
    simp [Client.speaks]
  have legal (host : List Char) : isLegalHost host = true ↔
      ∀ character ∈ host, character ∉ ['"', '\x60', '\x7b', '\x7d'] := by
    simp [isLegalHost]
  simp only [Client.endpoint?, Option.bind_eq_bind, Option.bind_eq_some_iff]
  constructor
  · rintro ⟨found, reads, machine, names, allowed⟩
    split at allowed
    · next both =>
      cases allowed
      rw [Bool.and_eq_true, speaks, legal] at both
      exact ⟨reads, names, both.1, both.2⟩
    · cases allowed
  · rintro ⟨reads, machine, scheme, host⟩
    refine ⟨url, reads, authority, machine, if_pos ?_⟩
    rw [Bool.and_eq_true, speaks, legal]
    exact ⟨scheme, host⟩

end Addresses

/-! ## Requests -/

/-- A request goes to the machine of an endpoint, on the port in its address unless that is the
usual one, and asks for the path and the query of the address. -/
structure GoesTo (endpoint : Endpoint) (message : Message) : Prop where
  target : message.target = String.ofList (endpoint.url.path ++
    (endpoint.url.query.map fun query => '?' :: query).getD [])
  host : message.host = String.ofList (endpoint.authority.host ++
    (endpoint.authority.port.map fun port => ':' :: Text.digits port).getD [])

/-- A body names just the five values of a token request, in their order. -/
structure Says (registration : Registration) (code : String) (body : String) : Prop where
  strictly : Text.Form.read? body.toList =
    some [("grant_type", "authorization_code"), ("code", code),
      ("client_id", registration.clientId), ("client_secret", registration.clientSecret),
      ("redirect_uri", registration.redirectUri)]
  leniently : Text.Form.decode body.toList =
    [("grant_type", "authorization_code"), ("code", code),
      ("client_id", registration.clientId), ("client_secret", registration.clientSecret),
      ("redirect_uri", registration.redirectUri)]

/-- What a request tells about who asks, before anything else: nothing, unless the address of its
endpoint names a user. -/
structure NamesUser (endpoint : Endpoint) (authorizations : List String) : Prop where
  basic : ∀ value ∈ authorizations, ∃ credentials, value = "Basic " ++ credentials
  once : authorizations.length ≤ 1
  nobody : endpoint.authority.user = [] → authorizations = []

/-- A message posts the form for a code to an endpoint. -/
structure IsTokenRequest (registration : Registration) (code : String) (endpoint : Endpoint)
    (message : Message) : Prop where
  method : message.method = "POST"
  goes : GoesTo endpoint message
  type : message.contentType = some "application/x-www-form-urlencoded"
  user : NamesUser endpoint message.authorizations
  body : Says registration code message.body

/-- A message asks an endpoint about the user behind a token. -/
structure IsUserinfoRequest (token : String) (endpoint : Endpoint) (message : Message) : Prop where
  method : message.method = "GET"
  goes : GoesTo endpoint message
  type : message.contentType = none
  bearer : ∃ user, NamesUser endpoint user ∧
    message.authorizations = user ++ ["Bearer " ++ token]
  body : message.body = ""

section Requests

variable {endpoint : Endpoint}

theorem says_tokenBody (registration : Registration) (code : String) :
    Says registration code (tokenBody registration code) where
  strictly := by
    rw [tokenBody, String.toList_ofList]
    exact Text.Form.read?_encode (List.cons_ne_nil _ _)
  leniently := by
    rw [tokenBody, String.toList_ofList]
    exact Text.Form.decode_encode _

theorem namesUser_userAuthorization? (endpoint : Endpoint) :
    NamesUser endpoint (userAuthorization? endpoint.authority).toList where
  basic value member := by
    have told := Option.mem_toList.1 member
    unfold userAuthorization? at told
    dsimp only at told
    split at told
    · cases told
    · rw [Option.ite_none_left_eq_some] at told
      exact ⟨_, (Option.some.inj told.2).symm⟩
  once := by
    cases userAuthorization? endpoint.authority <;> simp
  nobody unnamed := by
    rw [userAuthorization?, unnamed]
    decide +kernel

theorem goesTo_of_eq {message : Message} (target : message.target = endpoint.url.target)
    (host : message.host = String.ofList (Net.Url.hostText endpoint.authority)) :
    GoesTo endpoint message where
  target := by
    rw [target, Net.Url.target]
    cases endpoint.url.query <;> rfl
  host := by
    rw [host, Net.Url.hostText]
    cases endpoint.authority.port <;> rfl

theorem isTokenRequest_tokenRequest (registration : Registration) (code : String)
    (endpoint : Endpoint) :
    IsTokenRequest registration code endpoint (tokenRequest registration code endpoint) where
  method := rfl
  goes := goesTo_of_eq rfl rfl
  type := rfl
  user := namesUser_userAuthorization? endpoint
  body := says_tokenBody registration code

theorem isUserinfoRequest_userinfoRequest (token : String) (endpoint : Endpoint) :
    IsUserinfoRequest token endpoint (userinfoRequest token endpoint) where
  method := rfl
  goes := goesTo_of_eq rfl rfl
  type := rfl
  bearer := ⟨_, namesUser_userAuthorization? endpoint, rfl⟩
  body := rfl

end Requests

/-! ## Records of two texts -/

/-- A record tells two texts, of which the second may be missing or null.  An object names each of
them once at most, whatever else it holds. -/
inductive TellsTexts (first second : String) : Json → String → Option String → Prop
  | members {members : List (String × Json)} {text : String} {other : Option String}
      (one : Json.valuesOf first members = [.string text])
      (also : Json.valuesOf second members = other.toList.map .string ∨
        other = none ∧ Json.valuesOf second members = [.null]) :
      TellsTexts first second (.object members) text other
  | items {text : String} {other : Option String} :
      TellsTexts first second (.array (.string text :: other.toList.map .string)) text other
  | nullItem {text : String} :
      TellsTexts first second (.array [.string text, .null]) text none

section Records

variable {first second text : String} {other : Option String} {field : Field Json}

theorem required_asString?_eq_some_iff :
    field.required Json.asString? = some text ↔ field = .given (.string text) := by
  rcases field with value | _ | _
  · cases value <;> simp [Field.required, Json.asString?]
  · simp [Field.required]
  · simp [Field.required]

theorem orElse_asString?_eq_some_iff :
    field.orElse none (Json.nullable Json.asString?) = some (some text) ↔
      field = .given (.string text) := by
  rcases field with value | _ | _
  · cases value <;> simp [Field.orElse, Json.nullable, Json.asString?]
  · simp [Field.orElse]
  · simp [Field.orElse]

theorem orElse_asString?_eq_none_iff :
    field.orElse none (Json.nullable Json.asString?) = some none ↔
      field = .given .null ∨ field = .missing ∨ field = .cutOff := by
  rcases field with value | _ | _
  · cases value <;> simp [Field.orElse, Json.nullable, Json.asString?]
  · simp [Field.orElse]
  · simp [Field.orElse]

theorem fieldOf?_eq_missing_iff {values : List Json} :
    Json.fieldOf? values = some .missing ↔ values = [] := by
  match values with
  | [] | [_] | _ :: _ :: _ => simp [Json.fieldOf?]

theorem fieldOf?_ne_cutOff {values : List Json} : Json.fieldOf? values ≠ some .cutOff := by
  match values with
  | [] | [_] | _ :: _ :: _ => simp [Json.fieldOf?]

theorem tellsTexts_object_iff {members : List (String × Json)} :
    TellsTexts first second (.object members) text other ↔
      Json.valuesOf first members = [.string text] ∧
        (Json.valuesOf second members = other.toList.map .string ∨
          other = none ∧ Json.valuesOf second members = [.null]) := by
  constructor
  · rintro ⟨one, also⟩
    exact ⟨one, also⟩
  · rintro ⟨one, also⟩
    exact .members one also

/-- The members of an object are read as the two texts that it tells. -/
theorem readTexts_object_iff {members : List (String × Json)} :
    (∃ field, Json.fields? [first, second] (.object members) = some field ∧
      (field first).required Json.asString? = some text ∧
      (field second).orElse none (Json.nullable Json.asString?) = some other) ↔
      TellsTexts first second (.object members) text other := by
  rw [tellsTexts_object_iff]
  by_cases once : Json.saysOnce [first, second] members = true
  · have single := Json.saysOnce_iff.1 once
    have one := Json.fieldOf?_valuesOf_of_le (single first (by simp))
    have also := Json.fieldOf?_valuesOf_of_le (single second (by simp))
    have found {name : String} {read : Field Json}
        (told : Json.fieldOf? (Json.valuesOf name members) = some (fieldOfMembers members name)) :
        fieldOfMembers members name = read ↔
          Json.fieldOf? (Json.valuesOf name members) = some read := by
      rw [told, Option.some.injEq]
    simp only [Json.fields?, if_pos once, Option.some.injEq, exists_eq_left',
      required_asString?_eq_some_iff, found one, Json.fieldOf?_eq_given_iff]
    refine and_congr_right fun _ => ?_
    cases other with
    | some text =>
      simp [orElse_asString?_eq_some_iff, found also, Json.fieldOf?_eq_given_iff]
    | none =>
      simp [orElse_asString?_eq_none_iff, found also, Json.fieldOf?_eq_given_iff,
        fieldOf?_eq_missing_iff, fieldOf?_ne_cutOff, or_comm]
  · constructor
    · rintro ⟨field, read, -⟩
      rw [Json.fields?, if_neg once] at read
      cases read
    · rintro ⟨one, also⟩
      refine absurd (Json.saysOnce_iff.2 ?_) once
      have few : (Json.valuesOf second members).length ≤ 1 := by
        rcases also with also | ⟨-, also⟩
        · rw [also]
          cases other <;> simp
        · simp [also]
      simp [one, few]

theorem tellsTexts_array_iff {items : List Json} :
    TellsTexts first second (.array items) text other ↔
      items = .string text :: other.toList.map .string ∨
        other = none ∧ items = [.string text, .null] := by
  constructor
  · rintro (_ | _ | _)
    · exact Or.inl rfl
    · exact Or.inr ⟨rfl, rfl⟩
  · rintro (rfl | ⟨rfl, rfl⟩)
    · exact .items
    · exact .nullItem

/-- The items of an array are read as the two texts that it tells. -/
theorem readTexts_array_iff (differ : second ≠ first) {items : List Json} :
    (∃ field, Json.fields? [first, second] (.array items) = some field ∧
      (field first).required Json.asString? = some text ∧
      (field second).orElse none (Json.nullable Json.asString?) = some other) ↔
      TellsTexts first second (.array items) text other := by
  have atFirst : [first, second].idxOf first = 0 := List.idxOf_cons_self
  have atSecond : [first, second].idxOf second = 1 := by
    rw [List.idxOf_cons, beq_false_of_ne differ.symm, cond_false, List.idxOf_cons_self]
  rw [tellsTexts_array_iff]
  simp only [Json.fields?, required_asString?_eq_some_iff]
  rcases items with _ | ⟨one, _ | ⟨also, _ | ⟨more, rest⟩⟩⟩
  · simp [fieldOfItems]
  · cases other <;>
      simp [fieldOfItems, atFirst, atSecond, orElse_asString?_eq_some_iff,
        orElse_asString?_eq_none_iff]
  · cases other <;>
      simp [fieldOfItems, atFirst, atSecond, orElse_asString?_eq_some_iff,
        orElse_asString?_eq_none_iff]
  · cases other <;> simp

/-- Reading a record of two texts finds what the record tells. -/
theorem readTexts_iff (differ : second ≠ first) {json : Json} :
    (do
      let field ← json.fields? [first, second]
      let text ← (field first).required Json.asString?
      let other ← (field second).orElse none (Json.nullable Json.asString?)
      some (text, other)) = some (text, other) ↔ TellsTexts first second json text other := by
  have found : (do
      let field ← json.fields? [first, second]
      let text ← (field first).required Json.asString?
      let other ← (field second).orElse none (Json.nullable Json.asString?)
      some (text, other)) = some (text, other) ↔
        ∃ field, json.fields? [first, second] = some field ∧
          (field first).required Json.asString? = some text ∧
          (field second).orElse none (Json.nullable Json.asString?) = some other := by
    simp [Option.bind_eq_some_iff]
  rw [found]
  cases json with
  | object members => exact readTexts_object_iff
  | array items => exact readTexts_array_iff differ
  | null | boolean | number | string | unreadable =>
    constructor
    · rintro ⟨_, read, -⟩
      cases read
    · rintro ⟨⟩

end Records

/-! ## Replies -/

section Replies

/-- What the body of a token reply tells. -/
theorem readToken?_eq_some_iff {body token : String} {kind : Option String} :
    readToken? body = some (token, kind) ↔ ∃ json, Json.ofText? body = some json ∧
      TellsTexts "access_token" "token_type" json token kind :=
  Option.bind_eq_some_iff.trans <| exists_congr fun _ => and_congr_right fun _ =>
    readTexts_iff (by decide)

/-- What the body of a refused token request tells, without the mark that some put in front. -/
theorem readRefusal?_eq_some_iff {body error : String} {description : Option String} :
    readRefusal? body = some (error, description) ↔
      ∃ json, Json.ofText? (String.ofList (Text.dropByteOrderMark body.toList)) = some json ∧
        TellsTexts "error" "error_description" json error description :=
  Option.bind_eq_some_iff.trans <| exists_congr fun _ => and_congr_right fun _ =>
    readTexts_iff (by decide)

theorem readUserinfo?_eq_some_iff {body : String} {payload : Json} :
    readUserinfo? body = some payload ↔
      ∃ json, Json.ofText? body = some json ∧ json.settle? = some payload :=
  Option.bind_eq_some_iff

theorem isSuccess_iff {status : Nat} :
    Http.isSuccess status = true ↔ 200 ≤ status ∧ status < 300 := by
  simp [Http.isSuccess]

end Replies

end SignOn.Gateway
