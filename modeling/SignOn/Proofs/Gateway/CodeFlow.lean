import SignOn.Proofs.Gateway.Messages

/-!
# The code flow

On every script of replies the exchange of a code goes one way (`Client.fetchUserinfo_followsFlow`).
A provider without a registration is asked nothing.  Any other is sent one token request, and one
userinfo request exactly if the first reply grants a token; there is no third request.  The outcome
tells in which of the two exchanges it was decided: a reply that does not come is a failure of the
network, any other failure of the token request is one of the exchange, and any other failure of the
userinfo request is one of the userinfo.
-/

namespace SignOn.Gateway

set_option autoImplicit false

open Settings (Providers Registration)

/-! ## Running dialogues -/

namespace Dialogue

variable {α β : Type}

@[simp] theorem run_done (outcome : α) (script : List (Option Reply)) :
    (done outcome).run script = (outcome, []) := rfl

@[simp] theorem run_pure (outcome : α) (script : List (Option Reply)) :
    (pure outcome : Dialogue α).run script = (outcome, []) := rfl

@[simp] theorem run_send (message : Message) (next : Option Reply → Dialogue α)
    (script : List (Option Reply)) :
    (send message next).run script =
      (((next script.head?.join).run script.tail).1,
        message :: ((next script.head?.join).run script.tail).2) := rfl

/-- What follows a dialogue goes on where the script is left when the dialogue has ended. -/
theorem run_bind (dialogue : Dialogue α) (follow : α → Dialogue β) (script : List (Option Reply)) :
    (dialogue >>= follow).run script =
      (((follow (dialogue.run script).1).run (script.drop (dialogue.run script).2.length)).1,
        (dialogue.run script).2 ++
          ((follow (dialogue.run script).1).run (script.drop (dialogue.run script).2.length)).2) := by
  change (dialogue.bind follow).run script = _
  induction dialogue generalizing script with
  | done outcome => rfl
  | send message next ih =>
    simp [bind, ih, List.drop_tail]

end Dialogue

/-! ## Replies -/

/-- The reply that ends the exchange of a request on a script, if it comes; the first request has
number zero. -/
def replyTo (script : List (Option Reply)) (number : Nat) : Option Reply :=
  (script[number]?.join).filter Reply.isFinal

namespace Reply

/-- A reply grants an access token: its status tells of success, and its body is a record with the
token and with no type or the type of a bearer token, in any case. -/
def Grants (reply : Reply) (token : String) : Prop :=
  200 ≤ reply.status ∧ reply.status < 300 ∧
    ∃ json kind, Json.ofText? reply.content = some json ∧
      TellsTexts "access_token" "token_type" json token kind ∧
      ∀ name, kind = some name → name.toList.map Char.toLower = "bearer".toList

/-- The body of a reply that does not tell of success names an error. -/
def NamesError (reply : Reply) (error : String) (description : Option String) : Prop :=
  ∃ json, Json.ofText? (String.ofList (Text.dropByteOrderMark reply.content.toList)) = some json ∧
    TellsTexts "error" "error_description" json error description

/-- What a reply that does not tell of success gives as its reason: the description of the error, the
error itself, or the number of its status with the usual reason. -/
inductive Explains (reply : Reply) : String → Prop where
  | description {error description : String} (names : reply.NamesError error (some description)) :
      Explains reply description
  | error {error : String} (names : reply.NamesError error none) : Explains reply error
  | status (silent : ∀ error description, ¬ reply.NamesError error description) :
      Explains reply ("Token request failed with " ++
        (String.ofList (Text.digits reply.status) ++ " " ++
          ((Http.reasons.find? fun reason => reason.1 = reply.status).map Prod.snd).getD
            "<unknown status code>"))

/-- A reply tells of success and what the provider says about the user. -/
def Tells (reply : Reply) (payload : Json) : Prop :=
  200 ≤ reply.status ∧ reply.status < 300 ∧
    ∃ json, Json.ofText? reply.content = some json ∧ json.settle? = some payload

end Reply

section Replies

variable {answer : Option Reply} {reply : Reply} {token : String} {payload : Json}

theorem granted_of_none (closed : answer.filter Reply.isFinal = none) :
    granted answer = .error (.network "the connection was closed") := by
  simp [granted, closed]

theorem grants_iff : reply.Grants token ↔ Http.isSuccess reply.status = true ∧
    ∃ kind, readToken? reply.content = some (token, kind) ∧ kind.all isBearer = true := by
  have bearer (kind : Option String) : kind.all isBearer = true ↔
      ∀ name, kind = some name → name.toList.map Char.toLower = "bearer".toList := by
    simp [Option.all_eq_true, isBearer]
  simp only [Reply.Grants, isSuccess_iff, readToken?_eq_some_iff, bearer, and_assoc]
  refine and_congr_right fun _ => and_congr_right fun _ => ?_
  constructor
  · rintro ⟨json, kind, read, tells, accepted⟩
    exact ⟨kind, ⟨json, read, tells⟩, accepted⟩
  · rintro ⟨kind, ⟨json, read, tells⟩, accepted⟩
    exact ⟨json, kind, read, tells, accepted⟩

theorem tells_iff : reply.Tells payload ↔
    Http.isSuccess reply.status = true ∧ readUserinfo? reply.content = some payload := by
  rw [Reply.Tells, isSuccess_iff, readUserinfo?_eq_some_iff, and_assoc]

theorem granted_of_grants (came : answer.filter Reply.isFinal = some reply)
    (grants : reply.Grants token) : granted answer = .ok token := by
  obtain ⟨success, kind, read, accepted⟩ := grants_iff.1 grants
  simp [granted, came, success, read, accepted]

/-- Any other reply is a failure of the exchange. -/
theorem granted_of_not_grants (came : answer.filter Reply.isFinal = some reply)
    (refuses : ∀ token, ¬ reply.Grants token) :
    ∃ detail, granted answer = .error (.exchange detail) ∧
      (¬ (200 ≤ reply.status ∧ reply.status < 300) → reply.Explains detail) := by
  cases success : Http.isSuccess reply.status with
  | true =>
    have claimed := isSuccess_iff.1 success
    cases read : readToken? reply.content with
    | none =>
      simp only [granted, came, success, read, if_true]
      exact ⟨_, rfl, absurd claimed⟩
    | some found =>
      obtain ⟨token, kind⟩ := found
      have foreign : ¬ kind.all isBearer = true := fun bearer =>
        refuses token (grants_iff.2 ⟨success, kind, read, bearer⟩)
      simp only [granted, came, success, read, foreign, if_true]
      exact ⟨_, rfl, absurd claimed⟩
  | false =>
    cases read : readRefusal? reply.content with
    | none =>
      simp only [granted, came, success, read, Bool.false_eq_true, if_false]
      refine ⟨_, rfl, fun _ => .status fun error description names => ?_⟩
      rw [readRefusal?_eq_some_iff.2 names] at read
      cases read
    | some found =>
      obtain ⟨error, description⟩ := found
      have names := readRefusal?_eq_some_iff.1 read
      simp only [granted, came, success, read, Bool.false_eq_true, if_false]
      refine ⟨_, rfl, fun _ => ?_⟩
      cases description with
      | none => exact .error names
      | some description => exact .description names

/-- The body of a reply names one error at most. -/
theorem Reply.NamesError.unique {error other : String} {description further : Option String}
    (here : reply.NamesError error description) (there : reply.NamesError other further) :
    error = other ∧ description = further := by
  have same := (readRefusal?_eq_some_iff.2 here).symm.trans (readRefusal?_eq_some_iff.2 there)
  exact Prod.mk.inj (Option.some.inj same)

/-- A description is given as the reason wherever there is one. -/
theorem Reply.Explains.eq_description {error description detail : String}
    (explains : reply.Explains detail) (names : reply.NamesError error (some description)) :
    detail = description := by
  cases explains with
  | description others => exact Option.some.inj (others.unique names).2
  | error others => exact absurd (others.unique names).2 nofun
  | status silent => exact absurd names (silent _ _)

theorem told_of_none (closed : answer.filter Reply.isFinal = none) :
    told answer = .error (.network "the connection was closed") := by
  simp [told, closed]

theorem told_of_tells (came : answer.filter Reply.isFinal = some reply)
    (tells : reply.Tells payload) : told answer = .ok payload := by
  obtain ⟨success, read⟩ := tells_iff.1 tells
  simp [told, came, success, read]

/-- Any other reply is a failure of the userinfo. -/
theorem told_of_not_tells (came : answer.filter Reply.isFinal = some reply)
    (silent : ∀ payload, ¬ reply.Tells payload) :
    ∃ detail, told answer = .error (.userInfo detail) := by
  cases success : Http.isSuccess reply.status with
  | false =>
    simp only [told, came, success, Bool.false_eq_true, if_false]
    exact ⟨_, rfl⟩
  | true =>
    cases read : readUserinfo? reply.content with
    | none =>
      simp only [told, came, success, read, if_true]
      exact ⟨_, rfl⟩
    | some payload => exact absurd (tells_iff.2 ⟨success, read⟩) (silent payload)

theorem told_eq_ok_iff :
    told answer = .ok payload ↔
      ∃ reply, answer.filter Reply.isFinal = some reply ∧ reply.Tells payload := by
  constructor
  · intro outcome
    cases came : answer.filter Reply.isFinal with
    | none => simp [told_of_none came] at outcome
    | some reply =>
      by_cases tells : ∃ payload, reply.Tells payload
      · obtain ⟨other, tells⟩ := tells
        rw [told_of_tells came tells] at outcome
        exact ⟨reply, rfl, Except.ok.inj outcome ▸ tells⟩
      · obtain ⟨detail, failed⟩ := told_of_not_tells came (not_exists.1 tells)
        simp [failed] at outcome
  · rintro ⟨reply, came, tells⟩
    exact told_of_tells came tells

theorem told_eq_network_iff :
    (∃ detail, told answer = .error (.network detail)) ↔ answer.filter Reply.isFinal = none := by
  constructor
  · rintro ⟨detail, outcome⟩
    cases came : answer.filter Reply.isFinal with
    | none => rfl
    | some reply =>
      by_cases tells : ∃ payload, reply.Tells payload
      · obtain ⟨payload, tells⟩ := tells
        simp [told_of_tells came tells] at outcome
      · obtain ⟨reason, failed⟩ := told_of_not_tells came (not_exists.1 tells)
        simp [failed] at outcome
  · intro closed
    exact ⟨_, told_of_none closed⟩

end Replies

/-! ## The two requests -/

section Flow

variable {client : Client} {providers : Providers} {provider : Provider}
  {registration : Registration} {code token : String} {script : List (Option Reply)}
  {tokens users : Endpoint}

/-- The first reply of a script grants an access token. -/
def IsGranted (script : List (Option Reply)) (token : String) : Prop :=
  ∃ reply, replyTo script 0 = some reply ∧ reply.Grants token

theorem replyTo_zero (script : List (Option Reply)) :
    replyTo script 0 = script.head?.join.filter Reply.isFinal := by
  rw [replyTo, List.head?_eq_getElem?]

theorem granted_of_isGranted (grants : IsGranted script token) :
    granted script.head?.join = .ok token := by
  obtain ⟨reply, came, grants⟩ := grants
  rw [replyTo_zero] at came
  exact granted_of_grants came grants

/-- A script grants one token at most. -/
theorem IsGranted.unique {other : String} (here : IsGranted script token)
    (there : IsGranted script other) : token = other := by
  have same := (granted_of_isGranted here).symm.trans (granted_of_isGranted there)
  exact Except.ok.inj same

theorem run_exchangeCode
    (reached : client.endpoint? (registration.tokenAddress provider) = some tokens) :
    (client.exchangeCode provider registration code).run script =
      (granted script.head?.join, [tokenRequest registration code tokens]) := by
  simp [Client.exchangeCode, reached]

theorem run_askUserinfo
    (reached : client.endpoint? (registration.userinfoAddress provider) = some users)
    (legal : isLegalToken token = true) :
    (client.askUserinfo provider registration token).run script =
      (told script.head?.join, [userinfoRequest token users]) := by
  simp [Client.askUserinfo, reached, legal]

/-- Without a token there is no second request. -/
theorem run_fetchUserinfo_ungranted (registered : providers.registration? provider = some registration)
    (reached : client.endpoint? (registration.tokenAddress provider) = some tokens)
    {error : ProviderError} (refused : granted script.head?.join = .error error) :
    (client.fetchUserinfo providers provider code).run script =
      (.error error, [tokenRequest registration code tokens]) := by
  simp [Client.fetchUserinfo, registered, Dialogue.run_bind, run_exchangeCode reached, refused]

/-- The second request is answered by the second reply. -/
theorem run_fetchUserinfo_granted (registered : providers.registration? provider = some registration)
    (reached : client.endpoint? (registration.tokenAddress provider) = some tokens)
    (alsoReached : client.endpoint? (registration.userinfoAddress provider) = some users)
    (grants : IsGranted script token) (legal : isLegalToken token = true) :
    (client.fetchUserinfo providers provider code).run script =
      (told script[1]?.join,
        [tokenRequest registration code tokens, userinfoRequest token users]) := by
  simp [Client.fetchUserinfo, registered, Dialogue.run_bind, run_exchangeCode reached,
    granted_of_isGranted grants, run_askUserinfo alsoReached legal]

/-- How the exchange of a code goes on a script: its outcome and the requests that are sent. -/
structure FollowsFlow (registration : Registration) (code : String) (tokens users : Endpoint)
    (script : List (Option Reply)) (outcome : Except ProviderError Json) (sent : List Message) :
    Prop where
  /-- One token request is sent, and nothing else if its reply grants no token. -/
  ungranted : (∀ token, ¬ IsGranted script token) →
    ∃ first, sent = [first] ∧ IsTokenRequest registration code tokens first
  /-- One userinfo request is sent if the first reply grants a token, and nothing else. -/
  granted : ∀ token, IsGranted script token →
    ∃ first second, sent = [first, second] ∧ IsTokenRequest registration code tokens first ∧
      IsUserinfoRequest token users second
  /-- The outcome is what the second reply tells, if that is asked for. -/
  ok : ∀ payload, outcome = .ok payload ↔
    (∃ token, IsGranted script token) ∧ ∃ reply, replyTo script 1 = some reply ∧ reply.Tells payload
  /-- The network fails where a reply is missing. -/
  network : (∃ detail, outcome = .error (.network detail)) ↔
    replyTo script 0 = none ∨ (∃ token, IsGranted script token) ∧ replyTo script 1 = none
  /-- Any other first reply that grants no token is a failure of the exchange, with the reason that
  it gives unless it tells of success. -/
  exchange : ∀ reply, replyTo script 0 = some reply → (∀ token, ¬ reply.Grants token) →
    ∃ detail, outcome = .error (.exchange detail) ∧
      (¬ (200 ≤ reply.status ∧ reply.status < 300) → reply.Explains detail)
  /-- Any other second reply is a failure of the userinfo. -/
  userInfo : ∀ token reply, IsGranted script token → replyTo script 1 = some reply →
    (∀ payload, ¬ reply.Tells payload) → ∃ detail, outcome = .error (.userInfo detail)

theorem followsFlow_of_granted (grants : IsGranted script token) :
    FollowsFlow registration code tokens users script (told script[1]?.join)
      [tokenRequest registration code tokens, userinfoRequest token users] where
  ungranted refuses := absurd grants (refuses token)
  granted other others := by
    obtain rfl := grants.unique others
    exact ⟨_, _, rfl, isTokenRequest_tokenRequest registration code tokens,
      isUserinfoRequest_userinfoRequest token users⟩
  ok payload := by
    rw [told_eq_ok_iff, and_iff_right ⟨token, grants⟩]
    rfl
  network := by
    have ⟨first, arrived, _⟩ := grants
    rw [told_eq_network_iff, arrived, and_iff_right ⟨token, grants⟩, or_iff_right (by simp)]
    rfl
  exchange reply came refuses := by
    obtain ⟨first, arrived, grants⟩ := grants
    obtain rfl := Option.some.inj (came.symm.trans arrived)
    exact absurd grants (refuses token)
  userInfo _ reply _ came silent := told_of_not_tells came silent

theorem followsFlow_of_not_granted (ungranted : ∀ token, ¬ IsGranted script token) :
    ∃ error, granted script.head?.join = .error error ∧
      FollowsFlow registration code tokens users script (.error error)
        [tokenRequest registration code tokens] := by
  have never {property : Prop} : ¬ ((∃ token, IsGranted script token) ∧ property) := by
    rintro ⟨⟨token, grants⟩, _⟩
    exact ungranted token grants
  cases came : replyTo script 0 with
  | none =>
    have closed := came
    rw [replyTo_zero] at closed
    refine ⟨_, granted_of_none closed, ?_⟩
    exact {
      ungranted := fun _ => ⟨_, rfl, isTokenRequest_tokenRequest registration code tokens⟩
      granted := fun token grants => absurd grants (ungranted token)
      ok := fun payload => by simp [never]
      network := by simp [came]
      exchange := fun reply arrived => by simp [came] at arrived
      userInfo := fun token _ grants => absurd grants (ungranted token) }
  | some reply =>
    have arrived := came
    rw [replyTo_zero] at arrived
    have refuses : ∀ token, ¬ reply.Grants token := fun token grants =>
      ungranted token ⟨reply, came, grants⟩
    obtain ⟨detail, refused, explains⟩ := granted_of_not_grants arrived refuses
    refine ⟨_, refused, ?_⟩
    exact {
      ungranted := fun _ => ⟨_, rfl, isTokenRequest_tokenRequest registration code tokens⟩
      granted := fun token grants => absurd grants (ungranted token)
      ok := fun payload => by simp [never]
      network := by simp [came, never]
      exchange := by
        intro other same _
        obtain rfl := Option.some.inj (came.symm.trans same)
        exact ⟨detail, rfl, explains⟩
      userInfo := fun token _ grants => absurd grants (ungranted token) }

/-- **The exchange of a code follows the code flow on every script of replies.**  A provider without
a registration is sent nothing.  A provider with one is, if the addresses of its endpoints can be
reached and the token that it grants can be sent. -/
theorem Client.fetchUserinfo_followsFlow (client : Client) (providers : Providers)
    (provider : Provider) (code : String) (script : List (Option Reply)) :
    ((∀ registration, ¬ Registers providers provider registration) →
      (client.fetchUserinfo providers provider code).run script =
        (.error (.notConfigured provider), [])) ∧
    ∀ registration tokens users, Registers providers provider registration →
      client.Reaches (registration.tokenUrl.getD (usualTokenAddress provider)) tokens →
      client.Reaches (registration.userinfoUrl.getD (usualUserinfoAddress provider)) users →
      (∀ token, IsGranted script token → isLegalToken token = true) →
      FollowsFlow registration code tokens users script
        ((client.fetchUserinfo providers provider code).run script).1
        ((client.fetchUserinfo providers provider code).run script).2 := by
  constructor
  · intro unregistered
    simp [Client.fetchUserinfo, registration?_eq_none_iff.2 unregistered]
  intro registration tokens users registers reaches alsoReaches legal
  have registered := registration?_eq_some_iff.2 registers
  rw [← tokenAddress_eq, ← endpoint?_eq_some_iff] at reaches
  rw [← userinfoAddress_eq, ← endpoint?_eq_some_iff] at alsoReaches
  by_cases grants : ∃ token, IsGranted script token
  · obtain ⟨token, grants⟩ := grants
    rw [run_fetchUserinfo_granted registered reaches alsoReaches grants (legal token grants)]
    exact followsFlow_of_granted grants
  · obtain ⟨error, refused, follows⟩ := followsFlow_of_not_granted (not_exists.1 grants)
    rw [run_fetchUserinfo_ungranted registered reaches refused]
    exact follows

end Flow

/-! ## At the usual addresses -/

namespace Sample

/-- A client that can talk over encrypted connections. -/
def client : Client := ⟨true⟩

/-- A registration without addresses of its own. -/
def registration : Registration := ⟨"id", "secret", "http://localhost/cb", none, none⟩

/-- Where the registration has codes exchanged. -/
def tokens : Endpoint :=
  let authority : Net.Authority := ⟨[], "oauth2.googleapis.com".toList, none⟩
  ⟨⟨"https".toList, some authority, false, "/token".toList, none, none⟩, authority⟩

/-- Where the registration has users asked about. -/
def users : Endpoint :=
  let authority : Net.Authority := ⟨[], "www.googleapis.com".toList, none⟩
  ⟨⟨"https".toList, some authority, false, "/oauth2/v3/userinfo".toList, none, none⟩, authority⟩

theorem reaches_tokens :
    client.Reaches (registration.tokenUrl.getD (usualTokenAddress .google)) tokens :=
  endpoint?_eq_some_iff.1 (by decide +kernel)

theorem reaches_users :
    client.Reaches (registration.userinfoUrl.getD (usualUserinfoAddress .google)) users :=
  endpoint?_eq_some_iff.1 (by decide +kernel)

/-- A script that grants a token and tells who the user is. -/
def script : List (Option Reply) :=
  [some ⟨200, "\x7b\"access_token\":\"t1\",\"token_type\":\"BEARER\"\x7d"⟩,
   some ⟨200, "\x7b\"sub\":\"1\"\x7d"⟩]

/-- A reply that refuses a code. -/
def refusal : Reply :=
  ⟨400, "\x7b\"error\":\"invalid_grant\",\"error_description\":\"Bad code\"\x7d"⟩

theorem isGranted_script : IsGranted script "t1" := by
  refine ⟨_, rfl, by decide, by decide, _, some "BEARER", rfl, .members rfl (Or.inl rfl), ?_⟩
  rintro name ⟨⟩
  decide

theorem not_isGranted_refusal (token : String) : ¬ IsGranted [some refusal] token := by
  rintro ⟨reply, came, grants⟩
  obtain rfl := Option.some.inj came
  exact absurd grants.2.1 (by decide)

theorem namesError_refusal : refusal.NamesError "invalid_grant" (some "Bad code") :=
  ⟨_, rfl, .members rfl (Or.inl rfl)⟩

end Sample

/-- At the usual addresses of a provider, both requests are sent where a token is granted and the
user is told of; one is where the code is refused, and the reason for that is told; and a provider
without a registration is sent nothing. -/
theorem Client.fetchUserinfo_followsFlow_usual :
    (∃ first second,
      (Sample.client.fetchUserinfo ⟨some Sample.registration, none⟩ .google "4/abc").run
        Sample.script = (.ok (.object [("sub", .string "1")]), [first, second]) ∧
      first.method = "POST" ∧ first.host = "oauth2.googleapis.com" ∧ first.target = "/token" ∧
      Says Sample.registration "4/abc" first.body ∧
      second.method = "GET" ∧ second.host = "www.googleapis.com" ∧
      second.target = "/oauth2/v3/userinfo" ∧ second.authorizations = ["Bearer t1"]) ∧
    (∃ first,
      (Sample.client.fetchUserinfo ⟨some Sample.registration, none⟩ .google "4/abc").run
        [some Sample.refusal] = (.error (.exchange "Bad code"), [first]) ∧
      first.method = "POST" ∧ first.host = "oauth2.googleapis.com" ∧ first.target = "/token") ∧
    (Sample.client.fetchUserinfo ⟨some Sample.registration, none⟩ .kakao "4/abc").run
      Sample.script = (.error (.notConfigured .kakao), []) := by
  have flow := Sample.client.fetchUserinfo_followsFlow ⟨some Sample.registration, none⟩ .google
    "4/abc"
  refine ⟨?_, ?_, ?_⟩
  · have follows := (flow Sample.script).2 Sample.registration Sample.tokens Sample.users
      (.google rfl) Sample.reaches_tokens Sample.reaches_users fun token grants => by
        rw [grants.unique Sample.isGranted_script]
        decide
    obtain ⟨first, second, sent, one, other⟩ := follows.granted "t1" Sample.isGranted_script
    have told := (follows.ok (.object [("sub", .string "1")])).2
      ⟨⟨"t1", Sample.isGranted_script⟩, _, rfl, by decide, by decide, _, rfl, rfl⟩
    obtain ⟨user, names, presented⟩ := other.bearer
    rw [names.nobody rfl] at presented
    exact ⟨first, second, Prod.ext told sent, one.method, one.goes.host, one.goes.target, one.body,
      other.method, other.goes.host, other.goes.target, presented⟩
  · have follows := (flow [some Sample.refusal]).2 Sample.registration Sample.tokens Sample.users
      (.google rfl) Sample.reaches_tokens Sample.reaches_users fun token grants =>
        absurd grants (Sample.not_isGranted_refusal token)
    obtain ⟨first, sent, one⟩ := follows.ungranted Sample.not_isGranted_refusal
    obtain ⟨detail, refused, explains⟩ := follows.exchange Sample.refusal rfl fun token grants =>
      Sample.not_isGranted_refusal token ⟨_, rfl, grants⟩
    obtain rfl := (explains (by decide)).eq_description Sample.namesError_refusal
    exact ⟨first, Prod.ext refused sent, one.method, one.goes.host, one.goes.target⟩
  · refine (Sample.client.fetchUserinfo_followsFlow ⟨some Sample.registration, none⟩ .kakao "4/abc"
      Sample.script).1 ?_
    rintro registration (_ | given)
    cases given

end SignOn.Gateway
