import SignOn.Proofs.Engine.StoredSessions
import SignOn.Proofs.Http.Asking
import SignOn.Proofs.Http.Cookies
import SignOn.Proofs.Http.Returns

/-!
# Answers and sessions agree

Credentials are handed out at two places, to those who bring a refresh cookie and to those who land
after a login at a provider.  Wherever a response of theirs sets the refresh cookie, its value is
what the session of one identity holds from then on, and the access value that the response tells
is that of the same pair.  No other answer of theirs has a cookie, and none of those changes a live
session (`Site.agrees`).

A pair is followed from where it is stored (`Service.Stores`) to the response that tells it, through
the place (`Site.Reissued`, `Site.Landed`) and the gate.  The worlds are those that calls lead to, and
requests do not lead out of them (`reached_respond`).
-/

namespace SignOn

set_option autoImplicit false

/-! ## Worlds that are reached -/

namespace Engine

/-- A world that a service reaches from a fresh one by its calls, while time passes, stores are swept
and the providers come to answer in other ways. -/
inductive Reached (service : Service) : World → Prop where
  | fresh {world : World} (start : world.IsFresh) : Reached service world
  | call {world : World} (reached : Reached service world) (call : Call) :
      Reached service (call.after service world)
  | sweep {world : World} (reached : Reached service world) : Reached service world.sweep
  | wait {world : World} (reached : Reached service world) {later : Instant}
      (ordered : world.clock ≤ later) (within : later.isRepresentable = true) :
      Reached service (world.waitUntil later)
  | providers {world : World} (reached : Reached service world)
      (answers : Provider → String → Except ProviderError Json) :
      Reached service { world with providerAnswer := answers }

section Reached

variable {service : Service} {past : List Deed} {world : World}

/-- A run reaches the world to which it leads. -/
theorem Run.reached (run : Run service past world) : Reached service world := by
  induction run with
  | fresh start => exact .fresh start
  | call run call ih => exact ih.call call
  | sweep run ih => exact ih.sweep
  | wait run ordered within ih => exact ih.wait ordered within

theorem Reached.isRepresentable (reached : Reached service world) :
    world.clock.isRepresentable = true := by
  induction reached with
  | fresh start => exact start.clock
  | call reached call ih => rwa [Call.clock_after]
  | sweep reached ih => exact ih
  | wait reached ordered within ih => exact within
  | providers reached answers ih => exact ih

/-- What the sessions hold are the values that are current after some deeds. -/
theorem Reached.holds (reached : Reached service world) :
    ∃ past, ∀ identity, Holds service identity world (currentValue service identity past) := by
  induction reached with
  | fresh start =>
    refine ⟨[], fun identity => .nothing ?_⟩
    rw [start.sessions, Store.Table.get?_empty]
  | call reached call ih =>
    obtain ⟨past, holds⟩ := ih
    exact ⟨call.deed service _ :: past, fun identity =>
      (holds identity).deed reached.isRepresentable (call.clock_after service _) (call.effect _)⟩
  | sweep reached ih =>
    obtain ⟨past, holds⟩ := ih
    exact ⟨past, fun identity =>
      (holds identity).of_kept (Or.inr Store.Sessions.get?_purge) (Int.le_refl _)⟩
  | wait reached ordered within ih =>
    obtain ⟨past, holds⟩ := ih
    exact ⟨past, fun identity => (holds identity).of_kept (Or.inl rfl) ordered⟩
  | providers reached answers ih =>
    obtain ⟨past, holds⟩ := ih
    exact ⟨past, fun identity => (holds identity).of_kept (Or.inl rfl) (Int.le_refl _)⟩

end Reached

/-! ## Pairs that are installed -/

/-- The text is a credential that was issued to an identity at an instant for a lifetime: it is
accepted until it expires, for what it was issued for, unless it expires before 1970. -/
def IsCredential (codec : Codec) (issuedAt : Instant) (identity : UserId) (kind : TokenKind)
    (lifetime : Duration) (text : String) : Prop :=
  ∃ claims : Claims, claims.userId = identity ∧ claims.kind = kind ∧
    claims.issuedAt = issuedAt.seconds ∧
    claims.expiresAt = min (issuedAt.seconds + lifetime.seconds) Codec.lastSecond ∧
    text = codec.encode claims ∧
    ∀ now found, codec.verifyKind now text kind = .ok found ↔
      found = claims ∧ 0 ≤ claims.expiresAt ∧ now.seconds < claims.expiresAt

theorem isCredential_encode {codec : Codec} {issuedAt : Instant}
    (within : issuedAt.isRepresentable = true) (identity : UserId) (kind : TokenKind)
    (lifetime : Duration) (tokenId : String) :
    IsCredential codec issuedAt identity kind lifetime
      (codec.encode (Codec.issuedClaims issuedAt identity kind lifetime tokenId)) := by
  refine ⟨_, rfl, rfl, rfl, rfl, rfl, fun now found => ?_⟩
  rw [Codec.verifyKind_eq_ok_iff, Codec.verify_encode _ (Codec.inRange_issuedClaims within)]
  constructor
  · rintro ⟨accepted, -⟩
    exact accepted
  · rintro ⟨rfl, natural, live⟩
    exact ⟨⟨rfl, natural, live⟩, rfl⟩

/-- A credential is not an empty text. -/
theorem IsCredential.ne_empty {codec : Codec} {issuedAt : Instant} {identity : UserId}
    {kind : TokenKind} {lifetime : Duration} {text : String}
    (credential : IsCredential codec issuedAt identity kind lifetime text) : text ≠ "" := by
  obtain ⟨claims, -, -, -, -, rfl, -⟩ := credential
  intro empty
  have characters := congrArg String.toList empty
  rw [Codec.toList_encode] at characters
  simp [Parts.text] at characters

/-- The refresh value of a pair is what the session of an identity holds, and of no other, and both
values of the pair have been issued to this identity. -/
structure Installed (service : Service) (before after : World) (identity : UserId)
    (pair : TokenPair) : Prop where
  held : ∃ session, after.sessions.get? identity = some session ∧ session.owner = identity ∧
    session.refreshToken = pair.refreshToken ∧
    session.expiresAt = service.codec.refreshLifetime.after before.clock
  alone : ∀ other session, after.sessions.get? other = some session →
    session.refreshToken = pair.refreshToken → other = identity
  others : ∀ other, other ≠ identity → after.sessions.get? other = before.sessions.get? other
  refresh : IsCredential service.codec before.clock identity .refresh service.codec.refreshLifetime
    pair.refreshToken
  access : IsCredential service.codec before.clock identity .access service.codec.accessLifetime
    pair.accessToken
  nonempty : pair.refreshToken ≠ ""

section Installed

variable {service : Service} {before after : World} {identity : UserId} {pair : TokenPair}

/-- What a session holds names its identity, so no two sessions hold the same value. -/
theorem Reached.installed (reached : Reached service before) {tokenId : String} {session : Session}
    (stores : service.Stores identity before after pair tokenId session) :
    Installed service before after identity pair := by
  obtain ⟨past, holds⟩ := reached.holds
  have within := reached.isRepresentable
  have owned : session.owner = identity :=
    stores.owned fun old found => (holds identity).owner found
  have refresh : IsCredential service.codec before.clock identity .refresh
      service.codec.refreshLifetime pair.refreshToken := by
    rw [stores.issued]
    exact isCredential_encode within identity .refresh _ tokenId
  refine ⟨⟨session, ?_, owned, stores.value, stores.lapse⟩, ?_, ?_, refresh, ?_, refresh.ne_empty⟩
  · rw [stores.sessions, if_pos rfl]
  · intro other held found same
    by_contra differs
    rw [stores.sessions, if_neg differs] at found
    obtain ⟨_, issuedAt, otherId, early, issued, _⟩ := (holds other).exists_issued found
    rw [same, stores.issued] at issued
    -- The value would have been issued to both, but it names one identity.
    have claims := Codec.encode_injective _ (Service.inRange_refreshClaims within)
      (Service.inRange_refreshClaims early) issued
    exact differs (congrArg Claims.userId claims).symm
  · intro other differs
    rw [stores.sessions, if_neg differs]
  · obtain ⟨accessId, paired⟩ := stores.paired
    rw [paired]
    exact isCredential_encode within identity .access _ accessId

end Installed

/-- A world shows the same live sessions as another of the same instant. -/
def ShowsSessions (before after : World) : Prop :=
  ∀ other, after.sessions.liveAt before.clock other = before.sessions.liveAt before.clock other

theorem showsSessions_of_eq {before after : World} (same : after.sessions = before.sessions) :
    ShowsSessions before after :=
  fun other => by rw [same]

theorem Service.Keeps.showsSessions {before after : World} (kept : Service.Keeps before after) :
    ShowsSessions before after := by
  intro other
  rw [Store.Sessions.liveAt]
  rcases kept other with same | same
  · rw [same, Store.Sessions.liveAt]
  · rw [same, Store.Sessions.liveAt, Option.filter_filter]
    simp

end Engine

/-! ## Landing logins in memory -/

namespace Http

open Engine (CalendarEnd Call Context Installed Operation Program Reached ShowsSessions World)
open Engine.Operation (on on_act on_bind_cases on_bind_error on_bind_ok on_ofOutcome on_ofVerdict
  on_pure on_reject)

section Landing

variable {service : Engine.Service} {context : Context} {name : String} {query : CallbackQuery}
  {provider : Provider} {world after : World}
  {outcome : Except CalendarEnd (Except Failure TokenPair)}

/-- A login that has an answer stores the refresh value of the pair that it gives; without a pair it
changes no session. -/
theorem landWith_effect {answer : Except ProviderError Json}
    (ran : (landWith service context provider answer).on world = (outcome, after)) :
    (∃ identity pair tokenId session, outcome = .ok (.ok pair) ∧
      service.Stores identity world after pair tokenId session) ∨
      (∀ pair, outcome ≠ .ok (.ok pair)) ∧ after.sessions = world.sessions := by
  cases answer with
  | error error =>
    obtain ⟨rfl, rfl⟩ := Prod.mk.inj ran
    exact Or.inr ⟨nofun, rfl⟩
  | ok payload =>
    rcases on_bind_cases ran with ⟨callback, middle, read, ran⟩ | ⟨_, read, _, failed⟩
    · obtain ⟨-, rfl⟩ := Prod.mk.inj read
      rcases on_bind_cases ran with ⟨landed, last, login, ran⟩ | ⟨_, login, unlanded, failed⟩
      · obtain ⟨rfl, rfl⟩ := Prod.mk.inj ran
        rcases Call.providerLogin_effect login with
          ⟨user, pair, tokenId, session, done, stores⟩ | ⟨failed, _⟩
        · cases done
          exact Or.inl ⟨user.id, pair, tokenId, session, rfl, stores⟩
        · exact absurd rfl (failed landed)
      · rcases Call.providerLogin_effect login with ⟨user, pair, _, _, done, _⟩ | ⟨_, same⟩
        · exact absurd done (unlanded (user, pair))
        · exact Or.inr ⟨failed, same⟩
    · obtain ⟨-, rfl⟩ := Prod.mk.inj read
      exact Or.inr ⟨failed, rfl⟩

/-- A landing login fails at once, or goes on with the answer of a provider. -/
theorem on_landLogin (service : Engine.Service) (context : Context) (name : String)
    (query : CallbackQuery) (world : World) :
    (∃ failure, (landLogin service context name query).on world = (.ok (.error failure), world)) ∨
      ∃ provider code, Landing name query provider code ∧
        (landLogin service context name query).on world =
          (landWith service context provider (world.providerAnswer provider code)).on world := by
  rw [landLogin_eq]
  cases known : Provider.require name with
  | error rejection =>
    have unknown : (Operation.ofVerdict (.error rejection : Except Rejection Provider)).on world =
        (.ok (.error (.rejected rejection)), world) := rfl
    rw [on_bind_error unknown]
    exact Or.inl ⟨_, rfl⟩
  | ok provider =>
    have required : (Operation.ofVerdict (.ok provider)).on world = (.ok (.ok provider), world) :=
      rfl
    rw [on_bind_ok required]
    by_cases granted : query.error = none
    · rw [if_neg (by simp [granted])]
      cases coded : query.code.filter (· ≠ "") with
      | none => exact Or.inl ⟨_, rfl⟩
      | some code =>
        obtain ⟨given, something⟩ := Option.filter_eq_some_iff.1 coded
        refine Or.inr ⟨provider, code, ⟨known, granted, given, of_decide_eq_true something⟩, ?_⟩
        have asked : (Operation.act (.askProvider provider code)).on world =
            (.ok (.ok (world.providerAnswer provider code)), world) := rfl
        exact on_bind_ok asked
    · rw [if_pos (Option.isSome_iff_ne_none.2 granted)]
      exact Or.inl ⟨_, rfl⟩

theorem landLogin_effect
    (ran : (landLogin service context name query).on world = (outcome, after)) :
    (∃ identity pair tokenId session, outcome = .ok (.ok pair) ∧
      service.Stores identity world after pair tokenId session) ∨
      (∀ pair, outcome ≠ .ok (.ok pair)) ∧ after.sessions = world.sessions := by
  rcases on_landLogin service context name query world with
    ⟨failure, failed⟩ | ⟨provider, code, -, goes⟩
  · rw [failed] at ran
    obtain ⟨rfl, rfl⟩ := Prod.mk.inj ran
    exact Or.inr ⟨nofun, rfl⟩
  · rw [goes] at ran
    exact landWith_effect ran

end Landing

/-! ## The two places -/

namespace Site

/-- What a request to reissue has the service do, with its outcome and the world after it. -/
inductive Reissues (site : Site) (request : Request) (before : World) :
    Except CalendarEnd (Except Failure TokenPair) → World → Prop where
  /-- The request does not pass the gate. -/
  | nothing {failure : Failure} {after : World}
      (gate : (passGate site.service request).on before = (.ok (.error failure), after)) :
      Reissues site request before (.ok (.error failure)) after
  /-- The request has passed the gate, but brings no refresh cookie. -/
  | empty {caller : Caller} {middle : World}
      (passed : (passGate site.service request).on before = (.ok (.ok caller), middle))
      (cookie : refreshValue? site.server.cookie (request.valuesOf "cookie") = none) :
      Reissues site request before (.ok (.error (.rejected .emptyCredential))) middle
  /-- The value of its refresh cookie is presented to the service. -/
  | presented {caller : Caller} {middle after : World} {value : String}
      {outcome : Except CalendarEnd (Except Failure TokenPair)}
      (passed : (passGate site.service request).on before = (.ok (.ok caller), middle))
      (cookie : refreshValue? site.server.cookie (request.valuesOf "cookie") = some value)
      (ran : (site.service.reissue caller.context value).on middle = (outcome, after)) :
      Reissues site request before outcome after

/-- What a request to reissue comes to. -/
inductive Reissued (site : Site) (freshId : String) (request : Request) (before : World) :
    Except CalendarEnd Response → World → Prop where
  /-- A pair is installed: its refresh value is in the cookie, and its access value in the body. -/
  | handedOut {identity : UserId} {pair : TokenPair} {response : Response} {after : World}
      (does : site.Reissues request before (.ok (.ok pair)) after)
      (installed : Installed site.service before after identity pair)
      (status : response.status = 200)
      (cookie : SetsCookie site.server.cookie pair.refreshToken pair.refreshMaxAge response)
      (body : Json.ofBytes? (Text.utf8 response.body) =
        some (.object [("success", .boolean true),
          ("data", .object [("accessToken", .string pair.accessToken)])])) :
      Reissued site freshId request before (.ok response) after
  /-- The answer is that of a failure, and tells its public code. -/
  | turnedDown {failure : Failure} {response : Response} {after : World}
      (does : site.Reissues request before (.ok (.error failure)) after)
      (tells : TellsCode request failure.publicCode response)
      (answer : response = finish request request.route freshId (Response.failure failure))
      (status : response.status ≠ 200)
      (bare : response.valuesOf "set-cookie" = [])
      (shows : ShowsSessions before after) :
      Reissued site freshId request before (.ok response) after
  /-- There is no answer, since the calendar has ended. -/
  | brokenOff {calendarEnd : CalendarEnd} {after : World}
      (does : site.Reissues request before (.error calendarEnd) after)
      (shows : ShowsSessions before after) :
      Reissued site freshId request before (.error calendarEnd) after

/-- What a request comes to that lands after a login at the provider of a name. -/
inductive Landed (site : Site) (freshId : String) (request : Request) (name : String)
    (query : CallbackQuery) (before : World) : Except CalendarEnd Response → World → Prop where
  /-- A pair is installed: its refresh value is in the cookie, and its access value is sent back. -/
  | handedOut {caller : Caller} {middle : World} {identity : UserId} {pair : TokenPair}
      {response : Response} {after : World}
      (passed : (passGate site.service request).on before = (.ok (.ok caller), middle))
      (landed : (landLogin site.service caller.context name query).on middle =
        (.ok (.ok pair), after))
      (installed : Installed site.service before after identity pair)
      (back : SendsBack site.server.allowedOrigin "accessToken" pair.accessToken response)
      (cookie : SetsCookie site.server.cookie pair.refreshToken pair.refreshMaxAge response) :
      Landed site freshId request name query before (.ok response) after
  /-- The login of a request that has passed the gate fails, and the public code is sent back. -/
  | failed {caller : Caller} {middle : World} {failure : Failure} {response : Response}
      {after : World}
      (passed : (passGate site.service request).on before = (.ok (.ok caller), middle))
      (failed : (landLogin site.service caller.context name query).on middle =
        (.ok (.error failure), after))
      (back : SendsBack site.server.allowedOrigin "error" failure.publicCode.code response)
      (bare : response.valuesOf "set-cookie" = [])
      (shows : ShowsSessions before after) :
      Landed site freshId request name query before (.ok response) after
  /-- The request has not passed the gate, and the answer is that of the failure, whose public code
  it tells. -/
  | turnedAway {failure : Failure} {response : Response} {after : World}
      (gate : (passGate site.service request).on before = (.ok (.error failure), after))
      (tells : TellsCode request failure.publicCode response)
      (answer : response = finish request request.route freshId (Response.failure failure))
      (bare : response.valuesOf "set-cookie" = [])
      (shows : ShowsSessions before after) :
      Landed site freshId request name query before (.ok response) after
  /-- There is no answer, since the calendar has ended. -/
  | brokenOff {caller : Caller} {middle : World} {calendarEnd : CalendarEnd} {after : World}
      (passed : (passGate site.service request).on before = (.ok (.ok caller), middle))
      (broken : (landLogin site.service caller.context name query).on middle =
        (.error calendarEnd, after))
      (shows : ShowsSessions before after) :
      Landed site freshId request name query before (.error calendarEnd) after

variable {site : Site} {freshId : String} {request : Request} {before middle : World}
  {caller : Caller}

/-- Where the value of the refresh cookie is exchanged, the pair is handed out. -/
theorem Reissued.exists_handedOut {outcome : Except CalendarEnd Response} {after : World}
    (reissued : Reissued site freshId request before outcome after)
    (exchanged : ∀ {result last}, site.Reissues request before result last →
      ∃ pair, result = .ok (.ok pair)) :
    ∃ identity pair response, outcome = .ok response ∧ response.status = 200 ∧
      SetsCookie site.server.cookie pair.refreshToken pair.refreshMaxAge response ∧
      Json.ofBytes? (Text.utf8 response.body) =
        some (.object [("success", .boolean true),
          ("data", .object [("accessToken", .string pair.accessToken)])]) ∧
      Installed site.service before after identity pair := by
  cases reissued with
  | handedOut does installed status cookie body =>
    exact ⟨_, _, _, rfl, status, cookie, body, installed⟩
  | turnedDown does =>
    obtain ⟨_, absurdity⟩ := exchanged does
    cases absurdity
  | brokenOff does =>
    obtain ⟨_, absurdity⟩ := exchanged does
    cases absurdity

/-- Where the login of a request that passes the gate lands, the pair is handed out. -/
theorem Landed.exists_handedOut {name : String} {query : CallbackQuery}
    {outcome : Except CalendarEnd Response} {after last : World} {pair : TokenPair}
    (landed : Landed site freshId request name query before outcome after)
    (passes : (passGate site.service request).on before = (.ok (.ok caller), middle))
    (lands : (landLogin site.service caller.context name query).on middle =
      (.ok (.ok pair), last)) :
    ∃ identity response, outcome = .ok response ∧
      SendsBack site.server.allowedOrigin "accessToken" pair.accessToken response ∧
      SetsCookie site.server.cookie pair.refreshToken pair.refreshMaxAge response ∧
      Installed site.service before after identity pair := by
  cases landed with
  | handedOut passed landed installed back cookie =>
    cases passes.symm.trans passed
    cases lands.symm.trans landed
    exact ⟨_, _, rfl, back, cookie, installed⟩
  | failed passed failed =>
    cases passes.symm.trans passed
    cases lands.symm.trans failed
  | turnedAway gate => cases passes.symm.trans gate
  | brokenOff passed broken =>
    cases passes.symm.trans passed
    cases lands.symm.trans broken

/-- A response without a cookie leaves the site without one. -/
theorem cookies_finish {route : Option Route} {response : Response}
    (bare : response.valuesOf "set-cookie" = []) :
    (finish request route freshId response).valuesOf "set-cookie" = [] := by
  rw [valuesOf_finish (by decide) (by decide), bare]

theorem cookies_failure (failure : Failure) :
    (Response.failure failure).valuesOf "set-cookie" = [] := rfl

theorem setsCookie_withPair {settings : Settings.Cookie}
    (legal : isLegalValue settings.path = true) {route : Option Route} {response : Response}
    (bare : response.valuesOf "set-cookie" = []) (pair : TokenPair) :
    SetsCookie settings pair.refreshToken pair.refreshMaxAge
      (finish request route freshId (response.withPair settings pair)) := by
  apply setsCookie_of_valuesOf
  rw [valuesOf_finish (by decide) (by decide), withPair_of_legal legal, valuesOf_withHeader_self,
    bare, List.nil_append]

theorem reissued_of_failure {failure : Failure} {after : World}
    (does : site.Reissues request before (.ok (.error failure)) after)
    (shows : ShowsSessions before after) :
    Reissued site freshId request before
      (.ok (finish request request.route freshId (Response.failure failure))) after :=
  .turnedDown does (tellsCode_failure request request.route freshId failure) rfl
    (by rw [status_finish]; exact status_failure failure)
    (cookies_finish (cookies_failure failure)) shows

/-- What follows the gate changes no live session where it changes none of what the gate leaves. -/
theorem shows_of_passage {outcome : Except Failure Caller} {after : World}
    (passage : Passage site.service request before outcome middle)
    (shows : ShowsSessions middle after) : ShowsSessions before after := by
  obtain ⟨sessions, clock⟩ := passage.same
  intro other
  rw [← sessions, ← clock]
  exact shows other

/-- What is stored after the gate is installed. -/
theorem installed_of_passage (reached : Reached site.service before)
    {outcome : Except Failure Caller} {after : World} {identity : UserId} {pair : TokenPair}
    {tokenId : String} {session : Session}
    (passage : Passage site.service request before outcome middle)
    (stores : site.service.Stores identity middle after pair tokenId session) :
    Installed site.service before after identity pair := by
  obtain ⟨sessions, clock⟩ := passage.same
  exact reached.installed (stores.of_unchanged (fun other => by rw [sessions]) clock)

/-- Every request to reissue is answered as it should be. -/
theorem reissued (reached : Reached site.service before)
    (legal : isLegalValue site.server.cookie.path = true) (freshId : String)
    (place : request.route = some .reissue)
    (allowed : Route.reissue.allows request.method = true) :
    Reissued site freshId request before (site.respond freshId request before).1
      (site.respond freshId request before).2 := by
  obtain ⟨outcome, middle, passed, passage⟩ := passage site.service request before
  cases outcome with
  | error failure =>
    rw [respond_of_refused passed]
    exact reissued_of_failure (.nothing passed) (shows_of_passage passage fun _ => rfl)
  | ok caller =>
    rw [respond_of_admitted passed, place, dispatch_reissue allowed, ← place, reissue]
    cases cookie : refreshValue? site.server.cookie (request.valuesOf "cookie") with
    | none =>
      exact reissued_of_failure (.empty passed cookie) (shows_of_passage passage fun _ => rfl)
    | some value =>
      dsimp only
      rw [run_answer_told]
      cases ran : (site.service.reissue caller.context value).on middle with
      | mk result after =>
        have does := Reissues.presented passed cookie ran
        rcases Call.reissue_effect ran with
          ⟨claims, pair, tokenId, session, -, rfl, stores⟩ | ⟨failed, kept⟩
        · have whole : request.method ≠ "HEAD" := by
            rintro head
            rw [head] at allowed
            exact absurd allowed (by decide)
          refine .handedOut does (installed_of_passage reached passage stores)
            (status_finish.trans (status_withPair _ _ _)) (setsCookie_withPair legal rfl pair) ?_
          have plain : Json.IsPlain (.object [("accessToken", .string pair.accessToken)]) := by
            simp only [Json.IsPlain, Json.HavePlain, and_self]
          rw [body_finish whole]
          dsimp only
          rw [body_withPair]
          exact ofBytes?_success plain
        · have shows := shows_of_passage passage kept.showsSessions
          rcases result with calendarEnd | failure | pair
          · exact .brokenOff does shows
          · exact reissued_of_failure does shows
          · exact absurd rfl (failed pair)

/-- Every request that lands is answered as it should be. -/
theorem landed (reached : Reached site.service before)
    (legal : isLegalValue site.server.cookie.path = true) (freshId : String) {tag : List Char}
    {name : String} {query : CallbackQuery} (place : request.route = some (.callback tag))
    (allowed : (Route.callback tag).allows request.method = true)
    (named : unescape? tag = some name)
    (asked : CallbackQuery.ofQuery? request.location.2 = some query) :
    Landed site freshId request name query before (site.respond freshId request before).1
      (site.respond freshId request before).2 := by
  obtain ⟨outcome, middle, passed, passage⟩ := passage site.service request before
  cases outcome with
  | error failure =>
    rw [respond_of_refused passed]
    exact .turnedAway passed (tellsCode_failure request request.route freshId failure) rfl
      (cookies_finish (cookies_failure failure))
      (shows_of_passage passage fun _ => rfl)
  | ok caller =>
    rw [respond_of_admitted passed, place, dispatch_callback allowed, ← place, callback, named,
      asked]
    dsimp only
    rw [Program.run_bind]
    cases ran : (landLogin site.service caller.context name query).on middle with
    | mk result after =>
      rw [on] at ran
      rw [ran]
      rcases landLogin_effect ran with
        ⟨identity, pair, tokenId, session, rfl, stores⟩ | ⟨failed, same⟩
      · refine .handedOut passed ran (installed_of_passage reached passage stores) ?_
          (setsCookie_withPair legal rfl pair)
        rw [withPair_of_legal legal]
        exact ((sendsBack_redirect _ _ _).withHeader (by decide) _).finish _ _ _
      · have shows := shows_of_passage passage (Engine.showsSessions_of_eq same)
        rcases result with calendarEnd | failure | pair
        · exact .brokenOff passed ran shows
        · exact .failed passed ran ((sendsBack_redirect _ _ _).finish _ _ _) (cookies_finish rfl)
            shows
        · exact absurd rfl (failed pair)

end Site

/-! ## Requests one after another -/

section Onward

variable {service : Engine.Service} {site : Site} {request : Request} {world after : World}

theorem reached_passGate (reached : Reached service world) {outcome : Except Failure Caller}
    (passage : Passage service request world outcome after) : Reached service after := by
  have checked {token : String} {result : Except Failure UserId}
      (ran : (service.authorize request.arrival token).on world = (.ok result, after)) :
      Reached service after := by
    have step := reached.call (.authorize request.arrival token)
    rw [Call.after, Call.operation, ran] at step
    exact step
  cases passage with
  | anonymous bare => exact reached
  | refused bears refused _ => exact checked refused
  | admitted bears accepted _ => exact checked accepted

theorem reached_landLogin (reached : Reached service world) (context : Context) (name : String)
    (query : CallbackQuery) :
    Reached service ((landLogin service context name query).on world).2 := by
  rcases on_landLogin service context name query world with
    ⟨_, failed⟩ | ⟨provider, code, -, goes⟩
  · rw [failed]
    exact reached
  · rw [goes]
    cases world.providerAnswer provider code with
    | error error => exact reached
    | ok payload =>
      cases read : Callback.ofUserinfo provider payload with
      | error rejection =>
        rw [landWith, read]
        exact reached
      | ok callback =>
        have taken : (Operation.ofVerdict (.ok callback)).on world = (.ok (.ok callback), world) :=
          rfl
        rw [landWith, read, on_bind_ok taken, Engine.Operation.on_bind]
        have step := reached.call (.providerLogin context callback)
        rw [Call.after, Call.operation] at step
        cases ran : (service.providerLogin context callback).on world with
        | mk result last =>
          rw [ran] at step
          rcases result with calendarEnd | failure | landed <;> exact step

theorem reached_dispatch (reached : Reached site.service world) (caller : Caller)
    (route : Option Route) :
    Reached site.service ((site.dispatch caller request route).run World.perform world).2 := by
  cases route with
  | none => exact reached
  | some route =>
    by_cases allowed : route.allows request.method = true
    · cases route with
      | reissue =>
        rw [Site.dispatch_reissue allowed, Site.reissue]
        cases refreshValue? site.server.cookie (request.valuesOf "cookie") with
        | none => exact reached
        | some value =>
          have step := reached.call (.reissue caller.context value)
          rw [Call.after, Call.operation] at step
          dsimp only
          rw [run_answer_told]
          dsimp only
          exact step
      | logout =>
        rw [Site.dispatch_logout allowed]
        obtain ⟨context, _ | ⟨identity, token⟩⟩ := caller
        · rw [run_logout_nobody]
          exact reached
        · rw [run_logout_somebody]
          exact reached.call (.logout context (some token))
      | me =>
        rw [Site.dispatch_me allowed]
        obtain ⟨context, _ | ⟨identity, token⟩⟩ := caller
        · rw [run_me_nobody]
          exact reached
        · rw [run_me_somebody]
          exact reached
      | callback tag =>
        rw [Site.dispatch_callback allowed, Site.callback]
        split
        · exact reached
        · exact reached
        · next name query _ _ =>
          have step := reached_landLogin reached caller.context name query
          rw [on] at step
          rw [Program.run_bind]
          generalize (landLogin site.service caller.context name query).run.run World.perform world =
            run at step ⊢
          obtain ⟨result, last⟩ := run
          rcases result with calendarEnd | failure | pair <;> exact step
    · rw [Site.dispatch_of_not_allows allowed]
      exact reached

/-- **Requests lead from reached worlds to reached worlds.** -/
theorem reached_respond (reached : Reached site.service world) (freshId : String)
    (request : Request) : Reached site.service (site.respond freshId request world).2 := by
  obtain ⟨outcome, middle, passed, passage⟩ := passage site.service request world
  have onward := reached_passGate reached passage
  cases outcome with
  | error failure =>
    rw [Site.respond_of_refused passed]
    exact onward
  | ok caller =>
    rw [Site.respond_of_admitted passed]
    exact reached_dispatch onward caller _

end Onward

/-! ## Answers and sessions agree -/

namespace Site

/-- What a site answers to a request agrees with the sessions that it leaves. -/
structure Agrees (site : Site) (freshId : String) (request : Request) (world : World) : Prop where
  reissue : request.route = some .reissue → Route.reissue.allows request.method = true →
    site.Reissued freshId request world (site.respond freshId request world).1
      (site.respond freshId request world).2
  callback : ∀ tag name query, request.route = some (.callback tag) →
    (Route.callback tag).allows request.method = true → unescape? tag = some name →
    CallbackQuery.ofQuery? request.location.2 = some query →
    site.Landed freshId request name query world (site.respond freshId request world).1
      (site.respond freshId request world).2
  /-- Whatever the answers to it, the request has a provider asked once at most, and only for its
  own login. -/
  asks : (site.handle freshId request).Meets (AsksOnce request.Lands) (fun _ _ => True) []

/-- **Answers and sessions agree.**  In every reached world, a response to a request to reissue or
to one that lands has a cookie only if a pair has been installed, and then the cookie holds its
refresh value and the body or the address its access value.  Otherwise no live session has changed,
and the response is that of a failure, or sends back the public code of one.  A provider is asked
once at most, and only as the request says. -/
theorem agrees (site : Site) {world : World} (reached : Reached site.service world)
    (legal : isLegalValue site.server.cookie.path = true) (freshId : String) (request : Request) :
    site.Agrees freshId request world where
  reissue := reissued reached legal freshId
  callback _ _ _ := landed reached legal freshId
  asks := asksOnce site freshId request

end Site

namespace Sample

/-- A site for the small service. -/
def site : Site where
  service := Engine.Sample.service
  server :=
    { host := "127.0.0.1"
      port := 8080
      allowedOrigin := ⟨"http".toList, some ⟨[], "localhost".toList, some 3000⟩, false, ['/'], none,
        none⟩
      cookie := ⟨"refresh_token", "/", false⟩ }

/-- A request to reissue that brings the cookie of the first login. -/
def renewal : Request :=
  ⟨"POST", "/api/v1/auth/reissue",
    [("Cookie", cookieLine [cookiePair "refresh_token" Engine.Sample.pair.refreshToken])], none⟩

/-- A request that lands after a login. -/
def landing : Request := ⟨"GET", "/api/v1/auth/callback/google?code=4%2Fabc", [], none⟩

/-- The world after a first login, with a provider that tells of the same user whatever the code. -/
def awaiting : World :=
  { Engine.Sample.loggedIn with
    providerAnswer := fun _ _ => .ok (.object
      [("sub", .string "g-1"), ("email", .string "dana@example.org"), ("name", .string "Dana")]) }

theorem isLegalValue_path : isLegalValue site.server.cookie.path = true := by decide

theorem reached_loggedIn : Reached site.service Engine.Sample.loggedIn :=
  Engine.Sample.run_login.reached

theorem on_passGate_renewal (world : World) : (passGate site.service renewal).on world =
    (.ok (.ok ⟨Engine.Sample.nobody, none⟩), world) := rfl

theorem on_passGate_landing (world : World) : (passGate site.service landing).on world =
    (.ok (.ok ⟨Engine.Sample.nobody, none⟩), world) := rfl

theorem refreshValue?_renewal : refreshValue? site.server.cookie (renewal.valuesOf "cookie") =
    some Engine.Sample.pair.refreshToken := by
  have filled : Engine.Sample.pair.refreshToken ≠ "" :=
    (Engine.isCredential_encode (by decide) Engine.Sample.identity .refresh _ _).ne_empty
  have alone : refreshValue? site.server.cookie ([] ++ cookieLine ([] ++ cookiePair "refresh_token"
      Engine.Sample.pair.refreshToken :: []) :: []) = _ :=
    refreshValue?_cookieLine (by decide) _ (List.forall_mem_nil _) (List.forall_mem_nil _)
  rw [if_neg filled] at alone
  exact alone

/-- The value of the cookie is exchanged. -/
theorem exchanged_renewal {outcome : Except CalendarEnd (Except Failure TokenPair)} {after : World}
    (does : site.Reissues renewal Engine.Sample.loggedIn outcome after) :
    ∃ pair, outcome = .ok (.ok pair) := by
  cases does with
  | nothing gate =>
    rw [on_passGate_renewal] at gate
    cases gate
  | empty passed cookie =>
    rw [refreshValue?_renewal] at cookie
    cases cookie
  | presented passed cookie ran =>
    rw [on_passGate_renewal] at passed
    rw [refreshValue?_renewal] at cookie
    obtain rfl := Option.some.inj cookie
    obtain ⟨-, rfl⟩ := Prod.mk.inj passed
    cases passed
    obtain ⟨fresh, last, succeeds⟩ := Engine.Sample.reissue_succeeds
    exact ⟨fresh, congrArg Prod.fst (ran.symm.trans succeeds)⟩

/-- The provider knows the user behind the code. -/
theorem lands_landing : ∃ pair after,
    (landLogin site.service Engine.Sample.nobody "google" ⟨some "4/abc", none⟩).on awaiting =
      (.ok (.ok pair), after) :=
  ⟨Engine.Sample.service.pairIn Engine.Sample.identity awaiting, _, rfl⟩

theorem route_landing : landing.route = some (.callback "google".toList) := by decide +kernel

theorem ofQuery?_landing :
    CallbackQuery.ofQuery? landing.location.2 = some ⟨some "4/abc", none⟩ := by decide +kernel

end Sample

/-- After a first login, its cookie is exchanged for another one, and a further login sets one: each
time, the session of the identity holds the value of the cookie that is set. -/
theorem Site.agrees_afterLogin :
    isLegalValue Sample.site.server.cookie.path = true ∧
      (∃ identity pair response after,
        Sample.site.respond "0" Sample.renewal Engine.Sample.loggedIn = (.ok response, after) ∧
        response.status = 200 ∧
        SetsCookie Sample.site.server.cookie pair.refreshToken pair.refreshMaxAge response ∧
        Json.ofBytes? (Text.utf8 response.body) =
          some (.object [("success", .boolean true),
            ("data", .object [("accessToken", .string pair.accessToken)])]) ∧
        Installed Sample.site.service Engine.Sample.loggedIn after identity pair) ∧
      ∃ identity pair response after,
        Sample.site.respond "0" Sample.landing Sample.awaiting = (.ok response, after) ∧
        SendsBack Sample.site.server.allowedOrigin "accessToken" pair.accessToken response ∧
        SetsCookie Sample.site.server.cookie pair.refreshToken pair.refreshMaxAge response ∧
        Installed Sample.site.service Sample.awaiting after identity pair := by
  refine ⟨Sample.isLegalValue_path, ?_, ?_⟩
  · have reissued := (Site.agrees Sample.site Sample.reached_loggedIn Sample.isLegalValue_path "0"
      Sample.renewal).reissue (by decide +kernel) (by decide)
    generalize Sample.site.respond "0" Sample.renewal Engine.Sample.loggedIn = run at reissued ⊢
    obtain ⟨outcome, after⟩ := run
    obtain ⟨identity, pair, response, rfl, status, cookie, body, installed⟩ :=
      reissued.exists_handedOut Sample.exchanged_renewal
    exact ⟨identity, pair, response, after, rfl, status, cookie, body, installed⟩
  · have reached : Reached Sample.site.service Sample.awaiting :=
      Sample.reached_loggedIn.providers _
    have landed := (Site.agrees Sample.site reached Sample.isLegalValue_path "0"
      Sample.landing).callback "google".toList "google" _ Sample.route_landing rfl
      (by decide +kernel) Sample.ofQuery?_landing
    obtain ⟨pair, last, lands⟩ := Sample.lands_landing
    generalize Sample.site.respond "0" Sample.landing Sample.awaiting = run at landed ⊢
    obtain ⟨outcome, after⟩ := run
    obtain ⟨identity, response, rfl, back, cookie, installed⟩ :=
      landed.exists_handedOut (Sample.on_passGate_landing _) lands
    exact ⟨identity, pair, response, after, rfl, back, cookie, installed⟩

end Http

end SignOn
