import SignOn.Proofs.Engine.Registry
import SignOn.Proofs.Http.Requests

/-!
# Who gets through the gate

A request without a readable bearer credential is handled as nobody's.  A request with one is checked
once, and is handled only if the check accepts the credential, as that of the identity which the
check establishes (`Site.handle_of_anonymous`, `Site.handle_of_bears`).  Whatever a place is told
about its caller comes from there; so the site tells a caller who it is just where the presented
credential is accepted for that identity, and a logout reaches no session and no mark but those of
the presented credential (`Site.guards`).
-/

namespace SignOn.Http

set_option autoImplicit false

open Engine (Context Operation Program World CalendarEnd)
open Engine.Operation (on on_bind_ok on_bind_error on_bind_cases)

/-! ## One check for each request -/

namespace Site

variable {site : Site} {freshId : String} {request : Request} {token : String} {world after : World}

/-- A request that presents no credential is handled as nobody's. -/
theorem handle_of_anonymous (anonymous : request.IsAnonymous) :
    site.handle freshId request = (do
      return finish request request.route freshId
        (← site.dispatch ⟨request.arrival, none⟩ request request.route)) := by
  rw [handle, passGate, Request.bearer?_eq_none_iff.2 anonymous]
  rfl

/-- A request that presents a credential is checked once, and handled only as what the check
establishes. -/
theorem handle_of_bears (bears : request.Bears token) :
    site.handle freshId request = (do
      match ← (site.service.authorize request.arrival token).run with
      | .error failure => return finish request request.route freshId (Response.failure failure)
      | .ok identity =>
          return finish request request.route freshId
            (← site.dispatch ⟨request.arrival.withActor identity, some (identity, token)⟩ request
              request.route)) := by
  rw [handle, passGate, Request.bearer?_eq_some_iff.2 bears]
  change Program.bind (Program.bind _ _) _ = Program.bind _ _
  rw [Engine.Program.bind_assoc]
  congr 1
  funext outcome
  cases outcome <;> rfl

end Site

/-! ## What a response tells -/

theorem ofBytes?_identityResponse (identity : UserId) :
    Json.ofBytes? (Text.utf8 (identityResponse identity).body) =
      some (.object [("success", .boolean true), ("data", .object
        [("email", .string identity.email), ("provider", .string identity.provider.name)])]) := by
  have plain : Json.IsPlain (.object
      [("email", .string identity.email), ("provider", .string identity.provider.name)]) := by
    simp only [Json.IsPlain, Json.HavePlain, and_self]
  exact ofBytes?_success plain

/-- No two identities are told the same. -/
theorem identityResponse_injective {identity other : UserId}
    (same : (identityResponse identity).body = (identityResponse other).body) : identity = other := by
  have values := ofBytes?_identityResponse identity
  rw [same, ofBytes?_identityResponse other] at values
  simp only [Option.some.injEq, Json.object.injEq, List.cons.injEq, Prod.mk.injEq,
    Json.string.injEq, true_and, and_true] at values
  obtain ⟨emails, names⟩ := values
  have providers := congrArg Provider.ofName? names
  rw [Provider.ofName?_name, Provider.ofName?_name] at providers
  obtain ⟨email, provider⟩ := identity
  obtain ⟨otherEmail, otherProvider⟩ := other
  rw [UserId.mk.injEq]
  exact ⟨emails.symm, (Option.some.inj providers).symm⟩

/-! ## What a logout reaches -/

section Logout

open Engine (KeepsKey markKeyStart markKey)

variable {service : Engine.Service} {context : Context} {token : Option String} {world : World}

/-- A logout deletes the session of its actor, or none. -/
theorem sessions_logout :
    ((service.logout context token).on world).2.sessions = world.sessions ∨
      ∃ identity, context.actor = some identity ∧
        ((service.logout context token).on world).2.sessions = world.sessions.erase identity := by
  obtain ⟨events, observed⟩ : ∃ events, (service.logout context token).on world =
      (_, { ((service.endSession context token).on world).2 with events := events }) :=
    Engine.Operation.on_observe (service.endSession context token)
  rw [observed]
  rcases Engine.Service.endSession_effect rfl with ⟨identity, actor, _, erased⟩ | ⟨_, same⟩
  · exact Or.inr ⟨identity, actor, erased⟩
  · exact Or.inl same

/-- A logout puts no mark but that of the text that it is given. -/
theorem keepsKey_logout {rest : String}
    (other : ∀ text, token = some text → markKeyStart ++ rest ≠ markKey text) :
    KeepsKey (markKeyStart ++ rest) world ((service.logout context token).on world).2 := by
  have routine : Engine.Routine (Engine.Action.SparesKey (markKeyStart ++ rest)) :=
    ⟨trivial, trivial, fun _ => trivial, fun _ _ =>
      (Engine.windowKeyStart_ne_markKeyStart _ _).symm⟩
  refine Engine.keepsKey_of_spares ?_ rfl
  exact Engine.Service.only_logout routine (fun _ _ => trivial) fun text given _ => other text given

end Logout

/-! ## The gate lets only authorised identities through -/

namespace Site

open Engine (markKeyStart markKey)

variable {site : Site} {freshId : String} {request : Request} {world : World}

/-- The request presents a credential that the site accepts now, for an identity. -/
def Accepts (site : Site) (request : Request) (world : World) (token : String)
    (identity : UserId) : Prop :=
  request.Bears token ∧
    ((site.service.authorize request.arrival token).on world).1 = .ok (.ok identity)

theorem accepts_iff {token : String} {identity : UserId} :
    site.Accepts request world token identity ↔ request.Bears token ∧
      (∃ claims, site.service.codec.verifyKind world.clock token .access = .ok claims ∧
        claims.userId = identity) ∧
      world.keyValue.liveAt world.clock (markKey token) = none := by
  rw [Accepts, Engine.on_authorize]
  refine and_congr_right fun _ => ?_
  cases verified : site.service.codec.verifyKind world.clock token .access with
  | error rejection => simp [Engine.on_checkAccess_unverified verified]
  | ok claims =>
    rw [Engine.on_checkAccess_verified verified]
    cases world.keyValue.liveAt world.clock (markKey token) <;> simp

/-- How a site treats a request in a world. -/
structure Guards (site : Site) (freshId : String) (request : Request) (world : World) : Prop where
  /-- Without a credential, the request is handled without an actor. -/
  anonymous : request.IsAnonymous →
    site.handle freshId request = (do
      return finish request request.route freshId
        (← site.dispatch ⟨⟨none, clientOrigin request⟩, none⟩ request request.route))
  /-- Nobody is told who it is, and nobody is logged out. -/
  unauthenticated : request.IsAnonymous → ∀ route, request.route = some route →
    route = .me ∨ route = .logout → route.allows request.method = true →
    ∃ response, site.respond freshId request world = (.ok response, world) ∧
      response.status = 401 ∧
      TellsCode request ⟨401, "A003", "Authentication is required."⟩ response ∧
      response = finish request (some route) freshId (Response.failure (.rejected .unauthenticated)) ∧
      (Failure.rejected .unauthenticated).publicCode.code = "A003"
  /-- With a credential, the request is checked once, without the blanks around the credential.  A
  failure of the check is the answer, and otherwise the request is handled with the identity that
  the check establishes as its actor. -/
  bearing : ∀ token, request.Bears token →
    site.handle freshId request = (do
      match ← (site.service.authorize ⟨none, clientOrigin request⟩ token).run with
      | .error failure => return finish request request.route freshId (Response.failure failure)
      | .ok identity =>
          return finish request request.route freshId
            (← site.dispatch ⟨⟨some identity, clientOrigin request⟩, some (identity, token)⟩ request
              request.route))
  /-- A request whose credential is turned down is told the public code of the failure.  It leaves the
  sessions, the users and all that is shown of counters and marks as they are, and adds one event of
  an access check to the audit trail. -/
  refused : ∀ token failure, request.Bears token →
    ((site.service.authorize ⟨none, clientOrigin request⟩ token).on world).1 =
      .ok (.error failure) →
    ∃ response after, site.respond freshId request world = (.ok response, after) ∧
      TellsCode request failure.publicCode response ∧
      response = finish request request.route freshId (Response.failure failure) ∧
      Engine.Checked token world after
  /-- A credential is accepted exactly if it verifies as an access credential of the identity now, and
  there is no live mark for it. -/
  accepted : ∀ token identity, site.Accepts request world token identity ↔ request.Bears token ∧
    (∃ claims, site.service.codec.verifyKind world.clock token .access = .ok claims ∧
      claims.userId = identity) ∧
    world.keyValue.liveAt world.clock (markKey token) = none
  /-- Whatever the method, whoever is told who it is has presented a credential that is accepted for
  that identity, and everyone who may ask and has presented one is told. -/
  told : request.route = some .me →
    (∀ response after, site.respond freshId request world = (.ok response, after) →
      response.status = 200 → ∃ token identity, site.Accepts request world token identity ∧
        response = finish request (some .me) freshId (identityResponse identity)) ∧
    (Route.me.allows request.method = true → ∀ token identity,
      site.Accepts request world token identity →
      ∃ after, site.respond freshId request world =
        (.ok (finish request (some .me) freshId (identityResponse identity)), after))
  /-- A caller can read who it is exactly if it presents a credential that is accepted for that
  identity. -/
  identified : request.route = some .me → request.method = "GET" → ∀ identity,
    (∃ response after, site.respond freshId request world = (.ok response, after) ∧
        response.status = 200 ∧ response.body = (identityResponse identity).body) ↔
      ∃ token, site.Accepts request world token identity
  /-- A caller that is told who it is is told the address and the provider. -/
  shown : ∀ identity, (identityResponse identity).status = 200 ∧
    Json.ofBytes? (Text.utf8 (identityResponse identity).body) =
      some (.object [("success", .boolean true), ("data", .object
        [("email", .string identity.email), ("provider", .string identity.provider.name)])])
  /-- A request to log out leaves the sessions of all identities alone but of the one for which the
  presented credential is accepted, and that is deleted at most. -/
  sessions : request.route = some .logout → ∀ other,
    (site.respond freshId request world).2.sessions.get? other = world.sessions.get? other ∨
      (site.respond freshId request world).2.sessions.get? other = none ∧
        ∃ token, site.Accepts request world token other
  /-- A request to log out leaves every mark alone but that of a presented credential that is
  accepted. -/
  marks : request.route = some .logout → ∀ rest,
    (site.respond freshId request world).2.keyValue.liveAt world.clock (markKeyStart ++ rest) =
        world.keyValue.liveAt world.clock (markKeyStart ++ rest) ∨
      ∃ token identity, site.Accepts request world token identity ∧
        markKeyStart ++ rest = markKey token

/-! ### Each part -/

/-- The places that need an identity turn down a request of nobody. -/
theorem respond_of_anonymous (bare : request.IsAnonymous) {route : Route}
    (place : request.route = some route) (needs : route = .me ∨ route = .logout)
    (allowed : route.allows request.method = true) :
    site.respond freshId request world =
      (.ok (finish request (some route) freshId (Response.failure (.rejected .unauthenticated))),
        world) := by
  rw [respond_of_admitted (on_passGate_anonymous bare), place]
  rcases needs with rfl | rfl
  · rw [dispatch_me allowed, run_me_nobody]
    rfl
  · rw [dispatch_logout allowed, run_logout_nobody]
    rfl

theorem respond_of_unaccepted {token : String} {failure : Failure} (bears : request.Bears token)
    (refused : ((site.service.authorize request.arrival token).on world).1 = .ok (.error failure)) :
    ∃ response after, site.respond freshId request world = (.ok response, after) ∧
      TellsCode request failure.publicCode response ∧
      response = finish request request.route freshId (Response.failure failure) ∧
      Engine.Checked token world after := by
  obtain ⟨outcome, after, ran, checked⟩ :=
    Engine.Service.checks_authorize site.service request.arrival token world
  rw [ran] at refused
  obtain rfl := Except.ok.inj refused
  exact ⟨_, after, respond_of_refused (on_passGate_refused bears ran),
    tellsCode_failure request request.route freshId failure, rfl, checked⟩

/-- A caller whose credential is accepted is told who it is. -/
theorem respond_me_of_accepts (place : request.route = some .me)
    (allowed : Route.me.allows request.method = true) {token : String} {identity : UserId}
    (accepts : site.Accepts request world token identity) :
    ∃ after, site.respond freshId request world =
      (.ok (finish request (some .me) freshId (identityResponse identity)), after) := by
  obtain ⟨bears, accepted⟩ := accepts
  obtain ⟨outcome, after, ran, -⟩ := site.service.checks_authorize request.arrival token world
  rw [ran] at accepted
  obtain rfl := Except.ok.inj accepted
  refine ⟨after, ?_⟩
  rw [respond_of_admitted (on_passGate_admitted bears ran), place, dispatch_me allowed,
    run_me_somebody]
  rfl

/-- Whoever is told who it is has presented a credential that is accepted. -/
theorem accepts_of_respond_me (place : request.route = some .me) {response : Response}
    {last : World} (ran : site.respond freshId request world = (.ok response, last))
    (status : response.status = 200) :
    ∃ token identity, site.Accepts request world token identity ∧
      response = finish request (some .me) freshId (identityResponse identity) := by
  -- Any other response has another status.
  have otherwise {other : Response}
      (answered : (site.respond freshId request world).1 = .ok (finish request request.route freshId
        other)) : other.status = 200 := by
    rw [ran] at answered
    rw [Except.ok.inj answered, status_finish] at status
    exact status
  obtain ⟨outcome, after, passed, passage⟩ := passage site.service request world
  cases passage with
  | anonymous bare =>
    have answered : (site.respond freshId request world).1 = _ :=
      congrArg Prod.fst (respond_of_admitted passed)
    by_cases allowed : Route.me.allows request.method = true
    · rw [place, dispatch_me allowed, run_me_nobody, ← place] at answered
      cases otherwise answered
    · rw [place, dispatch_of_not_allows allowed, ← place] at answered
      cases otherwise answered
  | refused bears refused checked =>
    exact absurd (otherwise (congrArg Prod.fst (respond_of_refused passed))) (status_failure _)
  | @admitted token identity _ bears accepted checked =>
    by_cases allowed : Route.me.allows request.method = true
    · have accepts : site.Accepts request world token identity := ⟨bears, by rw [accepted]⟩
      obtain ⟨_, told⟩ : ∃ after, site.respond freshId request world = (.ok _, after) :=
        respond_me_of_accepts place allowed accepts
      rw [ran] at told
      exact ⟨token, identity, accepts, Except.ok.inj (congrArg Prod.fst told)⟩
    · have answered : (site.respond freshId request world).1 = _ :=
        congrArg Prod.fst (respond_of_admitted passed)
      rw [place, dispatch_of_not_allows allowed, ← place] at answered
      cases otherwise answered

theorem identified_iff (place : request.route = some .me) (method : request.method = "GET")
    (identity : UserId) :
    (∃ response after, site.respond freshId request world = (.ok response, after) ∧
        response.status = 200 ∧ response.body = (identityResponse identity).body) ↔
      ∃ token, site.Accepts request world token identity := by
  have whole : request.method ≠ "HEAD" := by
    rw [method]
    decide
  constructor
  · rintro ⟨response, after, ran, status, body⟩
    obtain ⟨token, accepted, accepts, rfl⟩ := accepts_of_respond_me place ran status
    rw [body_finish whole] at body
    obtain rfl := identityResponse_injective body
    exact ⟨token, accepts⟩
  · rintro ⟨token, accepts⟩
    have allowed : Route.me.allows request.method = true := by
      rw [method]
      rfl
    obtain ⟨after, told⟩ := respond_me_of_accepts place allowed accepts
    exact ⟨_, after, told, status_finish, body_finish whole⟩

/-- What a request to log out leaves: what the gate leaves, or what a logout leaves of that, by the
identity for which the presented credential is accepted and with this very credential. -/
theorem after_logout (freshId : String) (world : World) (place : request.route = some .logout) :
    ∃ middle : World, middle.sessions = world.sessions ∧ middle.clock = world.clock ∧
      (∀ key, middle.keyValue.liveAt world.clock key = world.keyValue.liveAt world.clock key) ∧
      ((site.respond freshId request world).2 = middle ∨
        ∃ token identity, site.Accepts request world token identity ∧
          (site.respond freshId request world).2 =
            ((site.service.logout (request.arrival.withActor identity) (some token)).on
              middle).2) := by
  obtain ⟨outcome, middle, passed, passage⟩ := passage site.service request world
  cases passage with
  | anonymous bare =>
    refine ⟨world, rfl, rfl, fun _ => rfl, Or.inl ?_⟩
    rw [respond_of_admitted passed, place]
    by_cases allowed : Route.logout.allows request.method = true
    · rw [dispatch_logout allowed, run_logout_nobody]
    · rw [dispatch_of_not_allows allowed]
      rfl
  | refused bears refused checked =>
    refine ⟨middle, checked.sessions, checked.clock, checked.shown, Or.inl ?_⟩
    rw [respond_of_refused passed]
  | @admitted token identity _ bears accepted checked =>
    refine ⟨middle, checked.sessions, checked.clock, checked.shown, ?_⟩
    rw [respond_of_admitted passed, place]
    by_cases allowed : Route.logout.allows request.method = true
    · refine Or.inr ⟨token, identity, ⟨bears, by rw [accepted]⟩, ?_⟩
      rw [dispatch_logout allowed]
      exact run_logout_somebody _ _ _ _ _
    · rw [dispatch_of_not_allows allowed]
      exact Or.inl rfl

/-- **The gate lets only authorised identities through.**  Every request is handled as nobody's, or
as that of the identity for which one check accepts the presented credential, or not at all; a caller
is told who it is just as the check says; and a logout reaches the session of that identity and the
mark of that credential only. -/
theorem guards (site : Site) (freshId : String) (request : Request) (world : World) :
    site.Guards freshId request world where
  anonymous := handle_of_anonymous
  unauthenticated bare route place needs allowed :=
    ⟨_, respond_of_anonymous bare place needs allowed, status_finish,
      tellsCode_failure request route freshId (.rejected .unauthenticated), rfl, rfl⟩
  bearing _ := handle_of_bears
  refused _ _ := respond_of_unaccepted
  accepted _ _ := accepts_iff
  told place :=
    ⟨fun _ _ => accepts_of_respond_me place,
      fun allowed _ _ => respond_me_of_accepts place allowed⟩
  identified := identified_iff
  shown identity := ⟨rfl, ofBytes?_identityResponse identity⟩
  sessions place other := by
    obtain ⟨middle, same, -, -, left | ⟨token, identity, accepted, left⟩⟩ :=
      after_logout freshId world place
    · rw [left, same]
      exact Or.inl rfl
    · rw [left]
      rcases sessions_logout with kept | ⟨erasedFor, actor, erased⟩
      · rw [kept, same]
        exact Or.inl rfl
      · obtain rfl := Option.some.inj actor
        rw [erased, same, Store.Table.get?_erase]
        by_cases own : other = identity
        · subst own
          exact Or.inr ⟨if_pos rfl, token, accepted⟩
        · exact Or.inl (if_neg own)
  marks place rest := by
    obtain ⟨middle, -, clock, shown, left | ⟨token, identity, accepted, left⟩⟩ :=
      after_logout freshId world place
    · rw [left]
      exact Or.inl (shown _)
    · by_cases own : markKeyStart ++ rest = markKey token
      · exact Or.inr ⟨token, identity, accepted, own⟩
      · rw [left]
        refine Or.inl (Eq.trans ?_ (shown _))
        have spares (text : String) (given : some token = some text) :
            markKeyStart ++ rest ≠ markKey text := by
          obtain rfl := Option.some.inj given
          exact own
        rw [← clock]
        exact (keepsKey_logout spares).liveAt

end Site

end SignOn.Http
