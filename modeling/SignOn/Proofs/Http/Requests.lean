import SignOn.Http.Site
import SignOn.Proofs.Engine.Access
import SignOn.Proofs.Json.RoundTrip

/-!
# Answering requests

What a request comes to in a world is its response and the world after it (`Site.respond`).  A
request passes the gate first, and what is known about the check of its bearer credential is known
about the gate: it always comes to an end, changes nothing but the store of counters and marks, where
it loses a lapsed mark at most, and publishes one event (`Service.checks_authorize`).

What leaves the site is the response of the gate or of a place, with at most two more fields.
-/

namespace SignOn

set_option autoImplicit false

/-! ## Access checks in memory -/

namespace Engine

open Operation

/-- What an access check with a text leaves of a world. -/
structure Checked (token : String) (before after : World) : Prop where
  sessions : after.sessions = before.sessions
  users : after.users = before.users
  clock : after.clock = before.clock
  /-- All that is shown of counters and marks is the same. -/
  shown : ∀ key, after.keyValue.liveAt before.clock key = before.keyValue.liveAt before.clock key
  /-- No entry is touched but the mark of the text. -/
  others : ∀ key, key ≠ markKey token → after.keyValue.get? key = before.keyValue.get? key
  /-- One event is published, and it is one of an access check. -/
  events : ∃ event : Audit.Event, event.operation = .accessCheck ∧
    after.events = before.events ++ [event]

namespace Service

variable {service : Service} {context : Context} {token : String} {world : World}

/-- Before its outcome is recorded, an access check looks for one mark at most. -/
theorem on_checkAccess (service : Service) (token : String) (world : World) :
    ∃ outcome after, (service.checkAccess token).on world = (.ok outcome, after) ∧
      (after = world ∨ after =
        { world with keyValue := (world.keyValue.isPresent world.clock (markKey token)).2 }) := by
  cases verified : service.codec.verifyKind world.clock token .access with
  | error rejection =>
    have failed : (service.verifyKind token .access).on world =
        (.ok (.error (.rejected rejection)), world) := by
      rw [on_verifyKind, verified]
      rfl
    exact ⟨_, _, on_bind_error failed, Or.inl rfl⟩
  | ok claims =>
    have read : (service.verifyKind token .access).on world = (.ok (.ok claims), world) := by
      rw [on_verifyKind, verified]
      rfl
    have asked : (isRevoked token).on world = _ := on_isMarked (markKey token) world
    rw [checkAccess, on_bind_ok read, on_bind_ok asked]
    split
    · exact ⟨_, _, rfl, Or.inr rfl⟩
    · exact ⟨_, _, rfl, Or.inr rfl⟩

/-- An access check always comes to an end, and leaves what it should of the world. -/
theorem checks_authorize (service : Service) (context : Context) (token : String) (world : World) :
    ∃ outcome after, (service.authorize context token).on world = (.ok outcome, after) ∧
      Checked token world after := by
  obtain ⟨outcome, checked, ran, left⟩ := on_checkAccess service token world
  have kept : checked.sessions = world.sessions ∧ checked.users = world.users ∧
      checked.clock = world.clock ∧ checked.events = world.events ∧
      (∀ key, checked.keyValue.liveAt world.clock key = world.keyValue.liveAt world.clock key) ∧
      ∀ key, key ≠ markKey token → checked.keyValue.get? key = world.keyValue.get? key := by
    rcases left with rfl | rfl
    · exact ⟨rfl, rfl, rfl, rfl, fun _ => rfl, fun _ _ => rfl⟩
    · refine ⟨rfl, rfl, rfl, rfl, fun _ => Store.KeyValue.liveAt_isPresent, ?_⟩
      intro key differs
      rw [Store.KeyValue.get?_isPresent, if_neg differs]
  obtain ⟨sessions, users, clock, events, shown, others⟩ := kept
  have records {recording : Operation Unit} {actor : Option UserId} {level : Audit.Level}
      {message : String} (same : recording = publishNow .accessCheck actor context level message) :
      ∃ event : Audit.Event, event.operation = .accessCheck ∧
        recording.on checked = (.ok (.ok ()), checked.record event) := by
    rw [same]
    exact ⟨_, rfl, rfl⟩
  have ends {recording : Operation Unit}
      (recorded : ∃ event : Audit.Event, event.operation = .accessCheck ∧
        recording.on checked = (.ok (.ok ()), checked.record event)) :
      ∃ after, (recording >>= fun _ => ofOutcome outcome).on checked = (.ok outcome, after) ∧
        Checked token world after := by
    obtain ⟨event, kind, recorded⟩ := recorded
    refine ⟨_, on_bind_ok recorded, sessions, users, clock, shown, others, event, kind, ?_⟩
    rw [World.record, events]
  rw [authorize, on_bind_ok (on_outcome_ok ran)]
  cases outcome with
  | ok identity => exact ⟨_, ends ⟨_, rfl, rfl⟩⟩
  | error failure =>
    refine ⟨_, ends ?_⟩
    unfold recordFailure
    split
    · exact records rfl
    · exact records rfl

end Service

end Engine

namespace Http

open Engine (Context Operation Program World CalendarEnd)
open Engine.Operation (on on_bind_ok on_bind_error on_pure)

/-! ## Running requests -/

/-- What a request asks for. -/
abbrev Request.route (request : Request) : Option Route := Route.ofPath? request.location.1

/-- What a request comes to in a world. -/
def Site.respond (site : Site) (freshId : String) (request : Request) (world : World) :
    Except CalendarEnd Response × World :=
  (site.handle freshId request).run World.perform world

section Running

variable {site : Site} {freshId : String} {request : Request} {world after last : World}
  {response : Response}

/-- A request that does not pass the gate is answered with the failure. -/
theorem Site.respond_of_refused {failure : Failure}
    (refused : (passGate site.service request).on world = (.ok (.error failure), after)) :
    site.respond freshId request world =
      (.ok (Site.finish request request.route freshId (Response.failure failure)), after) := by
  rw [on] at refused
  rw [Site.respond, Site.handle, Engine.Program.run_bind, refused]
  rfl

/-- A request that passes the gate is answered by the place that it asks for. -/
theorem Site.respond_of_admitted {caller : Caller}
    (admitted : (passGate site.service request).on world = (.ok (.ok caller), after)) :
    site.respond freshId request world =
      (((site.dispatch caller request request.route).run World.perform after).1.map
          (Site.finish request request.route freshId),
        ((site.dispatch caller request request.route).run World.perform after).2) := by
  rw [on] at admitted
  rw [Site.respond, Site.handle, Engine.Program.run_bind, admitted]
  dsimp only
  rw [Engine.Program.run_bind]
  cases (site.dispatch caller request request.route).run World.perform after with
  | mk result last => cases result <;> rfl

/-- The answer of an operation, by what it comes to. -/
theorem run_answer (operation : Operation Response) (world : World) :
    (answer operation).run World.perform world =
      ((operation.on world).1.map fun outcome =>
          match outcome with
          | .ok response => response
          | .error failure => Response.failure failure,
        (operation.on world).2) := by
  rw [answer, Engine.Program.run_bind, on]
  cases operation.run.run World.perform world with
  | mk result after =>
    cases result with
    | error calendarEnd => rfl
    | ok outcome => cases outcome <;> rfl

/-- The answer of an operation whose success is told in a response. -/
theorem run_answer_told {α : Type} (operation : Operation α) (told : α → Response) (world : World) :
    (answer (do return told (← operation))).run World.perform world =
      ((operation.on world).1.map fun outcome =>
          match outcome with
          | .ok value => told value
          | .error failure => Response.failure failure,
        (operation.on world).2) := by
  rw [run_answer, Engine.Operation.on_bind]
  cases operation.on world with
  | mk result after =>
    cases result with
    | error calendarEnd => rfl
    | ok outcome => cases outcome <;> rfl

end Running

/-! ## Places -/

namespace Site

variable {site : Site} {caller : Caller} {request : Request}

theorem dispatch_reissue (allowed : Route.reissue.allows request.method = true) :
    site.dispatch caller request (some .reissue) = site.reissue caller request := if_pos allowed

theorem dispatch_logout (allowed : Route.logout.allows request.method = true) :
    site.dispatch caller request (some .logout) = site.logout caller := if_pos allowed

theorem dispatch_me (allowed : Route.me.allows request.method = true) :
    site.dispatch caller request (some .me) = me caller := if_pos allowed

theorem dispatch_callback {tag : List Char}
    (allowed : (Route.callback tag).allows request.method = true) :
    site.dispatch caller request (some (.callback tag)) =
      site.callback caller tag request.location.2 := if_pos allowed

/-- No place answers to a method that it does not allow. -/
theorem dispatch_of_not_allows {route : Route} (refused : ¬ route.allows request.method = true) :
    site.dispatch caller request (some route) = return Response.bare 405 := if_neg refused

end Site

/-- What a caller is told about itself. -/
def identityResponse (identity : UserId) : Response :=
  Response.success
    (.object [("email", .string identity.email), ("provider", .string identity.provider.name)])

section Places

variable (site : Site) (context : Context) (identity : UserId) (token : String) (world : World)

/-- Nobody is told who it is. -/
theorem run_me_nobody : (Site.me ⟨context, none⟩).run World.perform world =
    (.ok (Response.failure (.rejected .unauthenticated)), world) := rfl

theorem run_me_somebody :
    (Site.me ⟨context, some (identity, token)⟩).run World.perform world =
      (.ok (identityResponse identity), world) := rfl

/-- Nobody is logged out. -/
theorem run_logout_nobody : (site.logout ⟨context, none⟩).run World.perform world =
    (.ok (Response.failure (.rejected .unauthenticated)), world) := rfl

/-- A caller is logged out with the credential that it presented. -/
theorem run_logout_somebody :
    ((site.logout ⟨context, some (identity, token)⟩).run World.perform world).2 =
      ((site.service.logout context (some token)).on world).2 :=
  congrArg Prod.snd (run_answer_told (site.service.logout context (some token)) (fun _ =>
    (Response.success .null).withCookie (clearCookieText site.server.cookie)) world)

end Places

/-! ## The gate -/

namespace Request

/-- The request presents a bearer credential: its first authorization field is readable and says so.
Blanks around the credential do not count. -/
def Bears (request : Request) (token : String) : Prop :=
  ∃ rest, request.first? "authorization" = some ("Bearer " ++ rest) ∧
    isReadable ("Bearer " ++ rest) = true ∧ token = Text.trim rest

/-- The request presents no bearer credential: its first authorization field is absent, not readable
or of another scheme. -/
def IsAnonymous (request : Request) : Prop :=
  ∀ value, request.first? "authorization" = some value →
    isReadable value = false ∨ ∀ rest, value ≠ "Bearer " ++ rest

variable {request : Request}

theorem bearer?_eq_some_iff {token : String} :
    bearer? request = some token ↔ request.Bears token := by
  constructor
  · intro found
    obtain ⟨value, readable, scheme⟩ := Option.bind_eq_some_iff.1 found
    obtain ⟨first, legible⟩ := Option.filter_eq_some_iff.1 readable
    split at scheme
    · next starts =>
      obtain ⟨rest, split⟩ := List.isPrefixOf_iff_prefix.1 starts
      have same : value = "Bearer " ++ String.ofList rest := by
        apply String.toList_injective
        rw [String.toList_append, ← split]
        exact congrArg _ String.toList_ofList.symm
      subst same
      refine ⟨String.ofList rest, first, legible, ?_⟩
      rw [← Option.some.inj scheme, ← split, List.drop_left]
    · cases scheme
  · rintro ⟨rest, first, legible, rfl⟩
    have starts : bearerStart.isPrefixOf ("Bearer " ++ rest).toList = true := by
      rw [List.isPrefixOf_iff_prefix, String.toList_append]
      exact List.prefix_append _ _
    have dropped : ("Bearer " ++ rest).toList.drop bearerStart.length = rest.toList := by
      rw [String.toList_append]
      exact List.drop_left
    rw [bearer?, readable?, first, Option.filter_some, if_pos legible, Option.bind_some,
      if_pos starts, dropped, String.ofList_toList]

theorem bearer?_eq_none_iff : bearer? request = none ↔ request.IsAnonymous := by
  rw [Option.eq_none_iff_forall_ne_some]
  constructor
  · intro none value first
    by_cases legible : isReadable value = true
    · refine Or.inr ?_
      rintro rest rfl
      exact none _ (bearer?_eq_some_iff.2 ⟨rest, first, legible, rfl⟩)
    · exact Or.inl (Bool.eq_false_iff.2 legible)
  · intro anonymous token found
    obtain ⟨rest, first, legible, _⟩ := bearer?_eq_some_iff.1 found
    rcases anonymous _ first with illegible | other
    · rw [legible] at illegible
      cases illegible
    · exact other rest rfl

/-- The context in which the gate checks the credential of a request. -/
def arrival (request : Request) : Context := ⟨none, clientOrigin request⟩

end Request

section Gate

variable {service : Engine.Service} {request : Request} {world after : World} {token : String}

theorem on_passGate_anonymous (anonymous : request.IsAnonymous) :
    (passGate service request).on world = (.ok (.ok ⟨request.arrival, none⟩), world) := by
  rw [passGate, Request.bearer?_eq_none_iff.2 anonymous]
  rfl

theorem on_passGate_refused (bears : request.Bears token) {failure : Failure}
    (refused : (service.authorize request.arrival token).on world = (.ok (.error failure), after)) :
    (passGate service request).on world = (.ok (.error failure), after) := by
  rw [passGate, Request.bearer?_eq_some_iff.2 bears]
  exact on_bind_error refused

theorem on_passGate_admitted (bears : request.Bears token) {identity : UserId}
    (admitted : (service.authorize request.arrival token).on world = (.ok (.ok identity), after)) :
    (passGate service request).on world =
      (.ok (.ok ⟨request.arrival.withActor identity, some (identity, token)⟩), after) := by
  rw [passGate, Request.bearer?_eq_some_iff.2 bears]
  exact (on_bind_ok admitted).trans (on_pure _ _)

/-- How a request passes the gate in a world, or does not, and which world the gate leaves. -/
inductive Passage (service : Engine.Service) (request : Request) (world : World) :
    Except Failure Caller → World → Prop
  /-- It passes as nobody's. -/
  | anonymous (bare : request.IsAnonymous) :
      Passage service request world (.ok ⟨request.arrival, none⟩) world
  /-- The check turns its credential down. -/
  | refused {token : String} {failure : Failure} {after : World} (bears : request.Bears token)
      (refused : (service.authorize request.arrival token).on world = (.ok (.error failure), after))
      (checked : Engine.Checked token world after) :
      Passage service request world (.error failure) after
  /-- It passes as that of the identity for which the check accepts its credential. -/
  | admitted {token : String} {identity : UserId} {after : World} (bears : request.Bears token)
      (accepted : (service.authorize request.arrival token).on world = (.ok (.ok identity), after))
      (checked : Engine.Checked token world after) :
      Passage service request world
        (.ok ⟨request.arrival.withActor identity, some (identity, token)⟩) after

/-- The gate leaves the sessions and the clock alone. -/
theorem Passage.same {outcome : Except Failure Caller}
    (passage : Passage service request world outcome after) :
    after.sessions = world.sessions ∧ after.clock = world.clock := by
  cases passage with
  | anonymous bare => exact ⟨rfl, rfl⟩
  | refused bears refused checked => exact ⟨checked.sessions, checked.clock⟩
  | admitted bears accepted checked => exact ⟨checked.sessions, checked.clock⟩

/-- The gate always comes to an end. -/
theorem passage (service : Engine.Service) (request : Request) (world : World) :
    ∃ outcome after, (passGate service request).on world = (.ok outcome, after) ∧
      Passage service request world outcome after := by
  cases found : bearer? request with
  | none =>
    have bare := Request.bearer?_eq_none_iff.1 found
    exact ⟨_, _, on_passGate_anonymous bare, .anonymous bare⟩
  | some token =>
    have bears := Request.bearer?_eq_some_iff.1 found
    obtain ⟨outcome, after, ran, checked⟩ :=
      service.checks_authorize request.arrival token world
    cases outcome with
    | error failure => exact ⟨_, _, on_passGate_refused bears ran, .refused bears ran checked⟩
    | ok identity => exact ⟨_, _, on_passGate_admitted bears ran, .admitted bears ran checked⟩

end Gate

/-! ## Responses as they leave the site -/

section Finish

variable {request : Request} {route : Option Route} {freshId : String} {response : Response}

theorem valuesOf_withHeader_self (name value : String) :
    (response.withHeader name value).valuesOf name = response.valuesOf name ++ [value] := by
  simp [Response.valuesOf, Response.withHeader]

theorem valuesOf_withHeader_of_ne {name other : String} (differs : other ≠ name) (value : String) :
    (response.withHeader name value).valuesOf other = response.valuesOf other := by
  simp [Response.valuesOf, Response.withHeader, Ne.symm differs]

theorem status_finish : (Site.finish request route freshId response).status = response.status := by
  have trimmed (response : Response) :
      (if request.method = "HEAD" then { response with body := "" } else response).status =
        response.status := by
    split <;> rfl
  unfold Site.finish
  refine (trimmed _).trans ?_
  split
  · split <;> rfl
  · rfl

theorem body_finish (whole : request.method ≠ "HEAD") :
    (Site.finish request route freshId response).body = response.body := by
  unfold Site.finish
  dsimp only
  rw [if_neg whole]
  split
  · split <;> rfl
  · rfl

/-- Asking for the header fields alone leaves the body out. -/
theorem body_finish_of_head (head : request.method = "HEAD") :
    (Site.finish request route freshId response).body = "" := by
  unfold Site.finish
  dsimp only
  rw [if_pos head]
  rfl

/-- A response without a body gets none. -/
theorem body_finish_of_empty (empty : response.body = "") :
    (Site.finish request route freshId response).body = "" := by
  by_cases head : request.method = "HEAD"
  · exact body_finish_of_head head
  · rw [body_finish head, empty]

/-- Fields that the site adds to no response are those of the response. -/
theorem valuesOf_finish {name : String} (notAllow : name ≠ "allow")
    (notId : name ≠ "x-request-id") :
    (Site.finish request route freshId response).valuesOf name = response.valuesOf name := by
  unfold Site.finish
  dsimp only
  rw [valuesOf_withHeader_of_ne notId]
  have trimmed (response : Response) :
      (if request.method = "HEAD" then { response with body := "" } else response).valuesOf name =
        response.valuesOf name := by
    split <;> rfl
  rw [trimmed]
  split
  · split
    · rfl
    · exact valuesOf_withHeader_of_ne notAllow _
  · rfl

end Finish

/-! ## Bodies -/

/-- What the body of a success denotes. -/
theorem ofBytes?_success {data : Json} (plain : Json.IsPlain data) :
    Json.ofBytes? (Text.utf8 (Response.success data).body) =
      some (.object [("success", .boolean true), ("data", data)]) := by
  have envelope : Json.IsPlain (.object [("success", .boolean true), ("data", data)]) :=
    ⟨trivial, plain, trivial⟩
  exact Json.ofBytes?_text envelope

/-- A response tells a public code: by its status, and in a body that is left out where only the
header fields are asked for. -/
structure TellsCode (request : Request) (code : PublicCode) (response : Response) : Prop where
  status : response.status = code.status
  type : response.valuesOf "content-type" = ["application/json"]
  body : request.method ≠ "HEAD" → Json.ofBytes? (Text.utf8 response.body) =
    some (.object
      [("success", .boolean false),
       ("error", .object [("code", .string code.code), ("message", .string code.message)])])
  bare : request.method = "HEAD" → response.body = ""

/-- The answer to a failure tells its public code. -/
theorem tellsCode_failure (request : Request) (route : Option Route) (freshId : String)
    (failure : Failure) :
    TellsCode request failure.publicCode
      (Site.finish request route freshId (Response.failure failure)) where
  status := status_finish
  type := valuesOf_finish (by decide) (by decide)
  body whole := by
    rw [body_finish whole]
    apply Json.ofBytes?_text
    simp only [Json.IsPlain, Json.HavePlain, and_self]
  bare := body_finish_of_head

theorem status_failure (failure : Failure) : (Response.failure failure).status ≠ 200 := by
  rcases failure with reason | _ | _ | _ | _
  · cases reason <;> exact nofun
  all_goals exact nofun

end Http

end SignOn
