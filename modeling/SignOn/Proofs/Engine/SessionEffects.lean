import SignOn.Proofs.Engine.Conduct
import SignOn.Proofs.Engine.Runs

/-!
# What calls do to the sessions

A call that hands out a pair stores its refresh value; a logout that its budget admits deletes the
session of its actor; every other call shows the same sessions after as before, and removes none
but lapsed ones.  `Call.effect` says this of every call in every world, and nothing beyond it is
needed to follow the sessions through a run.
-/

namespace SignOn.Engine

set_option autoImplicit false

open Operation

/-! ## Starting and rotating -/

namespace Service

variable {service : Service} {context : Context} {identity : UserId} {world : World}

/-- A pair has been issued, and its refresh value is what the session of its identity holds. -/
structure Stores (service : Service) (identity : UserId) (before after : World) (pair : TokenPair)
    (tokenId : String) (session : Session) : Prop where
  issues : service.Issues
  issued : pair.refreshToken =
    service.codec.encode (service.refreshClaims before.clock identity tokenId)
  paired : ∃ accessId, pair.accessToken = service.codec.encode (Codec.issuedClaims before.clock
    identity .access service.codec.accessLifetime accessId)
  value : session.refreshToken = pair.refreshToken
  lapse : session.expiresAt = service.codec.refreshLifetime.after before.clock
  owned : (∀ old, before.sessions.get? identity = some old → old.owner = identity) →
    session.owner = identity
  sessions : ∀ other, after.sessions.get? other =
    if other = identity then some session else before.sessions.get? other

/-- The sessions that a world shows are those of another, which has only lost lapsed ones. -/
def Keeps (before after : World) : Prop :=
  ∀ other, after.sessions.get? other = before.sessions.get? other ∨
    after.sessions.get? other = before.sessions.liveAt before.clock other

theorem keeps_of_eq {before after : World} (same : after.sessions = before.sessions) :
    Keeps before after :=
  fun other => Or.inl (by rw [same])

theorem Stores.of_eq {before after later : World} {pair : TokenPair} {tokenId : String}
    {session : Session} (stores : service.Stores identity before after pair tokenId session)
    (same : later.sessions = after.sessions) :
    service.Stores identity before later pair tokenId session :=
  { stores with sessions := fun other => by rw [same, stores.sessions] }

/-- What is stored from a world is stored from every earlier one that shows the same sessions. -/
theorem Stores.of_unchanged {before middle after : World} {pair : TokenPair} {tokenId : String}
    {session : Session} (stores : service.Stores identity middle after pair tokenId session)
    (same : ∀ other, middle.sessions.get? other = before.sessions.get? other)
    (clock : middle.clock = before.clock) :
    service.Stores identity before after pair tokenId session where
  issues := stores.issues
  issued := by rw [stores.issued, clock]
  paired := by rw [← clock]; exact stores.paired
  value := stores.value
  lapse := by rw [stores.lapse, clock]
  owned owned := stores.owned fun old found => owned old ((same identity).symm.trans found)
  sessions other := by rw [stores.sessions, same]

theorem routine_sparesSessions : Routine Action.SparesSessions :=
  ⟨trivial, trivial, fun _ => trivial, fun _ _ => trivial⟩

/-- Reading a session loses none but a lapsed one. -/
theorem keeps_read (identity : UserId) (world : World) :
    Keeps world { world with sessions := (world.sessions.read world.clock identity).2 } := by
  intro other
  rw [Store.Sessions.get?_read]
  by_cases same : other = identity
  · exact Or.inr (by rw [if_pos same, same])
  · exact Or.inl (if_neg same)

/-- Starting a session stores the refresh value of the pair it gives; without a pair it changes no
session. -/
theorem startSession_effect {outcome : Except CalendarEnd (Except Failure TokenPair)} {after : World}
    (ran : (service.startSession context identity).on world = (outcome, after)) :
    (∃ pair tokenId session, outcome = .ok (.ok pair) ∧
      service.Stores identity world after pair tokenId session) ∨
      (∀ pair, outcome ≠ .ok (.ok pair)) ∧ after.sessions = world.sessions := by
  rcases on_bind_cases ran with ⟨_, counted, enforced, ran⟩ | ⟨_, stopped, _, failed⟩
  · have sessions := sessions_of_on (only_enforce routine_sparesSessions) enforced
    have clock := clock_of_on enforced
    rcases on_bind_cases ran with ⟨pair, drawn, issued, ran⟩ | ⟨_, stopped, _, failed⟩
    · obtain ⟨issues, rfl, rfl⟩ := issuePair_ok issued
      rcases on_bind_cases ran with ⟨_, written, stored, ran⟩ | ⟨_, stopped, unwritten, failed⟩
      · rcases writeSession_cases stored with ⟨_, _, inserted⟩ | ⟨failed, _⟩
        · rw [on_pure] at ran
          obtain ⟨rfl, rfl⟩ := Prod.mk.inj ran
          refine Or.inl ⟨_, counted.tokenIds (counted.drawn + 1),
            ⟨identity, _, service.codec.refreshLifetime.after counted.clock⟩, rfl, issues, ?_, ?_,
            rfl, ?_, fun _ => rfl, ?_⟩
          · rw [pairIn, clock]
          · exact ⟨counted.tokenIds counted.drawn, by rw [pairIn, clock]⟩
          · rw [clock]
          · intro other
            rw [inserted, Store.Sessions.get?_insert, sessions]
        · exact absurd rfl (failed ())
      · rcases writeSession_cases stopped with ⟨_, done, _⟩ | ⟨_, rfl⟩
        · exact absurd done (unwritten ())
        · exact Or.inr ⟨failed, sessions⟩
    · have unissued := sessions_of_on (only_issuePair trivial trivial) stopped
      exact Or.inr ⟨failed, unissued.trans sessions⟩
  · exact Or.inr ⟨failed, sessions_of_on (only_enforce routine_sparesSessions) stopped⟩

/-- The second half of a rotation: issuing a pair and swapping its refresh value for the presented
one. -/
def swap (service : Service) (identity : UserId) (presented : String) : Operation TokenPair := do
  let pair ← service.issuePair identity
  let replaced ← Operation.call
    (.replaceSession identity presented pair.refreshToken service.codec.refreshLifetime)
  if replaced then return pair else Operation.reject .refreshMismatch

/-- How a rotation goes on with the session it finds. -/
def rotateFrom (service : Service) (identity : UserId) (presented : String) :
    Option Session → Operation TokenPair
  | none => Operation.reject .sessionNotFound
  | some session =>
      if session.refreshToken = presented then service.swap identity presented
      else Operation.reject .refreshMismatch

theorem rotate_eq (presented : String) :
    service.rotate context identity presented = (do
      service.enforce context .reissue identity
      let found ← Operation.call (.readSession identity)
      service.rotateFrom identity presented found) := by
  unfold rotate
  congr
  funext _
  congr
  funext found
  cases found <;> rfl

/-- Whatever session it finds, a rotation issues a pair and replaces the session at most. -/
theorem only_rotateFrom {allowed : Action → Prop} (clock : allowed .readClock)
    (identifiers : allowed .drawTokenId) {presented : String}
    (replaces : ∀ value, allowed (.store
      (.replaceSession identity presented value service.codec.refreshLifetime)))
    (found : Option Session) : (service.rotateFrom identity presented found).Only allowed := by
  unfold rotateFrom
  split
  · exact only_reject _
  · split
    · apply only_bind (only_issuePair clock identifiers)
      intro pair
      apply only_bind (only_call (replaces pair.refreshToken))
      intro replaced
      split
      · exact only_pure pair
      · exact only_reject _
    · exact only_reject _

/-- Swapping the value of a live session stores the refresh value of the pair it gives; without a
pair it changes no session. -/
theorem swap_effect {presented : String}
    {outcome : Except CalendarEnd (Except Failure TokenPair)} {after : World}
    (ran : (service.swap identity presented).on world = (outcome, after)) {held : Session}
    (live : world.sessions.liveAt world.clock identity = some held)
    (same : held.refreshToken = presented) :
    (∃ pair tokenId session, outcome = .ok (.ok pair) ∧
      service.Stores identity world after pair tokenId session) ∨
      (∀ pair, outcome ≠ .ok (.ok pair)) ∧ after.sessions = world.sessions := by
  rcases on_bind_cases ran with ⟨pair, drawn, issued, ran⟩ | ⟨_, stopped, _, failed⟩
  · obtain ⟨issues, rfl, rfl⟩ := issuePair_ok issued
    rcases on_bind_cases ran with ⟨_, written, stored, ran⟩ | ⟨_, stopped, unwritten, failed⟩
    · rcases replaceSession_cases stored live same with ⟨_, done, inserted⟩ | ⟨failed, _⟩
      · cases done
        obtain ⟨rfl, rfl⟩ := Prod.mk.inj ran
        refine Or.inl ⟨service.pairIn identity world, world.tokenIds (world.drawn + 1),
          { held with
            refreshToken := (service.pairIn identity world).refreshToken
            expiresAt := service.codec.refreshLifetime.after world.clock },
          rfl, issues, rfl, ⟨_, rfl⟩, rfl, rfl, ?_, ?_⟩
        · intro owned
          exact owned held (Store.Sessions.liveAt_eq_some_iff.1 live).1
        · intro other
          rw [inserted, Store.Sessions.get?_insert]
      · exact absurd rfl (failed _)
    · rcases replaceSession_cases stopped live same with ⟨_, done, _⟩ | ⟨_, rfl⟩
      · exact absurd done (unwritten true)
      · exact Or.inr ⟨failed, rfl⟩
  · exact Or.inr ⟨failed, sessions_of_on (only_issuePair trivial trivial) stopped⟩

/-- Rotating stores the refresh value of the pair it gives; without a pair it removes none but a
lapsed session. -/
theorem rotate_effect {presented : String}
    {outcome : Except CalendarEnd (Except Failure TokenPair)} {after : World}
    (ran : (service.rotate context identity presented).on world = (outcome, after)) :
    (∃ pair tokenId session, outcome = .ok (.ok pair) ∧
      service.Stores identity world after pair tokenId session) ∨
      (∀ pair, outcome ≠ .ok (.ok pair)) ∧ Keeps world after := by
  rw [rotate_eq] at ran
  rcases on_bind_cases ran with ⟨_, counted, enforced, ran⟩ | ⟨_, stopped, _, failed⟩
  · have sessions := sessions_of_on (only_enforce routine_sparesSessions) enforced
    have clock := clock_of_on enforced
    rw [on_bind_ok (on_readSession identity counted)] at ran
    have kept : Keeps world
        { counted with sessions := (counted.sessions.read counted.clock identity).2 } := by
      intro other
      rw [← sessions, ← clock]
      exact keeps_read identity counted other
    cases live : counted.sessions.liveAt counted.clock identity with
    | none =>
      rw [live] at ran
      obtain ⟨rfl, rfl⟩ := Prod.mk.inj ran
      exact Or.inr ⟨nofun, kept⟩
    | some held =>
      rw [live, rotateFrom] at ran
      split at ran
      · next same =>
        -- Reading a live session changes nothing.
        have unread : ∀ other, (counted.sessions.read counted.clock identity).2.get? other =
            world.sessions.get? other := by
          intro other
          rw [Store.Sessions.get?_read, sessions]
          by_cases here : other = identity
          · rw [if_pos here, here, ← sessions, live, (Store.Sessions.liveAt_eq_some_iff.1 live).1]
          · rw [if_neg here]
        rcases swap_effect ran
          ((Store.Sessions.liveAt_read).trans live) same with
          ⟨pair, tokenId, session, rfl, stores⟩ | ⟨failed, unchanged⟩
        · exact Or.inl ⟨pair, tokenId, session, rfl, stores.of_unchanged unread clock⟩
        · refine Or.inr ⟨failed, ?_⟩
          intro other
          rw [unchanged]
          exact kept other
      · obtain ⟨rfl, rfl⟩ := Prod.mk.inj ran
        exact Or.inr ⟨nofun, kept⟩
  · exact Or.inr ⟨failed,
      keeps_of_eq (sessions_of_on (only_enforce routine_sparesSessions) stopped)⟩

/-- Ending a session deletes that of the actor if the budget admits it, and otherwise none. -/
theorem endSession_effect {token : Option String}
    {outcome : Except CalendarEnd (Except Failure Unit)} {after : World}
    (ran : (service.endSession context token).on world = (outcome, after)) :
    (∃ identity, context.actor = some identity ∧ service.admits .logout identity world = true ∧
      after.sessions = world.sessions.erase identity) ∨
      (∀ identity, context.actor = some identity →
        service.admits .logout identity world = false) ∧ after.sessions = world.sessions := by
  unfold endSession at ran
  cases actor : context.actor with
  | none =>
    rw [actor] at ran
    obtain ⟨rfl, rfl⟩ := Prod.mk.inj ran
    exact Or.inr ⟨nofun, rfl⟩
  | some identity =>
    rw [actor] at ran
    cases admitted : service.admits .logout identity world with
    | true =>
      obtain ⟨counters, enforced⟩ := on_enforce_of_admits context admitted
      rw [on_bind_ok enforced, on_bind_ok (on_outcome_ok (on_deleteSession identity _))] at ran
      refine Or.inl ⟨identity, rfl, admitted, ?_⟩
      refine sessions_of_on (only_bind (only_outcome ?_) fun _ => ?_) ran
      · cases token with
        | none => exact only_pure ()
        | some text => exact only_revoke trivial fun _ => trivial
      · exact only_bind (only_ofOutcome _) fun _ => only_ofOutcome _
    | false =>
      have refused := on_enforce_of_not_admits context admitted
      refine Or.inr ⟨fun other same => Option.some.inj same ▸ admitted, ?_⟩
      rcases on_bind_cases ran with ⟨_, middle, enforced, _⟩ | ⟨_, stopped, _, _⟩
      · rw [enforced] at refused
        exact absurd rfl refused
      · exact sessions_of_on (only_enforce routine_sparesSessions) stopped

end Service

/-! ## Deeds -/

namespace Deed

/-- The identity to which a deed hands out a pair, with its refresh value. -/
def handedOut (service : Service) : Deed → Option (UserId × String)
  | ⟨.login _ identity, _, .ok (.ok pair)⟩ => some (identity, pair.refreshToken)
  | ⟨.providerLogin _ _, _, .ok (.ok (user, pair))⟩ => some (user.id, pair.refreshToken)
  | ⟨.reissue _ presented, before, .ok (.ok pair)⟩ =>
      match service.codec.verifyKind before.clock presented .refresh with
      | .ok claims => some (claims.userId, pair.refreshToken)
      | .error _ => none
  | _ => none

/-- A deed that fails hands out nothing. -/
theorem handedOut_of_failed {service : Service} {deed : Deed}
    (failed : ∀ answer, deed.outcome ≠ .ok (.ok answer)) : deed.handedOut service = none := by
  obtain ⟨call, before, outcome⟩ := deed
  rcases outcome with _ | _ | answer
  · cases call <;> rfl
  · cases call <;> rfl
  · exact absurd rfl (failed answer)

/-- The identity whose logout a deed is, if its budget admits it, so that the logout gets as far as
deleting the session. -/
def loggedOut (service : Service) (deed : Deed) : Option UserId :=
  match deed.call with
  | .logout context _ => context.actor.filter fun identity =>
      service.admits .logout identity deed.before
  | _ => none

/-- What a deed does to the sessions. -/
inductive Effect (service : Service) (deed : Deed) (after : World) : Prop where
  | stores {identity : UserId} {pair : TokenPair} {tokenId : String} {session : Session}
      (handed : deed.handedOut service = some (identity, pair.refreshToken))
      (stored : service.Stores identity deed.before after pair tokenId session)
  | deletes {identity : UserId} (handed : deed.handedOut service = none)
      (ended : deed.loggedOut service = some identity)
      (sessions : after.sessions = deed.before.sessions.erase identity)
  | keeps (handed : deed.handedOut service = none) (ended : deed.loggedOut service = none)
      (kept : Service.Keeps deed.before after)

end Deed

/-! ## The effect of a call -/

namespace Call

open Service

variable {service : Service} {context : Context} {world after : World}

theorem login_effect {identity : UserId} {outcome : Except CalendarEnd (Except Failure TokenPair)}
    (ran : (service.login context identity).on world = (outcome, after)) :
    (∃ pair tokenId session, outcome = .ok (.ok pair) ∧
      service.Stores identity world after pair tokenId session) ∨
      (∀ pair, outcome ≠ .ok (.ok pair)) ∧ after.sessions = world.sessions := by
  obtain ⟨events, observed⟩ : ∃ events, (service.login context identity).on world =
      (_, { ((service.startSession _ identity).on world).2 with events := events }) :=
    on_observe (service.startSession (context.withActor identity) identity)
  rw [observed] at ran
  obtain ⟨rfl, rfl⟩ := Prod.mk.inj ran
  rcases startSession_effect rfl with ⟨pair, tokenId, session, done, stores⟩ | failed
  · exact Or.inl ⟨pair, tokenId, session, done, stores.of_eq rfl⟩
  · exact Or.inr failed

theorem effect_login {identity : UserId} {outcome : Except CalendarEnd (Except Failure TokenPair)}
    (ran : (service.login context identity).on world = (outcome, after)) :
    Deed.Effect service ⟨.login context identity, world, outcome⟩ after := by
  rcases login_effect ran with ⟨pair, tokenId, session, rfl, stores⟩ | ⟨failed, same⟩
  · exact .stores rfl stores
  · exact .keeps (Deed.handedOut_of_failed failed) rfl (keeps_of_eq same)

/-- A login at a provider stores the refresh value of the pair that it gives to a user; without a
pair it changes no session. -/
theorem providerLogin_effect {callback : Callback}
    {outcome : Except CalendarEnd (Except Failure (User × TokenPair))}
    (ran : (service.providerLogin context callback).on world = (outcome, after)) :
    (∃ user pair tokenId session, outcome = .ok (.ok (user, pair)) ∧
      service.Stores user.id world after pair tokenId session) ∨
      (∀ value, outcome ≠ .ok (.ok value)) ∧ after.sessions = world.sessions := by
  have spares : (observeFailure .login context (resolve callback)).Only Action.SparesSessions :=
    only_observeFailure routine_sparesSessions.recording
      (only_resolve routine_sparesSessions (fun _ _ => trivial) fun _ => trivial)
  rcases on_bind_cases ran with ⟨user, middle, resolved, ran⟩ | ⟨_, stopped, _, failed⟩
  · have sessions := sessions_of_on spares resolved
    have clock := clock_of_on resolved
    rcases on_bind_cases ran with ⟨pair, last, started, ran⟩ | ⟨_, stopped, stopping, failed⟩
    · obtain ⟨rfl, rfl⟩ := Prod.mk.inj ran
      rcases login_effect started with ⟨_, tokenId, session, done, stores⟩ | ⟨failed, _⟩
      · cases done
        exact Or.inl ⟨user, pair, tokenId, session, rfl,
          stores.of_unchanged (fun _ => by rw [sessions]) clock⟩
      · exact absurd rfl (failed pair)
    · rcases login_effect stopped with ⟨pair, _, _, done, _⟩ | ⟨_, same⟩
      · exact absurd done (stopping pair)
      · exact Or.inr ⟨failed, same.trans sessions⟩
  · exact Or.inr ⟨failed, sessions_of_on spares stopped⟩

theorem effect_providerLogin {callback : Callback}
    {outcome : Except CalendarEnd (Except Failure (User × TokenPair))}
    (ran : (service.providerLogin context callback).on world = (outcome, after)) :
    Deed.Effect service ⟨.providerLogin context callback, world, outcome⟩ after := by
  rcases providerLogin_effect ran with ⟨user, pair, tokenId, session, rfl, stores⟩ | ⟨failed, same⟩
  · exact .stores rfl stores
  · exact .keeps (Deed.handedOut_of_failed failed) rfl (keeps_of_eq same)

/-- A reissue stores the refresh value of the pair that it gives, for the identity that the presented
text names; without a pair it removes none but a lapsed session. -/
theorem reissue_effect {presented : String}
    {outcome : Except CalendarEnd (Except Failure TokenPair)}
    (ran : (service.reissue context presented).on world = (outcome, after)) :
    (∃ claims pair tokenId session,
      service.codec.verifyKind world.clock presented .refresh = .ok claims ∧
      outcome = .ok (.ok pair) ∧
      service.Stores claims.userId world after pair tokenId session) ∨
      (∀ pair, outcome ≠ .ok (.ok pair)) ∧ Keeps world after := by
  cases verified : service.codec.verifyKind world.clock presented .refresh with
  | error rejection =>
    obtain ⟨event, rejected⟩ := on_reissue_unverified context verified
    rw [rejected] at ran
    obtain ⟨rfl, rfl⟩ := Prod.mk.inj ran
    exact Or.inr ⟨nofun, keeps_of_eq rfl⟩
  | ok claims =>
    obtain ⟨events, rotated⟩ := on_reissue_verified context verified
    rw [rotated] at ran
    cases turned : (service.rotate (context.withActor claims.userId) claims.userId
        (Text.trim presented)).on world with
    | mk result last =>
      rw [turned] at ran
      obtain ⟨rfl, rfl⟩ := Prod.mk.inj ran
      rcases rotate_effect turned with ⟨pair, tokenId, session, rfl, stores⟩ | ⟨failed, kept⟩
      · exact Or.inl ⟨claims, pair, tokenId, session, rfl, rfl, stores.of_eq rfl⟩
      · exact Or.inr ⟨failed, kept⟩

theorem effect_reissue {presented : String}
    {outcome : Except CalendarEnd (Except Failure TokenPair)}
    (ran : (service.reissue context presented).on world = (outcome, after)) :
    Deed.Effect service ⟨.reissue context presented, world, outcome⟩ after := by
  rcases reissue_effect ran with
    ⟨claims, pair, tokenId, session, verified, rfl, stores⟩ | ⟨failed, kept⟩
  · refine .stores ?_ stores
    simp only [Deed.handedOut, verified]
  · exact .keeps (Deed.handedOut_of_failed failed) rfl kept

theorem effect_logout {token : Option String} {outcome : Except CalendarEnd (Except Failure Unit)}
    (ran : (service.logout context token).on world = (outcome, after)) :
    Deed.Effect service ⟨.logout context token, world, outcome⟩ after := by
  obtain ⟨events, observed⟩ : ∃ events, (service.logout context token).on world =
      (_, { ((service.endSession context token).on world).2 with events := events }) :=
    on_observe (service.endSession context token)
  rw [observed] at ran
  obtain ⟨rfl, rfl⟩ := Prod.mk.inj ran
  rcases endSession_effect rfl with ⟨identity, actor, admitted, erased⟩ | ⟨refused, same⟩
  · refine .deletes rfl ?_ erased
    simp only [Deed.loggedOut, actor]
    simp [Option.filter, admitted]
  · refine .keeps rfl ?_ (keeps_of_eq same)
    rw [Deed.loggedOut, Option.filter_eq_none_iff]
    intro identity actor
    simp [refused identity actor]

theorem effect_authorize {token : String} {outcome : Except CalendarEnd (Except Failure UserId)}
    (ran : (service.authorize context token).on world = (outcome, after)) :
    Deed.Effect service ⟨.authorize context token, world, outcome⟩ after := by
  exact .keeps rfl rfl
    (keeps_of_eq (sessions_of_on (only_authorize routine_sparesSessions trivial) ran))

/-- What every call does to the sessions, in every world. -/
theorem effect (call : Call) (world : World) :
    (call.deed service world).Effect service (call.after service world) := by
  cases call with
  | login context identity => exact effect_login Prod.mk.eta.symm
  | providerLogin context callback => exact effect_providerLogin Prod.mk.eta.symm
  | reissue context presented => exact effect_reissue Prod.mk.eta.symm
  | logout context token => exact effect_logout Prod.mk.eta.symm
  | authorize context token => exact effect_authorize Prod.mk.eta.symm

end Call

end SignOn.Engine
