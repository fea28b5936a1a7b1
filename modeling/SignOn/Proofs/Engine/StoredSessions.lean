import SignOn.Proofs.Engine.Endings
import SignOn.Proofs.Engine.History
import SignOn.Proofs.Engine.Rotation

/-!
# Sessions and the values they hold

A session ends a lifetime after the instant at which it was written; the refresh value that it holds
expires with a whole second, counted from the last whole second before it was issued.  Settings give
lifetimes in whole seconds, and a session that would end outside the calendar is never stored.  So
the value of a session expires with the last whole second that is not after the end of the session
(`Holds.exists_agrees`).

A value that still verifies is therefore held by a session that has not ended, and the value of a
session that has ended never verifies again (`Run.sessions_agree`).
-/

namespace SignOn.Engine

set_option autoImplicit false

open Operation Service

/-! ## When stored sessions end -/

/-- A session that is found in a store was found there before, or has been written since and ends
within the calendar. -/
def WrittenSince (since : Instant) (before after : Store.Sessions) : Prop :=
  ∀ identity session, after.get? identity = some session →
    before.get? identity = some session ∨
      since ≤ session.expiresAt ∧ session.expiresAt.isRepresentable = true

namespace WrittenSince

variable {now : Instant} {store : Store.Sessions} {owner : UserId}

theorem insert {new : Session} {lifetime : Duration}
    (fits : Store.expiry now lifetime = .ok new.expiresAt) :
    WrittenSince now store (store.insert owner new) := by
  intro identity session found
  rw [Store.Sessions.get?_insert] at found
  split_ifs at found
  · obtain rfl := Option.some.inj found
    obtain ⟨ends, within⟩ := Store.expiry_eq_ok fits
    rw [ends]
    exact Or.inr ⟨Instant.le_after _ _, within⟩
  · exact Or.inl found

theorem erase : WrittenSince now store (store.erase owner) := by
  intro identity session found
  rw [Store.Table.get?_erase] at found
  split_ifs at found
  exact Or.inl found

theorem write {value : String} {lifetime : Duration} {after : Store.Sessions}
    (written : store.write now owner value lifetime = .ok after) :
    WrittenSince now store after := by
  unfold Store.Sessions.write at written
  split at written
  · next fits =>
    obtain rfl := Except.ok.inj written
    exact insert fits
  · cases written

theorem replace {expected value : String} {lifetime : Duration} {replaced : Bool}
    {after : Store.Sessions}
    (answered : store.replace now owner expected value lifetime = .ok (replaced, after)) :
    WrittenSince now store after := by
  unfold Store.Sessions.replace at answered
  split at answered
  · cases answered
  · next fits =>
    split at answered
    · cases answered
      exact fun _ _ => Or.inl
    · split_ifs at answered
      · cases answered
        exact erase
      · cases answered
        exact insert fits
      · cases answered
        exact fun _ _ => Or.inl

theorem trans {first second third : Store.Sessions} (here : WrittenSince now first second)
    (there : WrittenSince now second third) : WrittenSince now first third := by
  intro identity session found
  rcases there identity session found with earlier | written
  · exact here identity session earlier
  · exact Or.inr written

theorem of_keeps {before after : World} (kept : Keeps before after) :
    WrittenSince now before.sessions after.sessions := by
  intro identity session found
  rcases kept identity with same | same
  · exact Or.inl (same.symm.trans found)
  · exact Or.inl (Store.Sessions.liveAt_eq_some_iff.1 (same.symm.trans found)).1

end WrittenSince

/-- No action puts a session in the store that ends outside the calendar or before now. -/
theorem World.writtenSince_perform (world : World) (action : Action) :
    WrittenSince world.clock world.sessions (world.perform action).2.sessions := by
  by_cases spares : action.SparesSessions
  · exact .of_keeps (keeps_of_eq (perform_sessions spares world))
  cases action with
  | readClock | drawTokenId | publish event | askProvider provider code =>
    exact absurd trivial spares
  | store call =>
    cases call with
    | readSession owner => exact .of_keeps (keeps_read owner world)
    | deleteSession owner => exact .erase
    | writeSession owner value lifetime =>
      rw [perform, performCall]
      cases written : world.sessions.write world.clock owner value lifetime with
      | error fault => exact fun _ _ => Or.inl
      | ok store => exact .write written
    | replaceSession owner expected value lifetime =>
      rw [perform, performCall]
      cases answered : world.sessions.replace world.clock owner expected value lifetime with
      | error fault => exact fun _ _ => Or.inl
      | ok result => exact .replace answered
    | _ => exact absurd trivial spares

theorem Operation.writtenSince_on {α : Type} (operation : Operation α) (world : World) :
    WrittenSince world.clock world.sessions (operation.on world).2.sessions := by
  have everything : operation.Only fun _ => True := only_of_forall (fun _ => trivial) operation
  refine (Program.run_related (fun before after => after.clock = before.clock ∧
    WrittenSince before.clock before.sessions after.sessions) ?_ ?_ ?_ everything world).2
  · exact fun _ => ⟨rfl, fun _ _ => Or.inl⟩
  · rintro first second third ⟨clock, here⟩ ⟨later, there⟩
    rw [clock] at there
    exact ⟨later.trans clock, here.trans there⟩
  · exact fun action world _ => ⟨world.perform_clock action, world.writtenSince_perform action⟩

section Runs

variable {service : Service} {past : List Deed} {world : World} {identity : UserId}
  {session : Session}

/-- Where every call was made at or after some instant, no session ends before it, and none ends
outside the calendar. -/
theorem Run.ends_since {start : Instant} (run : Run service past world)
    (since : ∀ deed ∈ past, start ≤ deed.before.clock)
    (found : world.sessions.get? identity = some session) :
    start ≤ session.expiresAt ∧ session.expiresAt.isRepresentable = true := by
  induction run generalizing identity session with
  | fresh fresh =>
    rw [fresh.sessions, Store.Table.get?_empty] at found
    cases found
  | @call past world run call ih =>
    have here : start ≤ world.clock := since _ List.mem_cons_self
    have earlier : ∀ deed ∈ past, start ≤ deed.before.clock :=
      fun deed member => since deed (List.mem_cons_of_mem _ member)
    rcases (call.operation service).writtenSince_on world identity session found with
      before | ⟨late, within⟩
    · exact ih earlier before
    · exact ⟨Int.le_trans here late, within⟩
  | @sweep past world run ih =>
    have live : world.sessions.liveAt world.clock identity = some session :=
      Store.Sessions.get?_purge.symm.trans found
    exact ih since (Store.Sessions.liveAt_eq_some_iff.1 live).1
  | wait run ordered within ih => exact ih since found

end Runs

/-! ## Sessions and their values -/

/-- A session agrees with the claims of the value that it holds: they are those of a refresh
credential of its identity, which expires with the last whole second that is not after the end of
the session. -/
structure Service.Agrees (service : Service) (identity : UserId) (session : Session)
    (claims : Claims) : Prop where
  owner : session.owner = identity
  carries : service.codec.Carries session.refreshToken claims
  kind : claims.kind = .refresh
  names : claims.userId = identity
  starts : Instant.ofSeconds claims.expiresAt ≤ session.expiresAt
  ends : session.expiresAt < Instant.ofSeconds (claims.expiresAt + 1)

/-- Settings give lifetimes in whole seconds. -/
theorem Service.refreshLifetime_of_create {settings : Settings.Auth} {service : Service}
    (created : Service.create settings = .ok service) :
    service.codec.refreshLifetime = Duration.ofSeconds settings.refreshSeconds := by
  unfold create Codec.create at created
  split_ifs at created
  · cases created
    rfl
  · cases created

section Agreement

variable {service : Service} {past : List Deed} {world : World} {identity : UserId}

/-- The claims of a refresh credential expire with the last whole second of its lifetime, if that
ends within the calendar. -/
theorem Service.expiresAt_refreshClaims (identity : UserId) {seconds : Nat}
    (whole : service.codec.refreshLifetime = Duration.ofSeconds seconds) {issuedAt : Instant}
    (within : (service.codec.refreshLifetime.after issuedAt).isRepresentable = true)
    (tokenId : String) :
    (service.refreshClaims issuedAt identity tokenId).expiresAt =
      (service.codec.refreshLifetime.after issuedAt).seconds := by
  have last := (Instant.isRepresentable_iff.1 within).2
  rw [whole, Instant.seconds_after_ofSeconds] at last ⊢
  rw [refreshClaims, Codec.expiresAt_issuedClaims, whole, Duration.seconds_ofSeconds]
  rw [whole, Duration.seconds_ofSeconds]
  exact last.trans (by decide)

/-- What the store holds for an identity was issued to it, for as long as the session lasts. -/
theorem Holds.exists_issued {value : Option String} (holds : Holds service identity world value)
    {session : Session} (found : world.sessions.get? identity = some session) :
    session.owner = identity ∧ ∃ issuedAt tokenId, issuedAt.isRepresentable = true ∧
      session.refreshToken =
        service.codec.encode (service.refreshClaims issuedAt identity tokenId) ∧
      session.expiresAt = service.codec.refreshLifetime.after issuedAt := by
  cases holds with
  | nothing absent =>
    rw [absent] at found
    cases found
  | value _ within issued lapse owned held =>
    rcases held with here | ⟨absent, _⟩
    · obtain rfl := Option.some.inj (here.symm.trans found)
      exact ⟨owned, _, _, within, issued, lapse⟩
    · rw [absent] at found
      cases found

/-- A session that ends after the start of 1970 and within the calendar agrees with the claims of its
value. -/
theorem Holds.exists_agrees {value : Option String} (holds : Holds service identity world value)
    {session : Session} (found : world.sessions.get? identity = some session) {seconds : Nat}
    (whole : service.codec.refreshLifetime = Duration.ofSeconds seconds)
    (natural : Instant.ofSeconds 0 ≤ session.expiresAt)
    (within : session.expiresAt.isRepresentable = true) :
    ∃ claims, service.Agrees identity session claims := by
  obtain ⟨owned, issuedAt, tokenId, early, issued, lapse⟩ := holds.exists_issued found
  rw [lapse] at within natural
  have expires := expiresAt_refreshClaims identity whole within tokenId
  have positive : 0 ≤ (service.refreshClaims issuedAt identity tokenId).expiresAt := by
    rw [expires]
    exact Instant.seconds_le_seconds natural
  refine ⟨service.refreshClaims issuedAt identity tokenId, owned, ?_, rfl, rfl, ?_, ?_⟩
  · rw [issued]
    exact (Codec.carries_encode _ (inRange_refreshClaims early)).2 ⟨rfl, positive⟩
  · rw [expires, lapse]
    exact Instant.ofSeconds_seconds_le _
  · rw [expires, lapse]
    exact Instant.lt_ofSeconds_succ_seconds _

/-- The value of a session that has ended never verifies. -/
theorem Service.Agrees.expired {session : Session} {claims : Claims}
    (agrees : service.Agrees identity session claims) {now : Instant}
    (ended : session.isExpiredAt now = true) :
    service.codec.verify now session.refreshToken = .error .expiredCredential := by
  apply Codec.verify_of_carries agrees.carries
  have past : Instant.ofSeconds claims.expiresAt ≤ now :=
    Int.le_trans agrees.starts (of_decide_eq_true ended)
  exact Int.not_lt.1 fun early => Instant.not_lt.2 past (Instant.seconds_lt_iff.1 early)

/-- What verifies as the value of a session names the identity of the session. -/
theorem Holds.names {value : Option String} (holds : Holds service identity world value)
    {session : Session} (found : world.sessions.get? identity = some session) {now : Instant}
    {claims : Claims}
    (verified : service.codec.verifyKind now session.refreshToken .refresh = .ok claims) :
    claims.userId = identity := by
  obtain ⟨_, issuedAt, tokenId, early, issued, _⟩ := holds.exists_issued found
  obtain ⟨accepted, _⟩ := Codec.verifyKind_eq_ok_iff.1 verified
  rw [issued, Codec.verify_encode _ (inRange_refreshClaims early)] at accepted
  rw [accepted.1]
  rfl

end Agreement

/-- Where calls are made side by side and time passes during them, the session may end later than
its value expires, but not before. -/
theorem Crowd.Reached.unverified_of_ended {ι : Type} [DecidableEq ι] {calls : ι → Call}
    {service : Service} {crowd : Crowd calls} (reached : Crowd.Reached service calls crowd)
    {identity : UserId} {session : Session}
    (found : crowd.world.sessions.get? identity = some session) {now : Instant}
    (ended : session.isExpiredAt now = true) (claims : Claims) :
    service.codec.verifyKind now session.refreshToken .refresh ≠ .ok claims := by
  intro verified
  obtain ⟨_, before⟩ := (reached.sound.accounts identity session found).of_verified verified
  exact Instant.not_lt.2 (of_decide_eq_true ended) before

/-! ## Sessions that are found -/

/-- An operation that ends as its goal says does so in every world. -/
theorem Operation.of_ends_of_on {α : Type} {goal : Except Failure α → Prop} {operation : Operation α}
    (past : List Moment) (ends : operation.Ends (fun _ => goal) past) {world after : World}
    {outcome : Except Failure α} (ran : operation.on world = (.ok outcome, after)) :
    goal outcome := by
  rw [Ends, Meets] at ends
  rw [Operation.on] at ran
  generalize operation.run = program at ends ran
  induction program generalizing past world with
  | done value =>
    obtain rfl := Except.ok.inj (Prod.mk.inj ran).1
    exact ends
  | perform action next ih =>
    rw [Program.run] at ran
    cases acted : world.perform action with
    | mk result middle =>
      rw [acted] at ran
      cases result with
      | error calendarEnd => cases ran
      | ok result => exact ih result _ (ends.2 result) ran

section Finding

variable {service : Service} {world : World} {identity : UserId} {presented : String}

theorem Service.swap_finds {past : List Moment} :
    (service.swap identity presented).Ends
      (fun _ outcome => outcome ≠ .error (.rejected .sessionNotFound)) past := by
  rw [swap, Ends, meets_bind]
  refine Ends.mono issuePair_issues ?_
  rintro past _ (⟨pair, rfl, _⟩ | ⟨message, rfl, _⟩)
  · dsimp only
    rw [meets_bind]
    refine ends_call.2 fun reply => ?_
    cases reply with
    | answered replaced => cases replaced <;> rintro ⟨⟩
    | failed error => rintro ⟨⟩
    | timedOut => rintro ⟨⟩
  · rintro ⟨⟩

/-- A rotation does not miss a session that has not ended. -/
theorem Service.on_rotate_ne_sessionNotFound (context : Context) {session : Session}
    (live : world.sessions.liveAt world.clock identity = some session) :
    ((service.rotate context identity presented).on world).1 ≠
      .ok (.error (.rejected .sessionNotFound)) := by
  intro missed
  rw [rotate_eq] at missed
  cases enforced : (service.enforce context .reissue identity).on world with
  | mk result counted =>
    cases result with
    | error calendarEnd =>
      rw [on_bind_broken enforced] at missed
      cases missed
    | ok outcome =>
      cases outcome with
      | error failure =>
        rw [on_bind_error enforced] at missed
        obtain rfl := Except.error.inj (Except.ok.inj missed)
        exact of_ends_of_on [] enforce_hindered enforced _ rfl
      | ok value =>
        have sessions := sessions_of_on (only_enforce routine_sparesSessions) enforced
        have clock := clock_of_on enforced
        rw [on_bind_ok enforced, on_bind_ok (on_readSession identity counted), sessions, clock, live,
          rotateFrom] at missed
        split_ifs at missed
        · exact of_ends_of_on [] swap_finds (on_eq_of_fst missed) rfl
        · cases missed

end Finding

/-! ## Sessions agree with their values -/

/-- Settings of the small service. -/
def Sample.settings : Settings.Auth where
  signingSecret := String.ofList (List.replicate 32 '\x00')
  accessSeconds := 1800
  refreshSeconds := 1209600
  storeTimeoutMilliseconds := 2000
  rateLimits := .standard

theorem Sample.create_settings : Service.create Sample.settings = .ok Sample.service := rfl

/-- **Stored sessions and refresh credentials agree.**  After any run at or after the start of 1970
of a service with settings, every stored session agrees with the claims of the value that it holds,
and from its end on that value is expired.  A current value that still verifies is never turned
down for want of a session. -/
theorem Run.sessions_agree {settings : Settings.Auth} {service : Service} {past : List Deed}
    {world : World} (created : Service.create settings = .ok service)
    (run : Run service past world)
    (since : ∀ deed ∈ past, Instant.ofSeconds 0 ≤ deed.before.clock) (identity : UserId) :
    (∀ session, world.sessions.get? identity = some session →
      (∃ claims, service.Agrees identity session claims) ∧
      ∀ now, session.isExpiredAt now = true →
        service.codec.verify now session.refreshToken = .error .expiredCredential) ∧
    ∀ context presented claims,
      currentValue service identity past = some (Text.trim presented) →
      service.codec.verifyKind world.clock (Text.trim presented) .refresh = .ok claims →
      ((service.reissue context presented).on world).1 ≠
        .ok (.error (.rejected .sessionNotFound)) := by
  have holds := run.holds identity
  constructor
  · intro session found
    obtain ⟨natural, within⟩ := run.ends_since since found
    obtain ⟨claims, agrees⟩ :=
      holds.exists_agrees found (refreshLifetime_of_create created) natural within
    exact ⟨⟨claims, agrees⟩, fun now => agrees.expired⟩
  · intro context presented claims current verified
    rw [current] at holds
    obtain ⟨session, live, same⟩ := holds.live verified
    have found := (Store.Sessions.liveAt_eq_some_iff.1 live).1
    rw [← same] at verified
    obtain rfl := holds.names found verified
    rw [same, Codec.verifyKind_trim] at verified
    obtain ⟨events, rotated⟩ := on_reissue_verified context verified
    rw [rotated]
    exact on_rotate_ne_sessionNotFound _ live

/-- The session of a first login agrees with the value that it holds, and is found by whoever presents
that. -/
theorem Run.sessions_agree_afterLogin :
    (∃ session, Sample.loggedIn.sessions.get? Sample.identity = some session ∧
      ∃ claims, Sample.service.Agrees Sample.identity session claims) ∧
    ((Sample.service.reissue Sample.nobody Sample.pair.refreshToken).on Sample.loggedIn).1 ≠
      .ok (.error (.rejected .sessionNotFound)) := by
  obtain ⟨stored, found⟩ := Run.sessions_agree Sample.create_settings Sample.run_login
    (List.forall_mem_singleton.2 (by decide)) Sample.identity
  have verified := Sample.verifyKind_pair
  have current := Sample.currentValue_login
  obtain ⟨session, live, _⟩ :=
    (current ▸ Sample.run_login.holds Sample.identity).live verified
  have here := (Store.Sessions.liveAt_eq_some_iff.1 live).1
  rw [← Sample.trim_pair] at verified current
  exact ⟨⟨session, here, (stored session here).1⟩, found _ _ _ current verified⟩

end SignOn.Engine
