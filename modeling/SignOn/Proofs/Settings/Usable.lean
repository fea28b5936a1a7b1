import SignOn.Proofs.Engine.Answers
import SignOn.Proofs.Engine.LateChecks
import SignOn.Proofs.Engine.StoredSessions
import SignOn.Settings.Load

/-!
# Settings that are valid can be used

A service can be created with settings that pass validation.  At every instant of a run from 1970 on
from which the configured times lead to instants of the calendar, that service serves
(`Settings.Deployment.valid_serves`): a login that its budget admits hands out a pair, whose access
credential is accepted at once, expires before the refresh credential and can be revoked, and whose
refresh value can be exchanged; and no call fails for anything but a rejection.

Validation asks for no upper bound of the configured times.  With a lifetime that leads beyond the
end of the calendar, settings are valid and yet no login comes to its end
(`Settings.Deployment.valid_breaks`).
-/

namespace SignOn

set_option autoImplicit false

open Engine Operation

/-! ## What validation says -/

namespace Settings

/-- What settings are when they pass validation. -/
structure Deployment.IsValid (deployment : Deployment) : Prop where
  secret : minimumSecretLength ≤ (Text.utf8 deployment.auth.signingSecret).length
  access : 0 < deployment.auth.accessSeconds
  shorter : deployment.auth.accessSeconds < deployment.auth.refreshSeconds
  sweeps : 0 < deployment.sweepSeconds

theorem Deployment.isValid_of_validate {deployment : Deployment}
    (valid : deployment.validate = .ok deployment) : deployment.IsValid := by
  unfold validate at valid
  split at valid
  · cases valid
  · next none =>
    unfold defect? at none
    simp only at none
    split_ifs at none with short zero still long
    refine ⟨Nat.not_lt.1 short, ?_, Nat.not_le.1 long, Nat.pos_of_ne_zero still⟩
    exact Nat.pos_of_ne_zero fun none => zero (Or.inl none)

/-- All configured times that have to end within the calendar are at most so many seconds. -/
structure Auth.Within (settings : Auth) (seconds : Nat) : Prop where
  refresh : settings.refreshSeconds ≤ seconds
  windows : ∀ operation limit, settings.rateLimits.limitOf operation = some limit →
    limit.windowSeconds ≤ seconds

end Settings

namespace Engine

variable {settings : Settings.Auth} {service : Service} {now : Instant}

/-- The service of settings has their lifetimes and limits. -/
structure Service.IsOf (service : Service) (settings : Settings.Auth) : Prop where
  access : service.codec.accessLifetime = .ofSeconds settings.accessSeconds
  refresh : service.codec.refreshLifetime = .ofSeconds settings.refreshSeconds
  limits : service.limits = settings.rateLimits

theorem Service.exists_create
    (secret : minimumSecretLength ≤ (Text.utf8 settings.signingSecret).length) :
    ∃ service, Service.create settings = .ok service ∧ service.IsOf settings := by
  refine ⟨⟨⟨Text.utf8 settings.signingSecret, settings.accessLifetime, settings.refreshLifetime,
    secret⟩, settings.rateLimits⟩, ?_, ⟨rfl, rfl, rfl⟩⟩
  rw [Service.create, Codec.create, dif_pos secret]
  rfl

/-- A number of seconds leads from an instant of the calendar to another if it does not reach beyond
its last second. -/
theorem isRepresentable_after (natural : 0 ≤ now.seconds) {seconds : Nat}
    (short : now.seconds + seconds ≤ Instant.lastSecond) :
    ((Duration.ofSeconds seconds).after now).isRepresentable = true := by
  rw [Instant.isRepresentable_iff, Instant.seconds_after_ofSeconds]
  refine ⟨?_, short⟩
  rw [Instant.firstSecond]
  omega

/-- The last second of the year 9999. -/
def lastSecondOfYear9999 : Int := 253402300799

/-- Settings whose times are not too long can be used until the end of the year 9999. -/
theorem Service.fitsAt_of_within (isOf : service.IsOf settings)
    (within : settings.Within 7956864576000) (natural : 0 ≤ now.nanoseconds)
    (early : now.seconds ≤ lastSecondOfYear9999) : service.FitsAt now := by
  have begins := Instant.seconds_nonneg natural
  rw [lastSecondOfYear9999] at early
  constructor
  · rw [isOf.refresh]
    refine isRepresentable_after begins ?_
    have short := within.refresh
    rw [Instant.lastSecond]
    omega
  · intro operation limit limited
    rw [isOf.limits] at limited
    refine isRepresentable_after begins ?_
    have short := within.windows operation limit limited
    rw [Instant.lastSecond]
    omega

/-- Where the times of the service fit, pairs can be issued. -/
theorem Service.isTimely_of_fitsAt (isOf : service.IsOf settings)
    (shorter : settings.accessSeconds < settings.refreshSeconds)
    (within : now.isRepresentable = true) (fits : service.FitsAt now) : service.IsTimely now := by
  have ends := fits.refresh
  rw [isOf.refresh, Instant.isRepresentable_iff, Instant.seconds_after_ofSeconds,
    Instant.lastSecond] at ends
  have begins := within
  rw [Instant.isRepresentable_iff, Instant.firstSecond] at begins
  refine ⟨fits, ⟨?_, ?_⟩, within⟩
  · rw [isOf.access, Duration.seconds_ofSeconds, Codec.lastSecond]
    omega
  · rw [isOf.refresh, Duration.seconds_ofSeconds, Codec.lastSecond]
    omega

/-! ## What a pair is good for -/

section Pairs

variable {past : List Deed} {world : World} {identity : UserId} {pair : TokenPair}
  {token : String} {claims access refresh : Claims}

/-- The deed neither hands out anything to an identity nor logs it out. -/
structure Deed.Leaves (service : Service) (identity : UserId) (deed : Deed) : Prop where
  keeps : ∀ value, deed.handedOut service ≠ some (identity, value)
  stays : deed.loggedOut service ≠ some identity

theorem currentValue_append {since : List Deed}
    (leaves : ∀ deed ∈ since, deed.Leaves service identity) :
    currentValue service identity (since ++ past) = currentValue service identity past := by
  induction since with
  | nil => rfl
  | cons deed since ih =>
    obtain ⟨here, rest⟩ := List.forall_mem_cons.1 leaves
    rw [List.cons_append, currentValue, ih rest, if_neg here.stays]
    cases handed : deed.handedOut service with
    | none => rfl
    | some given =>
      obtain ⟨owner, value⟩ := given
      have other : owner ≠ identity := by
        rintro rfl
        exact here.keeps value handed
      exact if_neg other

/-- What verifies is accepted as long as nothing with its mark has been revoked. -/
theorem Run.on_authorize_unrevoked (run : Run service past world)
    (verified : service.codec.verifyKind world.clock token .access = .ok claims)
    (unrevoked : ∀ text ∈ revokedTexts service past, markKey text ≠ markKey token)
    (context : Context) :
    ((service.authorize context token).on world).1 = .ok (.ok claims.userId) := by
  have absent : world.keyValue.get? (markKey token) = none := by
    rw [← markKey_trim]
    apply (run.markedFor (Text.trim token)).unmarked
    intro text revoked
    rw [markKey_trim]
    exact unrevoked text revoked
  rw [on_authorize, on_checkAccess_verified verified, Store.KeyValue.liveAt, absent]
  rfl

/-- In a run that has just handed out a pair to an identity, the pair is good for what it is meant
for. -/
structure IsGood (service : Service) (past : List Deed) (world : World) (identity : UserId)
    (pair : TokenPair) (access refresh : Claims) : Prop where
  accessCarries : service.codec.Carries pair.accessToken access
  refreshCarries : service.codec.Carries pair.refreshToken refresh
  /-- The access credential expires before the refresh credential. -/
  shorter : access.expiresAt < refresh.expiresAt
  /-- The access credential is accepted at once, unless it has been revoked in advance. -/
  authorized : (∀ text ∈ revokedTexts service past, markKey text ≠ markKey pair.accessToken) →
    ∀ context, ((service.authorize context pair.accessToken).on world).1 = .ok (.ok identity)
  /-- The refresh value can be exchanged until it expires, if the budget admits it and no other value
  has taken its place. -/
  reissued : ∀ since later, Run service (since ++ past) later →
    (∀ deed ∈ since, deed.Leaves service identity) → later.clock.seconds < refresh.expiresAt →
    service.FitsAt later.clock → service.admits .reissue identity later = true →
    ∀ context, ∃ next, ((service.reissue context pair.refreshToken).on later).1 = .ok (.ok next)
  /-- A logout can revoke the access credential until it expires, and then it is turned down. -/
  revoked : ∀ since later, Run service (since ++ past) later →
    later.clock.seconds < access.expiresAt → service.admits .logout identity later = true →
    ∀ context, context.actor = some identity →
      ∃ after, (service.logout context (some pair.accessToken)).on later = (.ok (.ok ()), after) ∧
        ∀ asking, ((service.authorize asking pair.accessToken).on after).1 =
          .ok (.error (.rejected .unauthenticated))

/-- The credentials of a pair carry claims of an identity and expire with the lifetimes of the service,
counted from the instant of their issue. -/
structure IsPairOf (service : Service) (issuedAt : Instant) (identity : UserId) (pair : TokenPair)
    (access refresh : Claims) : Prop where
  accessCarries : service.codec.Carries pair.accessToken access
  refreshCarries : service.codec.Carries pair.refreshToken refresh
  accessKind : access.kind = .access
  refreshKind : refresh.kind = .refresh
  accessOwner : access.userId = identity
  refreshOwner : refresh.userId = identity
  accessEnds : access.expiresAt = issuedAt.seconds + service.codec.accessLifetime.seconds
  refreshEnds : refresh.expiresAt = issuedAt.seconds + service.codec.refreshLifetime.seconds

/-- A pair whose refresh credential is stored has been issued where it is stored. -/
theorem Service.Stores.isPairOf {after : World} {tokenId : String} {session : Session}
    (stores : service.Stores identity world after pair tokenId session)
    (natural : 0 ≤ world.clock.seconds) (within : world.clock.isRepresentable = true)
    (access : world.clock.seconds + service.codec.accessLifetime.seconds ≤ Instant.lastSecond)
    (refresh : world.clock.seconds + service.codec.refreshLifetime.seconds ≤ Instant.lastSecond) :
    ∃ accessClaims refreshClaims,
      IsPairOf service world.clock identity pair accessClaims refreshClaims := by
  obtain ⟨accessId, paired⟩ := stores.paired
  obtain ⟨accessCarries, accessEnds⟩ := service.codec.carries_issued natural within access
  obtain ⟨refreshCarries, refreshEnds⟩ := service.codec.carries_issued natural within refresh
  refine ⟨_, _, ?_, ?_, rfl, rfl, rfl, rfl, accessEnds, refreshEnds⟩
  · rw [paired]
    exact accessCarries
  · rw [stores.issued]
    exact refreshCarries

/-- A pair is good for what it is meant for if its credentials were issued to the identity, the access
credential is the first to expire, and the refresh value is current. -/
theorem Run.isGood {issuedAt : Instant} (run : Run service past world)
    (issued : IsPairOf service issuedAt identity pair access refresh)
    (live : world.clock.seconds < access.expiresAt) (shorter : access.expiresAt < refresh.expiresAt)
    (dated : (expiryOf access).isRepresentable = true)
    (current : currentValue service identity past = some (Text.trim pair.refreshToken)) :
    IsGood service past world identity pair access refresh where
  accessCarries := issued.accessCarries
  refreshCarries := issued.refreshCarries
  shorter := shorter
  authorized unrevoked context := by
    have verified : service.codec.verifyKind world.clock pair.accessToken .access = .ok access :=
      Codec.verifyKind_eq_ok_iff.2
        ⟨Codec.verify_eq_ok_iff.2 ⟨issued.accessCarries, live⟩, issued.accessKind⟩
    rw [run.on_authorize_unrevoked verified unrevoked, issued.accessOwner]
  reissued := by
    intro since later running leaves unexpired fits admitted context
    have verified : service.codec.verifyKind later.clock (Text.trim pair.refreshToken) .refresh =
        .ok refresh := by
      rw [Codec.verifyKind_trim, Codec.verifyKind_eq_ok_iff, Codec.verify_eq_ok_iff]
      exact ⟨⟨issued.refreshCarries, unexpired⟩, issued.refreshKind⟩
    have stays := (currentValue_append leaves).trans current
    rw [← issued.refreshOwner] at admitted stays
    exact (running.reissue_exact fits context pair.refreshToken Prod.mk.eta.symm).1.2
      ⟨refresh, verified, admitted, stays⟩
  revoked := by
    intro since later running unexpired admitted context actor
    have before : later.clock < expiryOf access := Instant.seconds_lt_iff.1 unexpired
    obtain ⟨after, logout, marked⟩ := Service.on_logout actor admitted issued.accessCarries
      running.isRepresentable dated before
    refine ⟨after, logout, fun asking => ?_⟩
    have clock := clock_of_on logout
    rw [← clock] at unexpired before
    have verified : service.codec.verifyKind after.clock pair.accessToken .access = .ok access :=
      Codec.verifyKind_eq_ok_iff.2
        ⟨Codec.verify_eq_ok_iff.2 ⟨issued.accessCarries, unexpired⟩, issued.accessKind⟩
    rw [on_authorize, on_checkAccess_verified verified,
      Store.KeyValue.liveAt_eq_some_iff.2 ⟨marked, before⟩]
    rfl

/-- The value a login hands out is the current one of its identity. -/
theorem currentValue_login {context : Context} {tokenId : String}
    (succeeded : ((service.login context identity).on world).1 = .ok (.ok pair))
    (issued : pair.refreshToken =
      service.codec.encode (service.refreshClaims world.clock identity tokenId)) :
    currentValue service identity ((Call.login context identity).deed service world :: past) =
      some (Text.trim pair.refreshToken) := by
  have handed : ((Call.login context identity).deed service world).handedOut service =
      some (identity, pair.refreshToken) := by
    rw [Call.deed, Call.operation, succeeded]
    rfl
  rw [currentValue, handed, issued, Codec.trim_encode]
  exact if_pos rfl

/-- A login that its budget admits hands out a pair that is good. -/
theorem Run.login_isGood (run : Run service past world) (isOf : service.IsOf settings)
    (positive : 0 < settings.accessSeconds)
    (shorter : settings.accessSeconds < settings.refreshSeconds)
    (natural : 0 ≤ world.clock.nanoseconds) (fits : service.FitsAt world.clock)
    (context : Context) (admitted : service.admits .login identity world = true) :
    ∃ pair access refresh,
      ((service.login context identity).on world).1 = .ok (.ok pair) ∧
      IsGood service ((Call.login context identity).deed service world :: past)
        ((Call.login context identity).after service world) identity pair access refresh := by
  have within := run.isRepresentable
  have timely := Service.isTimely_of_fitsAt isOf shorter within fits
  obtain ⟨pair, succeeded⟩ : ∃ pair,
      ((service.login context identity).on world).1 = .ok (.ok pair) :=
    (Service.login_ok_iff within).2 ⟨admitted, timely.issues, fits.refresh⟩
  obtain ⟨tokenId, session, stores⟩ : ∃ tokenId session,
      service.Stores identity world ((service.login context identity).on world).2 pair tokenId
        session := by
    rcases Call.login_effect (on_eq_of_fst succeeded) with
      ⟨_, tokenId, session, same, stores⟩ | ⟨failed, _⟩
    · obtain rfl := Except.ok.inj (Except.ok.inj same)
      exact ⟨tokenId, session, stores⟩
    · exact absurd rfl (failed pair)
  have begins := Instant.seconds_nonneg natural
  have ends := fits.refresh
  rw [isOf.refresh, Instant.isRepresentable_iff, Instant.seconds_after_ofSeconds] at ends
  have accessSeconds : service.codec.accessLifetime.seconds = settings.accessSeconds := by
    rw [isOf.access, Duration.seconds_ofSeconds]
  have refreshSeconds : service.codec.refreshLifetime.seconds = settings.refreshSeconds := by
    rw [isOf.refresh, Duration.seconds_ofSeconds]
  obtain ⟨access, refresh, issued⟩ := stores.isPairOf begins within (by omega) (by omega)
  have accessEnds := issued.accessEnds
  have refreshEnds := issued.refreshEnds
  refine ⟨pair, access, refresh, succeeded, ?_⟩
  refine (run.call (.login context identity)).isGood issued ?_ ?_ ?_
    (currentValue_login succeeded stores.issued)
  · rw [(Call.login context identity).clock_after]
    omega
  · omega
  · refine Instant.isRepresentable_ofSeconds_iff.2 ?_
    rw [Instant.firstSecond]
    omega

/-- Logins are served, and every call gives an answer. -/
structure Serves (service : Service) (past : List Deed) (world : World) : Prop where
  login : ∀ context identity, service.admits .login identity world = true →
    ∃ pair access refresh,
      ((service.login context identity).on world).1 = .ok (.ok pair) ∧
      IsGood service ((Call.login context identity).deed service world :: past)
        ((Call.login context identity).after service world) identity pair access refresh
  answers : ∀ call : Call, Answers (call.operation service) world

/-- A login breaks off if the session would end beyond the calendar. -/
theorem Service.login_breaks {context : Context} (issues : service.Issues)
    (admitted : service.admits .login identity world = true)
    (addable : service.codec.refreshLifetime ≤ Duration.longest)
    (beyond : ¬ (service.codec.refreshLifetime.after world.clock).isRepresentable = true) :
    ((service.login context identity).on world).1 = .error ⟨⟩ := by
  obtain ⟨events, observed⟩ : ∃ events, (service.login context identity).on world =
      (((service.startSession (context.withActor identity) identity).on world).1, _) :=
    on_observe (service.startSession (context.withActor identity) identity)
  obtain ⟨counters, enforced⟩ := on_enforce_of_admits (context.withActor identity) admitted
  let counted : World := { world with keyValue := counters }
  have ends : Store.expiry world.clock service.codec.refreshLifetime = .error .calendarEnd := by
    rw [Store.expiry, if_pos addable, if_neg beyond]
  have reply : World.performCall { counted with drawn := counted.drawn + 2 }
      (.writeSession identity (service.pairIn identity counted).refreshToken
        service.codec.refreshLifetime) = (.error ⟨⟩, { counted with drawn := counted.drawn + 2 }) := by
    rw [World.performCall, Store.Sessions.write, ends]
    rfl
  rw [observed, startSession, on_bind_ok enforced, on_bind_ok (on_issuePair issues),
    on_bind_broken (on_call_broken reply)]

end Pairs

end Engine

/-! ## Valid settings -/

namespace Settings

/-- **Settings that are valid can be used.**  A service can be created with them.  If the configured
times are not too long, they fit at every instant from 1970 to the end of the year 9999; and wherever
they fit in a run from 1970 on, the service serves. -/
theorem Deployment.valid_serves {deployment : Deployment}
    (valid : deployment.validate = .ok deployment) :
    ∃ service, Service.create deployment.auth = .ok service ∧
      (deployment.auth.Within 7956864576000 → ∀ now : Instant, 0 ≤ now.nanoseconds →
        now.seconds ≤ lastSecondOfYear9999 → service.FitsAt now) ∧
      ∀ past world, Run service past world → 0 ≤ world.clock.nanoseconds →
        service.FitsAt world.clock → Serves service past world := by
  have isValid := isValid_of_validate valid
  obtain ⟨service, created, isOf⟩ := Service.exists_create isValid.secret
  refine ⟨service, created, fun within now => Service.fitsAt_of_within isOf within, ?_⟩
  intro past world run natural fits
  exact {
    login := fun context identity admitted =>
      run.login_isGood isOf isValid.access isValid.shorter natural fits context admitted
    answers := Call.answers
      (Service.isTimely_of_fitsAt isOf isValid.shorter run.isRepresentable fits) run.holdsCounters }

/-- Settings with the usual limits, in which refresh credentials are good for so many seconds. -/
def Sample.deployment (refreshSeconds : Nat) : Deployment where
  server :=
    { host := "0.0.0.0"
      port := 8080
      allowedOrigin := ⟨"http".toList, some ⟨[], "localhost".toList, some 3000⟩, false, ['/'], none,
        none⟩
      cookie := ⟨"refreshToken", "/", true⟩ }
  auth := { Engine.Sample.settings with refreshSeconds := refreshSeconds }
  providers := .none
  sweepSeconds := 60

/-- With refresh credentials that are good for two weeks, the first login is served. -/
theorem Deployment.valid_serves_usual :
    (Sample.deployment 1209600).validate = .ok (Sample.deployment 1209600) ∧
      Serves Engine.Sample.service [] Engine.Sample.world ∧
      Engine.Sample.service.admits .login Engine.Sample.identity Engine.Sample.world = true := by
  have valid : (Sample.deployment 1209600).validate = .ok (Sample.deployment 1209600) := rfl
  obtain ⟨service, created, fits, serves⟩ := Deployment.valid_serves valid
  obtain rfl := Except.ok.inj (created.symm.trans Engine.Sample.create_settings)
  refine ⟨valid, serves [] _ (.fresh Engine.Sample.isFresh_world) (by decide) ?_, rfl⟩
  refine fits ⟨by decide, ?_⟩ _ (by decide) (by decide)
  intro operation limit limited
  cases operation <;> cases limited
  decide

/-- Settings in which refresh credentials are good for nine million million seconds are valid, and no
login comes to its end. -/
theorem Deployment.valid_breaks :
    ∃ service, (Sample.deployment 9000000000000).validate = .ok (Sample.deployment 9000000000000) ∧
      Service.create (Sample.deployment 9000000000000).auth = .ok service ∧
      Engine.Sample.world.IsFresh ∧
      service.admits .login Engine.Sample.identity Engine.Sample.world = true ∧
      ((service.login Engine.Sample.nobody Engine.Sample.identity).on Engine.Sample.world).1 =
        .error ⟨⟩ := by
  have valid : (Sample.deployment 9000000000000).validate = .ok (Sample.deployment 9000000000000) :=
    rfl
  refine ⟨_, valid, rfl, Engine.Sample.isFresh_world, rfl, ?_⟩
  exact Service.login_breaks ⟨by decide, by decide⟩ rfl (by decide) (by decide)

end Settings

end SignOn
