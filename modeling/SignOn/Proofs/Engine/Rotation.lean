import SignOn.Proofs.Engine.SessionEffects
import SignOn.Proofs.Engine.Windows

/-!
# Rotation is exact

Which refresh value is current for an identity is told by what a run has done: it is the value
that the latest success handed out to the identity, unless a logout has deleted its session since
(`currentValue`).  The session of the identity holds just this value for as long as the value
lives (`Run.holds`).

So a reissue succeeds exactly for the current value of the identity that it names, if it verifies
and the budget admits the call; every other reissue fails for the first cause that applies, and
changes no live session (`Run.reissue_exact`).
-/

namespace SignOn.Engine

set_option autoImplicit false

open Operation Service

/-! ## The current value -/

/-- The refresh value that the latest success handed out to an identity, unless a logout of the
identity has got as far as deleting its session since. -/
def currentValue (service : Service) (identity : UserId) : List Deed → Option String
  | [] => none
  | deed :: past =>
      match deed.handedOut service with
      | some (owner, value) =>
          if owner = identity then some value else currentValue service identity past
      | none =>
          if deed.loggedOut service = some identity then none
          else currentValue service identity past

/-- What the session store holds for an identity with a current value: the value, issued at some
instant for the lifetime of refresh credentials, unless it has lapsed. -/
inductive Holds (service : Service) (identity : UserId) (world : World) : Option String → Prop where
  | nothing (absent : world.sessions.get? identity = none) : Holds service identity world none
  | value {issuedAt : Instant} {tokenId : String} {session : Session} (issues : service.Issues)
      (within : issuedAt.isRepresentable = true)
      (issued : session.refreshToken =
        service.codec.encode (service.refreshClaims issuedAt identity tokenId))
      (lapse : session.expiresAt = service.codec.refreshLifetime.after issuedAt)
      (owned : session.owner = identity)
      (held : Store.IsThereUntil (world.sessions.get? identity) session session.expiresAt
        world.clock) :
      Holds service identity world (some session.refreshToken)

variable {service : Service} {identity : UserId} {past : List Deed} {world after : World}

/-- The session that is held belongs to the identity. -/
theorem Holds.owner {value : Option String} (holds : Holds service identity world value)
    {session : Session} (found : world.sessions.get? identity = some session) :
    session.owner = identity := by
  cases holds with
  | nothing absent =>
    rw [absent] at found
    cases found
  | value _ _ _ _ owned held =>
    rcases held with here | ⟨absent, _⟩
    · obtain rfl := Option.some.inj (here.symm.trans found)
      exact owned
    · rw [absent] at found
      cases found

theorem Holds.of_kept {value : Option String} (holds : Holds service identity world value)
    (kept : after.sessions.get? identity = world.sessions.get? identity ∨
      after.sessions.get? identity = world.sessions.liveAt world.clock identity)
    (later : world.clock ≤ after.clock) : Holds service identity after value := by
  cases holds with
  | nothing absent =>
    apply Holds.nothing
    rcases kept with same | same
    · rw [same, absent]
    · rw [same, Store.Sessions.liveAt, absent]
      rfl
  | value issues within issued lapse owned held =>
    exact .value issues within issued lapse owned
      (held.of_kept Store.Sessions.isAlive_iff kept later)

/-- What a call leaves behind holds what is current after it. -/
theorem Holds.deed {deed : Deed} (within : deed.before.clock.isRepresentable = true)
    (holds : Holds service identity deed.before (currentValue service identity past))
    (clock : after.clock = deed.before.clock) (effect : deed.Effect service after) :
    Holds service identity after (currentValue service identity (deed :: past)) := by
  have later : deed.before.clock ≤ after.clock := by
    rw [clock]
    exact Int.le_refl _
  cases effect with
  | @stores owner pair tokenId session handed stored =>
    rw [currentValue, handed]
    dsimp only
    by_cases same : owner = identity
    · subst same
      rw [if_pos rfl, ← stored.value]
      refine .value stored.issues within (stored.value.trans stored.issued) stored.lapse
        (stored.owned fun old found => holds.owner found) (Or.inl ?_)
      rw [stored.sessions, if_pos rfl]
    · rw [if_neg same]
      refine holds.of_kept (Or.inl ?_) later
      rw [stored.sessions, if_neg (Ne.symm same)]
  | @deletes owner handed ended sessions =>
    rw [currentValue, handed, ended]
    dsimp only
    by_cases same : owner = identity
    · subst same
      rw [if_pos rfl]
      apply Holds.nothing
      rw [sessions, Store.Table.get?_erase, if_pos rfl]
    · rw [if_neg fun equal => same (Option.some.inj equal)]
      refine holds.of_kept (Or.inl ?_) later
      rw [sessions, Store.Table.get?_erase, if_neg (Ne.symm same)]
  | keeps handed ended kept =>
    rw [currentValue, handed, ended]
    dsimp only
    rw [if_neg nofun]
    exact holds.of_kept (kept identity) later

/-- In every run the session of an identity holds its current value. -/
theorem Run.holds (run : Run service past world) (identity : UserId) :
    Holds service identity world (currentValue service identity past) := by
  induction run with
  | fresh start =>
    apply Holds.nothing
    rw [start.sessions, Store.Table.get?_empty]
  | call run call ih =>
    exact ih.deed run.isRepresentable (call.clock_after service _) (call.effect _)
  | sweep run ih =>
    refine ih.of_kept (Or.inr ?_) (Int.le_refl _)
    exact Store.Sessions.get?_purge
  | wait run ordered within ih => exact ih.of_kept (Or.inl rfl) ordered

/-! ## Live sessions and current values -/

/-- A live session holds the current value, and pairs can be issued. -/
theorem Holds.of_live {value : Option String} (holds : Holds service identity world value)
    {session : Session} (live : world.sessions.liveAt world.clock identity = some session) :
    value = some session.refreshToken ∧ service.Issues := by
  obtain ⟨found, _⟩ := Store.Sessions.liveAt_eq_some_iff.1 live
  cases holds with
  | nothing absent =>
    rw [absent] at found
    cases found
  | value issues _ _ _ _ held =>
    rcases held with here | ⟨absent, _⟩
    · obtain rfl := Option.some.inj (here.symm.trans found)
      exact ⟨rfl, issues⟩
    · rw [absent] at found
      cases found

/-- A current value that verifies is held by a live session: the value expires with a whole second
that its session does not lapse before. -/
theorem Holds.live {token : String} {claims : Claims}
    (holds : Holds service identity world (some token))
    (verified : service.codec.verifyKind world.clock token .refresh = .ok claims) :
    ∃ session, world.sessions.liveAt world.clock identity = some session ∧
      session.refreshToken = token := by
  generalize current : some token = value at holds
  cases holds with
  | nothing absent => cases current
  | @value issuedAt tokenId session issues within issued lapse owned held =>
    obtain rfl := Option.some.inj current
    obtain ⟨accepted, _⟩ := Codec.verifyKind_eq_ok_iff.1 verified
    rw [issued, Codec.verify_encode _ (inRange_refreshClaims within)] at accepted
    obtain ⟨_, _, unexpired⟩ := accepted
    have before : world.clock < session.expiresAt := by
      rw [lapse]
      apply Instant.lt_after
      exact Int.lt_of_lt_of_le unexpired (Int.min_le_left _ _)
    rcases held with here | ⟨_, lapsed⟩
    · exact ⟨session, Store.Sessions.liveAt_eq_some_iff.2 ⟨here, before⟩, rfl⟩
    · exact absurd before (Instant.not_lt.2 lapsed)

/-! ## A rotation in a run -/

section Rotate

variable (context : Context) (presented : String)

theorem on_rotate_of_refused (run : Run service past world) (fits : service.FitsAt world.clock)
    (refused : service.admits .reissue identity world = false) :
    ∃ counters event, (service.rotate context identity presented).on world =
      (.ok (.error (.rejected (.rateLimitExceeded (limitKey .reissue identity)))),
        { world with keyValue := counters }.record event) := by
  obtain ⟨counters, event, enforced⟩ :=
    run.holdsCounters.on_enforce_refused run.isRepresentable fits context refused
  exact ⟨counters, event, on_bind_error enforced⟩

/-- A rotation that its budget admits goes on with the live session. -/
theorem on_rotate_of_admits (admitted : service.admits .reissue identity world = true) :
    ∃ counters, (service.rotate context identity presented).on world =
      (service.rotateFrom identity presented (world.sessions.liveAt world.clock identity)).on
        { world with
          keyValue := counters
          sessions := (world.sessions.read world.clock identity).2 } := by
  obtain ⟨counters, enforced⟩ := on_enforce_of_admits context admitted
  refine ⟨counters, ?_⟩
  rw [rotate_eq, on_bind_ok enforced, on_bind_ok (on_readSession identity _)]

/-- A swap succeeds where the presented value is that of the live session, a pair can be issued and
the end of its lifetime can be told. -/
theorem on_swap {presented : String} {session : Session} (issues : service.Issues)
    (fits : Store.expiry world.clock service.codec.refreshLifetime =
      .ok (service.codec.refreshLifetime.after world.clock))
    (live : world.sessions.liveAt world.clock identity = some session)
    (same : session.refreshToken = presented) :
    ((service.swap identity presented).on world).1 =
      .ok (.ok (service.pairIn identity world)) := by
  have issued : (service.issuePair identity).on world =
      (.ok (.ok (service.pairIn identity world)), { world with drawn := world.drawn + 2 }) :=
    on_issuePair issues
  have replaced : (Operation.call (.replaceSession identity presented
      (service.pairIn identity world).refreshToken service.codec.refreshLifetime)).on
        { world with drawn := world.drawn + 2 } = _ := on_replaceSession fits live same
  rw [swap, on_bind_ok issued, on_bind_ok replaced, if_pos rfl, on_pure]

end Rotate

/-! ## Reissues -/

/-- The failure of a reissue after a run: the first cause that applies. -/
def reissueFailure? (service : Service) (past : List Deed) (world : World) (presented : String) :
    Option Failure :=
  match service.codec.verifyKind world.clock (Text.trim presented) .refresh with
  | .error rejection => some (.rejected rejection)
  | .ok claims =>
      if service.admits .reissue claims.userId world = false then
        some (.rejected (.rateLimitExceeded (limitKey .reissue claims.userId)))
      else if world.sessions.liveAt world.clock claims.userId = none then
        some (.rejected .sessionNotFound)
      else if currentValue service claims.userId past ≠ some (Text.trim presented) then
        some (.rejected .refreshMismatch)
      else none

/-- A reissue in a run fails for the first cause that applies, and then shows the same live
sessions; where none applies it stores the refresh value of the pair it gives. -/
theorem Run.on_reissue (run : Run service past world) (fits : service.FitsAt world.clock)
    (context : Context) (presented : String) :
    (∃ failure, reissueFailure? service past world presented = some failure ∧
      ((service.reissue context presented).on world).1 = .ok (.error failure) ∧
      ∀ other, ((service.reissue context presented).on world).2.sessions.liveAt world.clock other =
        world.sessions.liveAt world.clock other) ∨
    (reissueFailure? service past world presented = none ∧
      ∃ claims pair tokenId session,
        service.codec.verifyKind world.clock (Text.trim presented) .refresh = .ok claims ∧
        ((service.reissue context presented).on world).1 = .ok (.ok pair) ∧
        service.Stores claims.userId world ((service.reissue context presented).on world).2 pair
          tokenId session) := by
  unfold reissueFailure?
  rw [Codec.verifyKind_trim]
  cases verified : service.codec.verifyKind world.clock presented .refresh with
  | error rejection =>
    obtain ⟨event, rejected⟩ := on_reissue_unverified context verified
    dsimp only
    rw [rejected]
    exact Or.inl ⟨_, rfl, rfl, fun _ => rfl⟩
  | ok claims =>
    obtain ⟨events, rotated⟩ := on_reissue_verified context verified
    rw [rotated]
    dsimp only
    generalize context.withActor claims.userId = context
    cases admitted : service.admits .reissue claims.userId world with
    | false =>
      obtain ⟨counters, event, refused⟩ := on_rotate_of_refused context (Text.trim presented) run fits
        admitted
      rw [if_pos rfl, refused]
      exact Or.inl ⟨_, rfl, rfl, fun _ => rfl⟩
    | true =>
      obtain ⟨counters, turned⟩ := on_rotate_of_admits context (Text.trim presented) admitted
      rw [if_neg Bool.false_ne_true.symm]
      cases live : world.sessions.liveAt world.clock claims.userId with
      | none =>
        rw [live] at turned
        rw [if_pos rfl, turned]
        exact Or.inl ⟨_, rfl, rfl, fun other => Store.Sessions.liveAt_read⟩
      | some session =>
        rw [live, rotateFrom] at turned
        obtain ⟨current, issues⟩ := (run.holds claims.userId).of_live live
        rw [if_neg (Option.some_ne_none session), current]
        by_cases same : session.refreshToken = Text.trim presented
        · rw [if_neg (not_not.2 (congrArg some same))]
          rw [if_pos same] at turned
          cases ran : (service.rotate context claims.userId (Text.trim presented)).on world with
          | mk outcome last =>
            rw [ran] at turned
            have swapped : outcome = .ok (.ok (service.pairIn claims.userId _)) :=
              (congrArg Prod.fst turned).trans
                (on_swap issues (Store.expiry_of_isRepresentable run.isRepresentable fits.refresh)
                  (Store.Sessions.liveAt_read.trans live) same)
            rcases rotate_effect ran with ⟨pair, tokenId, stored, done, stores⟩ | ⟨failed, _⟩
            · exact Or.inr ⟨rfl, claims, pair, tokenId, stored, rfl, done, stores.of_eq rfl⟩
            · exact absurd swapped (failed _)
        · rw [if_pos fun equal => same (Option.some.inj equal)]
          rw [if_neg same] at turned
          rw [turned]
          exact Or.inl ⟨_, rfl, rfl, fun other => Store.Sessions.liveAt_read⟩

/-- Nothing is wrong with a reissue exactly when the presented text verifies as a refresh
credential, the budget of the identity that it names admits the call, and it is the current value
of the identity. -/
theorem Run.reissueFailure?_eq_none_iff (run : Run service past world) (presented : String) :
    reissueFailure? service past world presented = none ↔
      ∃ claims,
        service.codec.verifyKind world.clock (Text.trim presented) .refresh = .ok claims ∧
        service.admits .reissue claims.userId world = true ∧
        currentValue service claims.userId past = some (Text.trim presented) := by
  unfold reissueFailure?
  cases verified : service.codec.verifyKind world.clock (Text.trim presented) .refresh with
  | error rejection => simp
  | ok claims =>
    dsimp only
    constructor
    · intro nothing
      split_ifs at nothing with refused absent other
      exact ⟨claims, rfl, Bool.not_eq_false _ ▸ refused, not_not.1 other⟩
    · rintro ⟨_, same, admitted, current⟩
      obtain rfl := Except.ok.inj same
      have holds := run.holds claims.userId
      rw [current] at holds
      obtain ⟨session, live, _⟩ := holds.live verified
      simp [admitted, live, current]

/-! ## After a first login -/

/-- The value that a first login hands out verifies when the login is done. -/
theorem Sample.verifyKind_pair :
    Sample.service.codec.verifyKind Sample.loggedIn.clock Sample.pair.refreshToken .refresh =
      .ok (Sample.service.refreshClaims Sample.world.clock Sample.identity "1") := by
  rw [Codec.verifyKind_eq_ok_iff]
  refine ⟨(Codec.verify_encode _ ?_ _).2 ⟨rfl, by decide, by decide⟩, rfl⟩
  exact inRange_refreshClaims (by decide)

theorem Sample.trim_pair : Text.trim Sample.pair.refreshToken = Sample.pair.refreshToken :=
  Codec.trim_encode _ _

theorem Sample.currentValue_login : currentValue Sample.service Sample.identity
    [(Call.login Sample.nobody Sample.identity).deed Sample.service Sample.world] =
      some Sample.pair.refreshToken := rfl

theorem Sample.fitsAt_loggedIn : Sample.service.FitsAt Sample.loggedIn.clock := by
  refine ⟨by decide, ?_⟩
  intro operation limit limited
  cases operation <;> cases limited
  decide

/-- After a first login, the value that it handed out can be exchanged. -/
theorem Sample.reissue_succeeds :
    ∃ fresh after, (Sample.service.reissue Sample.nobody Sample.pair.refreshToken).on
      Sample.loggedIn = (.ok (.ok fresh), after) := by
  have verified := Sample.verifyKind_pair
  have current := Sample.currentValue_login
  rw [← Sample.trim_pair] at verified current
  have nothing := (Sample.run_login.reissueFailure?_eq_none_iff Sample.pair.refreshToken).2
    ⟨_, verified, rfl, current⟩
  rcases Sample.run_login.on_reissue Sample.fitsAt_loggedIn Sample.nobody
    Sample.pair.refreshToken with ⟨failure, cause, _⟩ | ⟨_, _, fresh, _, _, _, done, _⟩
  · rw [nothing] at cause
    cases cause
  · exact ⟨fresh, _, on_eq_of_fst done⟩

/-! ## Reissues are exact -/

/-- **Rotation is exact.**  After any run, a reissue succeeds exactly when the presented text,
without the blanks around it, verifies as a refresh credential, the budget of the identity that it
names admits the call, and the text is the current value of that identity.  Then the identity's
session holds the refresh value of the new pair.  Otherwise the reissue fails for the first cause
that applies, and no live session changes. -/
theorem Run.reissue_exact (run : Run service past world) (fits : service.FitsAt world.clock)
    (context : Context) (presented : String)
    {outcome : Except CalendarEnd (Except Failure TokenPair)}
    (ran : (service.reissue context presented).on world = (outcome, after)) :
    ((∃ pair, outcome = .ok (.ok pair)) ↔
      ∃ claims,
        service.codec.verifyKind world.clock (Text.trim presented) .refresh = .ok claims ∧
        service.admits .reissue claims.userId world = true ∧
        currentValue service claims.userId past = some (Text.trim presented)) ∧
    (∀ pair, outcome = .ok (.ok pair) →
      ∃ claims session,
        service.codec.verifyKind world.clock (Text.trim presented) .refresh = .ok claims ∧
        after.sessions.get? claims.userId = some session ∧
        session.refreshToken = pair.refreshToken) ∧
    ((∀ pair, outcome ≠ .ok (.ok pair)) →
      ∃ failure, outcome = .ok (.error failure) ∧
        reissueFailure? service past world presented = some failure ∧
        ∀ other, after.sessions.liveAt after.clock other = world.sessions.liveAt world.clock other) := by
  rw [← run.reissueFailure?_eq_none_iff presented, clock_of_on ran]
  rcases run.on_reissue fits context presented with
    ⟨failure, cause, done, same⟩ | ⟨cause, claims, pair, tokenId, session, verified, done, stores⟩
  · rw [ran] at done same
    dsimp only at done
    subst done
    rw [cause]
    exact ⟨⟨nofun, nofun⟩, nofun, fun _ => ⟨failure, rfl, rfl, same⟩⟩
  · rw [ran] at done stores
    dsimp only at done
    subst done
    refine ⟨⟨fun _ => cause, fun _ => ⟨pair, rfl⟩⟩, ?_, ?_⟩
    · intro other same
      obtain rfl := Except.ok.inj (Except.ok.inj same)
      refine ⟨claims, session, verified, ?_, stores.value⟩
      rw [stores.sessions, if_pos rfl]
    · intro failed
      exact absurd rfl (failed pair)

/-- The value that a first login hands out can be exchanged. -/
theorem Run.reissue_exact_afterLogin :
    ∃ pair, ((Sample.service.reissue Sample.nobody Sample.pair.refreshToken).on Sample.loggedIn).1 =
      .ok (.ok pair) := by
  have verified := Sample.verifyKind_pair
  have current := Sample.currentValue_login
  rw [← Sample.trim_pair] at verified current
  exact (Sample.run_login.reissue_exact Sample.fitsAt_loggedIn Sample.nobody
    Sample.pair.refreshToken Prod.mk.eta.symm).1.2 ⟨_, verified, rfl, current⟩

end SignOn.Engine
