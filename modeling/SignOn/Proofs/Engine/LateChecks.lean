import SignOn.Proofs.Engine.Access
import SignOn.Proofs.Engine.FailClosed
import SignOn.Proofs.Engine.History

/-!
# Access checks that take time

An access check reads the clock when it verifies the credential, and again when it asks whether the
credential is revoked.  In between time can pass, and a sweep can come.  The mark of a revoked
credential lapses as the credential expires, at the earliest.  So a check that begins after the
credential was revoked accepts it only if the credential expires while the check is under way
(`Crowd.Reached.not_hasSucceeded_of_revoked`).

In that case, it does accept it: a check that has verified the credential before its expiry and asks
for the mark at its expiry finds none (`Crowd.Reached.revoked_accepted_at_expiry`).  No order of the
two questions in one instant has this gap; see `Run.authorize_exact` for checks that take no time.
-/

namespace SignOn.Engine

set_option autoImplicit false

open Operation

/-! ## What marks are put for -/

/-- A call of a store puts the mark of the credential that a logout was given, for the time that
this had left at an instant that the logout has read. -/
def MarksGiven (service : Service) (past : List Moment) (call : Call) (storeCall : StoreCall) : Prop :=
  ∃ context given now left, call = .logout context (some given) ∧
    storeCall = .mark (markKey given) markText ⟨left.toNat⟩ ∧ .clock now ∈ past ∧
    service.codec.remaining now given = .ok left

/-- A call puts no mark but that of a credential that it was given. -/
def Call.MarkGuard (service : Service) (call : Call) (past : List Moment) (action : Action) : Prop :=
  action.MarksNothing ∨ ∃ storeCall, action = .store storeCall ∧ MarksGiven service past call storeCall

namespace Call

variable {service : Service} {call : Call} {context : Context} {past : List Moment}

theorem tolerant_markGuard : Program.Tolerant (call.MarkGuard service) := by
  rintro past more action (nothing | ⟨_, rfl, _, _, _, _, logout, rfl, read, told⟩) inside
  · exact Or.inl nothing
  · exact Or.inr ⟨_, rfl, _, _, _, _, logout, rfl, inside read, told⟩

theorem meets_markGuard_of_only {α : Type} {operation : Operation α}
    (nothing : operation.Only Action.MarksNothing) :
    operation.Meets (call.MarkGuard service) (fun _ _ => True) past :=
  nothing.meets (only_of_forall (fun _ => trivial) operation past) (fun _ _ => Or.inl)
    fun _ _ _ _ => trivial

theorem meets_markGuard_revoke {given : String} (logout : call = .logout context (some given)) :
    (revoke service.codec given).Meets (call.MarkGuard service) (fun _ _ => True) [] := by
  rw [revoke, meets_bind, meets_act]
  refine ⟨Or.inl trivial, fun now => ?_⟩
  dsimp only
  rw [meets_bind, meets_ofVerdict]
  cases told : service.codec.remaining now given with
  | error rejection => trivial
  | ok left =>
    change Operation.Meets _ _ (if left ≤ 0 then _ else _) _
    split
    · trivial
    · have marks : MarksGiven service [.clock now] call
          (.mark (markKey given) markText ⟨left.toNat⟩) :=
        ⟨context, given, now, left, logout, rfl, List.mem_cons_self, told⟩
      exact (meets_call _).2 ⟨Or.inr ⟨_, rfl, marks⟩, fun _ => trivial⟩

theorem meets_markGuard_revoking {token : Option String} (logout : call = .logout context token) :
    (match token with
      | some token => revoke service.codec token
      | none => pure ()).Meets (call.MarkGuard service) (fun _ _ => True) [] := by
  cases token with
  | none => trivial
  | some given => exact meets_markGuard_revoke logout

theorem meets_markGuard_endSessionAlong {turns : List Bool} {token : Option String}
    (logout : call = .logout context token) :
    (service.endSessionAlong turns context token).Meets (call.MarkGuard service)
      (fun _ _ => True) [] := by
  have routine := routine_marksNothing
  unfold Service.endSessionAlong
  cases context.actor with
  | none => trivial
  | some identity =>
    dsimp only
    rw [meets_bind]
    refine (meets_markGuard_of_only (only_enforce routine)).mono (fun _ _ allowed => allowed) ?_
    intro past outcome _
    cases outcome with
    | error failure => trivial
    | ok _ =>
      dsimp only
      rw [meets_bind, meets_lift]
      have deleting : (Operation.call (.deleteSession identity)).Meets (call.MarkGuard service)
          (fun _ _ => True) [] := meets_markGuard_of_only (only_call trivial)
      refine (Program.meets_beside tolerant_markGuard deleting (meets_markGuard_revoking logout)
        (List.Perm.refl _) turns).mono (fun _ _ allowed => allowed) ?_
      rintro past ⟨deleted, revoked⟩ _
      cases deleted <;> cases revoked <;> trivial

/-- Every call puts no mark but that of a credential that it was given. -/
theorem meets_markGuard (service : Service) (turns : List Bool) (call : Call) :
    (call.along service turns).Meets (call.MarkGuard service) (fun _ _ => True) [] := by
  have routine := routine_marksNothing
  cases call with
  | login context identity => exact meets_markGuard_of_only (Service.only_login routine fun _ => trivial)
  | providerLogin context callback =>
    exact meets_markGuard_of_only
      (Service.only_providerLogin routine (fun _ _ => trivial) (fun _ => trivial) fun _ _ => trivial)
  | reissue context presented =>
    exact meets_markGuard_of_only (Service.only_reissue routine (fun _ => trivial) fun _ _ => trivial)
  | authorize context token =>
    exact meets_markGuard_of_only (Service.only_authorize routine trivial)
  | logout context token =>
    change (observe _ _ _).Meets _ _ _
    rw [observe, meets_bind, meets_outcome]
    refine (meets_markGuard_endSessionAlong rfl).mono (fun _ _ allowed => allowed) ?_
    intro past outcome _
    dsimp only
    rw [meets_bind]
    refine (meets_markGuard_of_only (only_recordOutcome routine.recording)).mono
      (fun _ _ allowed => allowed) ?_
    intro past outcome _
    cases outcome <;> trivial

end Call

/-! ## Marks that stay -/

/-- What is held at a key lapses at an instant at the earliest, unless the instant has come. -/
def HeldUntil (key : String) (lapse : Instant) (world : World) : Prop :=
  lapse ≤ world.clock ∨ ∃ entry, world.keyValue.get? key = some entry ∧ lapse ≤ entry.expiresAt

section Held

variable {key : String} {lapse : Instant} {world after : World} {moment : Moment}

theorem HeldUntil.of_kept (held : HeldUntil key lapse world) (kept : KeepsKey key world after)
    (ordered : world.clock ≤ after.clock) : HeldUntil key lapse after := by
  rcases held with come | ⟨entry, there, lasts⟩
  · exact Or.inl (Int.le_trans come ordered)
  · rcases kept with same | same
    · exact Or.inr ⟨entry, same.trans there, lasts⟩
    · by_cases live : world.clock < entry.expiresAt
      · exact Or.inr ⟨entry, same.trans (Store.KeyValue.liveAt_eq_some_iff.2 ⟨there, live⟩), lasts⟩
      · exact Or.inl (Int.le_trans lasts (Int.le_trans (Instant.not_lt.1 live) ordered))

/-- Where nothing live is held, the instant has come. -/
theorem HeldUntil.le_clock (held : HeldUntil key lapse world)
    (none : world.keyValue.liveAt world.clock key = none) : lapse ≤ world.clock := by
  rcases held with come | ⟨entry, there, lasts⟩
  · exact come
  · refine Int.le_trans lasts (Instant.not_lt.1 fun live => ?_)
    have found := Store.KeyValue.liveAt_eq_some_iff.2 ⟨there, live⟩
    rw [none] at found
    cases found

namespace World.Yields

theorem keepsKey (yields : world.Yields moment after) (spares : moment.action.SparesKey key) :
    KeepsKey key world after := by
  cases yields with
  | @done action result _ acted =>
    have kept := keepsKey_perform spares world
    rwa [acted] at kept
  | unanswered without => exact keepsKey_of_eq rfl

/-- A mark is put for its lifetime, or the store does nothing. -/
theorem of_mark {text : String} {lifetime : Duration} {reply : Reply Unit}
    (yields : world.Yields ⟨.store (.mark key text lifetime), reply⟩ after) :
    (reply = .answered () ∧
        after.keyValue.get? key = some ⟨.text text, lifetime.after world.clock⟩) ∨
      reply ≠ .answered () ∧ after = world := by
  cases yields with
  | unanswered without => exact Or.inr ⟨without (), rfl⟩
  | done acted =>
    rw [World.perform, World.performCall, Store.KeyValue.write] at acted
    cases fits : Store.expiry world.clock lifetime with
    | error fault =>
      rw [fits] at acted
      cases fault with
      | refused error =>
        cases acted
        refine Or.inr ⟨fun answered => ?_, rfl⟩
        cases answered
      | calendarEnd => cases acted
    | ok expiresAt =>
      obtain ⟨rfl, _⟩ := Store.expiry_eq_ok fits
      rw [fits] at acted
      cases acted
      exact Or.inl ⟨rfl, Store.Table.get?_insert_self _ _ _⟩

/-- Where a key is said not to be present, nothing live is held there. -/
theorem of_isMarked (yields : world.Yields (.answered (.isMarked key) false) after) :
    world.keyValue.liveAt world.clock key = none := by
  cases yields with
  | unanswered without => exact absurd rfl (without false)
  | done acted =>
    have told : (world.keyValue.isPresent world.clock key).1 = false :=
      Reply.answered.inj (Except.ok.inj (congrArg Prod.fst acted))
    rwa [Store.KeyValue.isPresent_fst, Option.isSome_eq_false_iff, Option.isNone_iff_eq_none] at told

theorem of_readClock {now : Instant} (yields : world.Yields (.clock now) after) :
    now = world.clock := by
  cases yields with
  | done acted =>
    cases acted
    rfl

end World.Yields

end Held

/-! ## Revoked credentials in a crowd -/

/-- A logout that succeeds has revoked what it was given: the credential has no time left, or a
store has put the mark for the time that it has left. -/
theorem LogoutEnds.revoked {service : Service} {context : Context} {given : String}
    {past : List Moment} (ends : LogoutEnds service context (some given) past (.ok ())) :
    ∃ now left, .clock now ∈ past ∧ service.codec.remaining now given = .ok left ∧
      (left ≤ 0 ∨ .answered (.mark (markKey given) markText ⟨left.toNat⟩) () ∈ past) := by
  generalize succeeded : (.ok () : Except Failure Unit) = outcome at ends
  cases ends with
  | nobody absent areRecords => cases succeeded
  | halted actor areRecords counts did => cases succeeded
  | @tried identity records counting revoking reply revoked actor areRecords counts revokes did =>
    have inside {moment : Moment} (member : moment ∈ revoking) : moment ∈ past :=
      did.mem_iff.2 (List.mem_append_right records
        (List.mem_cons_of_mem _ (List.mem_append_left counting member)))
    have revoked : revoked = .ok () := by
      generalize (StoreCall.deleteSession identity).outcome reply = deleted at succeeded
      cases deleted with
      | error failure => cases succeeded
      | ok _ => exact succeeded.symm
    cases revokes with
    | unreadable read => cases revoked
    | @spent given now left told ended =>
      exact ⟨now, left, inside List.mem_cons_self, told, Or.inl ended⟩
    | @marks given now left told live reply =>
      cases reply with
      | failed error => cases revoked
      | timedOut => cases revoked
      | answered _ =>
        exact ⟨now, left, inside (List.mem_cons_of_mem _ List.mem_cons_self), told,
          Or.inr (inside List.mem_cons_self)⟩

namespace Call.FailsClosed

variable {service : Service} {call : Call} {context : Context} {past : List Moment}
  {answer : call.Answer}

theorem logoutEnds {token : Option String} (closed : call.FailsClosed service past (.ok answer))
    (logout : call = .logout context token) : LogoutEnds service context token past (.ok ()) := by
  subst logout
  exact closed.ends

theorem hasChecked {token : String} (closed : call.FailsClosed service past (.ok answer))
    (check : call = .authorize context token) : ∃ identity, service.HasChecked past token identity := by
  subst check
  exact ⟨answer, closed.covered answer rfl⟩

end Call.FailsClosed

theorem markKey_eq {given presented : String} (same : Text.trim given = Text.trim presented) :
    markKey given = markKey presented := by
  rw [← markKey_trim given, same, markKey_trim]

/-- The mark of a credential that carries some claims, put for the time it had left at an earlier
instant, lapses as they expire, at the earliest. -/
theorem heldUntil_of_mark {codec : Codec} {key text given presented : String} {claims : Claims}
    {now : Instant} {left : Int} {world after : World} (carries : codec.Carries presented claims)
    (same : Text.trim given = Text.trim presented) (told : codec.remaining now given = .ok left)
    (ordered : now ≤ world.clock)
    (yields : world.Yields (.answered (.mark key text ⟨left.toNat⟩) ()) after) :
    HeldUntil key (expiryOf claims) after := by
  obtain ⟨others, otherwise, _, rfl⟩ := Codec.remaining_eq_ok_iff.1 told
  obtain rfl := carries.unique (Codec.carries_of_trim_eq same otherwise)
  rcases yields.of_mark with ⟨_, there⟩ | ⟨unanswered, _⟩
  · refine Or.inr ⟨_, there, ?_⟩
    rw [Instant.le_def] at ordered ⊢
    simp only [expiryOf, Duration.after]
    omega
  · exact absurd rfl unanswered

namespace Crowd

variable {ι : Type} {calls : ι → Call}

/-- The hash tells a text from the others that logouts are given. -/
def TellsApart (calls : ι → Call) (presented : String) : Prop :=
  ∀ who context given, calls who = .logout context (some given) →
    Hash.sha256 (Text.utf8 (Text.trim given)) = Hash.sha256 (Text.utf8 (Text.trim presented)) →
      Text.trim given = Text.trim presented

/-- A logout that was given a text, with whatever blanks around it, has revoked it: the logout has
succeeded, or a store has at least put the mark. -/
def HasRevoked (crowd : Crowd calls) (presented : String) : Prop :=
  ∃ who context given, calls who = .logout context (some given) ∧
    Text.trim given = Text.trim presented ∧ (crowd.HasSucceeded who ∨ ∃ lifetime,
      (who, .answered (.mark (markKey given) markText lifetime) ()) ∈ crowd.history)

variable [DecidableEq ι] {service : Service} {crowd next : Crowd calls} {presented : String}
  {claims : Claims}

/-- Whichever call puts the mark of a credential, it puts it until the credential expires. -/
theorem Reached.heldUntil_of_puts (reached : Reached service calls crowd)
    (apart : TellsApart calls presented) (carries : service.codec.Carries presented claims) {who : ι}
    {key text : String} {lifetime : Duration} {after : World}
    {follow : Reply Unit → Program (Except Failure (calls who).Answer)}
    (hits : key = markKey presented)
    (rest : crowd.rest who = some (.perform (.store (.mark key text lifetime)) follow))
    (yields : crowd.world.Yields (.answered (.mark key text lifetime) ()) after) :
    HeldUntil key (expiryOf claims) after := by
  rcases (reached.keepsContracts (Call.meets_markGuard service) who _ rest).1 with
    nothing | ⟨_, same, context, given, now, left, logout, rfl, read, told⟩
  · exact nothing.elim
  · injection same with same
    injection same with keys _ lasts
    subst lasts
    have text := apart who context given logout (sha256_of_markKey (keys.symm.trans hits))
    exact heldUntil_of_mark carries text told
      (reached.sound.readings who now (mem_own.1 read)).2 yields

/-- Whatever a crowd does, the mark of a revoked credential stays until the credential expires. -/
theorem Reached.heldUntil_step (reached : Reached service calls crowd)
    (apart : TellsApart calls presented) (carries : service.codec.Carries presented claims)
    (held : HeldUntil (markKey presented) (expiryOf claims) crowd.world) (step : Step crowd next) :
    HeldUntil (markKey presented) (expiryOf claims) next.world := by
  cases step with
  | @act who action follow result after rest yields =>
    have ordered : crowd.world.clock ≤ after.clock :=
      Int.le_of_eq (congrArg Instant.nanoseconds yields.clock.symm)
    rcases (reached.keepsContracts (Call.meets_markGuard service) who _ rest).1 with
      nothing | ⟨_, rfl, _, given, _, _, _, rfl, _⟩
    · exact held.of_kept (yields.keepsKey (nothing.sparesKey presented)) ordered
    · by_cases hits : markKey presented = markKey given
      · rcases yields.of_mark with ⟨rfl, _⟩ | ⟨_, rfl⟩
        · rw [hits]
          exact reached.heldUntil_of_puts apart carries hits.symm rest yields
        · exact held
      · exact held.of_kept (yields.keepsKey hits) ordered
  | breakOff underWay => exact held
  | sweep => exact held.of_kept (Or.inr Store.KeyValue.get?_purge) (Int.le_refl _)
  | wait ordered within => exact held.of_kept (Or.inl rfl) ordered

/-- A mark that was put is there until the credential expires. -/
theorem Reached.heldUntil_of_marked (reached : Reached service calls crowd)
    (apart : TellsApart calls presented) (carries : service.codec.Carries presented claims) {who : ι}
    {lifetime : Duration}
    (marked : (who, .answered (.mark (markKey presented) markText lifetime) ()) ∈ crowd.history) :
    HeldUntil (markKey presented) (expiryOf claims) crowd.world := by
  induction reached with
  | start turns fresh distinct => exact absurd marked List.not_mem_nil
  | @step crowd next reached step ih =>
    by_cases earlier :
        (who, .answered (.mark (markKey presented) markText lifetime) ()) ∈ crowd.history
    · exact reached.heldUntil_step apart carries (ih earlier) step
    · cases step with
      | @act other action follow result after rest yields =>
        rcases List.mem_cons.1 marked with latest | former
        · cases latest
          exact reached.heldUntil_of_puts apart carries rfl rest yields
        · exact absurd former earlier
      | breakOff underWay => exact absurd marked earlier
      | sweep => exact absurd marked earlier
      | wait ordered within => exact absurd marked earlier

/-- The mark of a revoked credential stays until the credential expires. -/
theorem Reached.heldUntil_of_revoked (reached : Reached service calls crowd)
    (apart : TellsApart calls presented) (carries : service.codec.Carries presented claims)
    (revoked : crowd.HasRevoked presented) :
    HeldUntil (markKey presented) (expiryOf claims) crowd.world := by
  obtain ⟨who, context, given, logout, same, succeeded | ⟨lifetime, marked⟩⟩ := revoked
  · obtain ⟨answer, rest⟩ := succeeded
    have closed := reached.keepsContracts (Call.failsClosed service) who _ rest
    obtain ⟨now, left, read, told, spent | marked⟩ := (closed.logoutEnds logout).revoked
    · obtain ⟨others, otherwise, _, rfl⟩ := Codec.remaining_eq_ok_iff.1 told
      obtain rfl := carries.unique (Codec.carries_of_trim_eq same otherwise)
      refine Or.inl (Int.le_trans (Int.le_of_sub_nonpos spent) ?_)
      exact (reached.sound.readings who now (mem_own.1 read)).2
    · rw [markKey_eq same] at marked
      exact reached.heldUntil_of_marked apart carries (mem_own.1 marked)
  · rw [markKey_eq same] at marked
    exact reached.heldUntil_of_marked apart carries marked

/-! ## A check that begins later -/

/-- A check of a credential, begun after an instant at which the mark was there, finds it until the
credential expires. -/
structure Watches (crowd : Crowd calls) (begun : Instant) (checker : ι) (presented : String)
    (lapse : Instant) : Prop where
  later : begun ≤ crowd.world.clock
  held : HeldUntil (markKey presented) lapse crowd.world
  readings : ∀ now, (checker, .clock now) ∈ crowd.history → begun ≤ now
  missed : (checker, .answered (.isMarked (markKey presented)) false) ∈ crowd.history →
    lapse ≤ crowd.world.clock

variable {checker : ι} {begun : Instant}

theorem Reached.watches_step (reached : Reached service calls crowd)
    (apart : TellsApart calls presented) (carries : service.codec.Carries presented claims)
    (watches : crowd.Watches begun checker presented (expiryOf claims)) (step : Step crowd next) :
    next.Watches begun checker presented (expiryOf claims) := by
  have ordered := step.clock_le
  refine ⟨Int.le_trans watches.later ordered,
    reached.heldUntil_step apart carries watches.held step, ?_, ?_⟩
  · intro now read
    cases step with
    | act rest yields =>
      rcases List.mem_cons.1 read with latest | earlier
      · cases latest
        rw [yields.of_readClock]
        exact watches.later
      · exact watches.readings now earlier
    | breakOff _ | sweep | wait _ _ => exact watches.readings now read
  · intro asked
    refine Int.le_trans ?_ ordered
    cases step with
    | act rest yields =>
      rcases List.mem_cons.1 asked with latest | earlier
      · cases latest
        exact watches.held.le_clock yields.of_isMarked
      · exact watches.missed earlier
    | breakOff _ | sweep | wait _ _ => exact watches.missed asked

theorem Reached.watches_steps {start finish : Crowd calls} (reached : Reached service calls start)
    (apart : TellsApart calls presented) (carries : service.codec.Carries presented claims)
    (watches : start.Watches begun checker presented (expiryOf claims))
    (steps : Steps start finish) : finish.Watches begun checker presented (expiryOf claims) := by
  induction steps with
  | refl => exact watches
  | tail steps step ih => exact (reached.steps steps).watches_step apart carries ih step

/-- **No access after a revocation** while time stands on one side of the expiry: a check that
begins after its credential was revoked does not succeed, whatever the other calls do meanwhile,
unless the credential expires while the check is under way. -/
theorem Reached.not_hasSucceeded_of_revoked {start finish : Crowd calls} {context : Context}
    (reached : Reached service calls start) (apart : TellsApart calls presented)
    (check : calls checker = .authorize context presented) (revoked : start.HasRevoked presented)
    (unbegun : ¬ start.HasBegun checker) (steps : Steps start finish)
    (uncrossed : ∀ claims, service.codec.Carries presented claims →
      expiryOf claims ≤ start.world.clock ∨ finish.world.clock < expiryOf claims) :
    ¬ finish.HasSucceeded checker := by
  rintro ⟨identity, rest⟩
  have closed := (reached.steps steps).keepsContracts (Call.failsClosed service) checker _ rest
  obtain ⟨identity, now, claims, read, verified, _, asked⟩ := closed.hasChecked check
  obtain ⟨accepted, _⟩ := Codec.verifyKind_eq_ok_iff.1 verified
  obtain ⟨carries, live⟩ := Codec.verify_eq_ok_iff.1 accepted
  have watches : start.Watches start.world.clock checker presented (expiryOf claims) :=
    ⟨Int.le_refl _, reached.heldUntil_of_revoked apart carries revoked,
      fun _ read => absurd ⟨_, read⟩ unbegun, fun asked => absurd ⟨_, asked⟩ unbegun⟩
  have watched := reached.watches_steps apart carries watches steps
  have before : now < expiryOf claims := Instant.seconds_lt_iff.1 live
  rcases uncrossed claims carries with expired | unexpired
  · exact Instant.not_lt.2 (Int.le_trans expired (watched.readings now (mem_own.1 read))) before
  · exact Instant.not_lt.2 (watched.missed (mem_own.1 asked)) unexpired

/-! ## Checks that are kept waiting -/

/-- A call that is about to read the clock can do so, and then be kept waiting. -/
theorem exists_keptWaiting {who : ι} {later : Instant}
    {follow : Instant → Program (Except Failure (calls who).Answer)}
    (rest : crowd.rest who = some (.perform .readClock follow)) (ordered : crowd.world.clock ≤ later)
    (within : later.isRepresentable = true) :
    ∃ waiting : Crowd calls, Steps crowd waiting ∧ waiting.world = crowd.world.waitUntil later ∧
      waiting.rest who = some (follow crowd.world.clock) := by
  have read : Step crowd ⟨crowd.world, Function.update crowd.rest who
      (some (follow crowd.world.clock)), (who, .clock crowd.world.clock) :: crowd.history⟩ :=
    .act rest (.done rfl)
  exact ⟨_, .tail (.single read) (.wait ordered within), rfl, Function.update_self _ _ _⟩

end Crowd

namespace Service

variable {service : Service} {context : Context} {token : String} {claims : Claims} {world : World}

/-- A logout in memory, if its budget admits it, revokes the credential it is given. -/
theorem on_logout {identity : UserId} (actor : context.actor = some identity)
    (admitted : service.admits .logout identity world = true)
    (carries : service.codec.Carries token claims) (within : world.clock.isRepresentable = true)
    (dated : (expiryOf claims).isRepresentable = true) (before : world.clock < expiryOf claims) :
    ∃ after, (service.logout context (some token)).on world = (.ok (.ok ()), after) ∧
      after.keyValue.get? (markKey token) = some (markOf claims) := by
  obtain ⟨counters, enforced⟩ := on_enforce_of_admits context admitted
  have deleted : (Operation.outcome (call (.deleteSession identity))).on
      { world with keyValue := counters } =
      (.ok (.ok (.ok ())), { world with
        keyValue := counters
        sessions := world.sessions.erase identity }) := rfl
  have revoked : (revoke service.codec token).on { world with
      keyValue := counters
      sessions := world.sessions.erase identity } = _ := on_revoke carries within dated before
  have ended : (service.endSession context (some token)).on world = (.ok (.ok ()), { world with
      keyValue := counters.insert (markKey token) (markOf claims)
      sessions := world.sessions.erase identity }) := by
    unfold endSession
    rw [actor]
    dsimp only
    rw [on_bind_ok enforced, on_bind_ok deleted, on_bind_ok (on_outcome_ok revoked)]
    rfl
  obtain ⟨events, observed⟩ : ∃ events, (service.logout context (some token)).on world =
      (((service.endSession context (some token)).on world).1,
        { ((service.endSession context (some token)).on world).2 with events := events }) :=
    on_observe (service.endSession context (some token))
  rw [ended] at observed
  exact ⟨_, observed, Store.Table.get?_insert_self _ _ _⟩

/-- What is left of finding out whom to let in, with the verdict on the credential. -/
def checkFrom (token : String) (verdict : Except Rejection Claims) : Operation UserId := do
  let claims ← Operation.ofVerdict verdict
  if ← isRevoked token then Operation.reject .unauthenticated
  else return claims.userId

/-- What is left of an access check after it has read the clock. -/
def authorizeFrom (context : Context) (token : String) (verdict : Except Rejection Claims) :
    Operation UserId := do
  let outcome ← (checkFrom token verdict).outcome
  match outcome with
  | .ok identity => recordOutcome .accessCheck (context.withActor identity) outcome
  | .error failure => recordFailure .accessCheck context failure
  Operation.ofOutcome outcome

theorem run_authorize : (service.authorize context token).run = .perform .readClock fun now =>
    (authorizeFrom context token (service.codec.verifyKind now token .access)).run := rfl

/-- An access check that has verified its credential accepts it where nothing is held for it. -/
theorem on_authorizeFrom (unmarked : world.keyValue.liveAt world.clock (markKey token) = none) :
    ∃ after, (authorizeFrom context token (.ok claims)).on world =
      (.ok (.ok claims.userId), after) := by
  obtain ⟨later, checked⟩ : ∃ later, (checkFrom token (.ok claims)).on world =
      (.ok (.ok claims.userId), later) := by
    have asked : (isRevoked token).on world = _ := on_isMarked (markKey token) world
    rw [unmarked] at asked
    have verified : (checkFrom token (.ok claims)).on world = _ := on_bind_ok (on_ofVerdict _ world)
    exact ⟨_, verified.trans (on_bind_ok asked)⟩
  obtain ⟨event, recorded⟩ : ∃ event, (recordOutcome .accessCheck
      (context.withActor claims.userId) (.ok claims.userId : Except Failure UserId)).on later =
      (.ok (.ok ()), later.record event) := on_recordOutcome
  refine ⟨later.record event, ?_⟩
  rw [authorizeFrom, on_bind_ok (on_outcome_ok checked)]
  dsimp only
  rw [on_bind_ok recorded, on_ofOutcome]

end Service

namespace Sample

/-- A first login, a logout that is given the access credential which the login hands out, and an
access check of the same credential. -/
def revocation : Fin 3 → Call
  | 0 => .login nobody identity
  | 1 => .logout somebody (some pair.accessToken)
  | 2 => .authorize nobody pair.accessToken

/-- The claims of the access credential that the first login hands out. -/
def accessClaims : Claims :=
  Codec.issuedClaims world.clock identity .access service.codec.accessLifetime (world.tokenIds 0)

theorem carries_accessToken : service.codec.Carries pair.accessToken accessClaims :=
  (Codec.carries_encode _ (Codec.inRange_issuedClaims (by decide))).2 ⟨rfl, by decide⟩

theorem tellsApart_pair : Crowd.TellsApart revocation pair.accessToken := by
  intro who context given logout _
  match who with
  | 0 | 2 => cases logout
  | 1 =>
    injection logout with _ same
    rw [Option.some.inj same]

theorem verifyKind_accessToken :
    service.codec.verifyKind world.clock pair.accessToken .access = .ok accessClaims :=
  Codec.verifyKind_eq_ok_iff.2 ⟨Codec.verify_eq_ok_iff.2 ⟨carries_accessToken, by decide⟩, rfl⟩

/-- The login, and then the logout, can run to their ends before the check begins. -/
theorem exists_afterLogout : ∃ start : Crowd revocation, Crowd.Reached service revocation start ∧
    start.world.clock = world.clock ∧
    start.world.keyValue.get? (markKey pair.accessToken) = some (markOf accessClaims) ∧
    start.rest 2 = some (service.authorize nobody pair.accessToken).run ∧
    start.HasRevoked pair.accessToken ∧ ¬ start.HasBegun 2 := by
  have everything {α : Type} (operation : Operation α) : operation.Only fun _ => True :=
    only_of_forall (fun _ => trivial) operation
  let idle : Crowd revocation := .initial service revocation (fun _ => []) world
  have reached : Crowd.Reached service revocation idle := .start _ isFresh_world injective_tokenIds
  have login : idle.rest 0 = some (service.login nobody identity).run := rfl
  have loginRan : (service.login nobody identity).run.run World.perform idle.world =
      (.ok (.ok pair), loggedIn) := rfl
  obtain ⟨middle, logins, signedIn, signedInWorld, _, others, history, owned⟩ :=
    Crowd.steps_alone login loginRan (everything _)
  have unbegun : ¬ middle.HasBegun 2 := Crowd.not_hasBegun_of_alone history
    (fun event alone => (owned event alone).1) (by decide) Crowd.not_hasBegun_initial
  have logout : middle.rest 1 =
      some (service.logout somebody (some pair.accessToken)).run := by
    rw [others 1 (by decide), ← Service.logoutAlong_nil]
    rfl
  obtain ⟨after, logoutRan, marked⟩ := Service.on_logout (rfl : somebody.actor = some identity)
    (rfl : service.admits .logout identity loggedIn = true) carries_accessToken (by decide)
    (by decide) (by decide)
  have clock := clock_of_on logoutRan
  rw [← signedInWorld] at logoutRan
  obtain ⟨start, logouts, signedOut, rfl, ended, remaining, history, owned⟩ :=
    Crowd.steps_alone logout logoutRan (everything _)
  refine ⟨start, (reached.steps signedIn).steps signedOut, clock, marked, ?_, ?_, ?_⟩
  · rw [remaining 2 (by decide), others 2 (by decide)]
    rfl
  · exact ⟨1, somebody, pair.accessToken, rfl, rfl, Or.inl ⟨(), ended⟩⟩
  · exact Crowd.not_hasBegun_of_alone history (fun event alone => (owned event alone).1)
      (by decide) unbegun

end Sample

/-- A check that runs to its end right after the logout does not succeed. -/
theorem Crowd.Reached.not_hasSucceeded_afterLogout :
    ∃ start finish : Crowd Sample.revocation, Steps start finish ∧
      start.HasRevoked Sample.pair.accessToken ∧ ¬ start.HasBegun 2 ∧
      (∃ outcome, finish.rest 2 = some (.done outcome)) ∧ ¬ finish.HasSucceeded 2 := by
  obtain ⟨start, reached, clock, _, rest, revoked, unbegun⟩ := Sample.exists_afterLogout
  have verified := Sample.verifyKind_accessToken
  rw [← clock] at verified
  have ran := on_eq_of_fst ((on_authorize Sample.nobody).trans (on_checkAccess_verified verified))
  obtain ⟨finish, _, steps, later, ended, _⟩ := Crowd.steps_alone rest ran
    (only_of_forall (fun _ => trivial) (Sample.service.authorize _ _))
  refine ⟨start, finish, steps, revoked, unbegun, ⟨_, ended⟩, ?_⟩
  refine reached.not_hasSucceeded_of_revoked Sample.tellsApart_pair rfl revoked unbegun steps ?_
  intro claims carries
  obtain rfl := carries.unique Sample.carries_accessToken
  rw [later, clock_of_on ran, clock]
  exact Or.inr (by decide)

/-- A check that has verified the credential before its expiry, and asks whether it is revoked at
its expiry, accepts it, although it was revoked before the check began. -/
theorem Crowd.Reached.revoked_accepted_at_expiry :
    ∃ start finish : Crowd Sample.revocation, Reached Sample.service Sample.revocation start ∧
      start.HasRevoked Sample.pair.accessToken ∧ ¬ start.HasBegun 2 ∧ Steps start finish ∧
      finish.HasSucceeded 2 := by
  obtain ⟨start, reached, clock, marked, rest, revoked, unbegun⟩ := Sample.exists_afterLogout
  have verified := Sample.verifyKind_accessToken
  rw [← clock] at verified
  rw [Service.run_authorize] at rest
  obtain ⟨waiting, waited, world, left⟩ := exists_keptWaiting rest
    (by rw [clock]; decide : start.world.clock ≤ expiryOf Sample.accessClaims) (by decide)
  rw [verified] at left
  have unmarked : waiting.world.keyValue.liveAt waiting.world.clock
      (markKey Sample.pair.accessToken) = none := by
    have lapsed : ¬ (markOf Sample.accessClaims).isLive (expiryOf Sample.accessClaims) = true := by
      decide
    rw [world, Store.KeyValue.liveAt, World.waitUntil, marked, Option.filter_some, if_neg lapsed]
  obtain ⟨after, ran⟩ := Service.on_authorizeFrom unmarked
  obtain ⟨finish, _, accepted, _, ended, _⟩ := Crowd.steps_alone left ran
    (only_of_forall (fun _ => trivial) _)
  exact ⟨start, finish, reached, revoked, unbegun, waited.trans accepted, ⟨_, ended⟩⟩

end SignOn.Engine
