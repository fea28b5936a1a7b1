import SignOn.Proofs.Engine.History
import SignOn.Proofs.Engine.Marks
import SignOn.Proofs.Engine.Rotation

/-!
# A refresh value is consumed once

However many calls are at work and however their actions, sweeps and the clock fall between each
other, a refresh value is consumed by one reissue at most, and by none once it has been
overwritten or deleted (`Crowd.Consumes`).  Where reissues of the current value of an identity
contend for it, and nothing else writes or deletes its session (`Crowd.Contest`), one of them
succeeds and all others are told that their value is not the current one.
-/

namespace SignOn.Engine

set_option autoImplicit false

open Operation Service

/-! ## Outcomes and swaps -/

section Outcomes

variable {service : Service} {call : Call} {past others : List Moment} {value : String}
  {identity other : UserId}

/-- A reissue that succeeds has swapped its value. -/
theorem Call.Ends.swapped {answer : call.Answer} (presents : call.Presents value)
    (ends : call.Ends service past (.ok answer)) : ∃ fresh, HasSwapped value fresh past := by
  cases call with
  | reissue context presented =>
    obtain rfl := presents
    cases ends with
    | swapped swapped => exact ⟨_, swapped⟩
  | login _ _ | providerLogin _ _ | logout _ _ | authorize _ _ => exact presents.elim

/-- A reissue that fails has a cause, and has not swapped its value. -/
theorem Call.Ends.failed {failure : Failure} (presents : call.Presents value)
    (ends : call.Ends service past (.error failure)) :
    Cause service value past failure ∧ ∀ fresh, ¬ HasSwapped value fresh past := by
  cases call with
  | reissue context presented =>
    obtain rfl := presents
    cases ends with
    | failed cause kept => exact ⟨cause, kept⟩
  | login _ _ | providerLogin _ _ | logout _ _ | authorize _ _ => exact presents.elim

/-- A value names one identity, whenever it is verified. -/
theorem Service.HasVerified.unique (here : service.HasVerified past identity value)
    (there : service.HasVerified others other value) : identity = other := by
  obtain ⟨_, claims, _, accepted, rfl⟩ := here
  obtain ⟨_, found, _, acceptedToo, rfl⟩ := there
  rw [Codec.verifyKind_unique accepted acceptedToo]

end Outcomes

namespace Crowd

variable {ι : Type} {service : Service} {who first second : ι} {value : String}

/-! ## Sessions that stand -/

/-- A moment at which a login writes the session of an identity, or a logout deletes it. -/
def Disturbs (identity : UserId) : Action → Prop
  | .store (.writeSession owner _ _) | .store (.deleteSession owner) => owner = identity
  | _ => False

/-- The value of an identity is swapped. -/
def HasSwap (identity : UserId) (value : String) (history : List (ι × Moment)) : Prop :=
  ∃ who fresh lifetime,
    (who, .answered (.replaceSession identity value fresh lifetime) true) ∈ history

/-- The session of an identity stands beyond an instant, and holds a value for as long as the
value is not swapped; whoever does not find it so comes after the swap. -/
structure Stands (world : World) (identity : UserId) (value : String) (bound : Instant)
    (segment : List (ι × Moment)) : Prop where
  session : ∃ session, world.sessions.get? identity = some session ∧
    bound ≤ session.expiresAt ∧ (session.refreshToken = value ∨ HasSwap identity value segment)
  found : ∀ who session?, (who, .answered (.readSession identity) session?) ∈ segment →
    ∃ session, session? = some session ∧
      (session.refreshToken = value ∨ HasSwap identity value segment)
  lost : ∀ who fresh lifetime,
    (who, .answered (.replaceSession identity value fresh lifetime) false) ∈ segment →
    HasSwap identity value segment

section Stands

variable {world after : World} {identity : UserId} {bound : Instant} {segment : List (ι × Moment)}

/-- A swap that changes a session has been answered with success. -/
theorem answered_of_change {owner : UserId} {expected fresh : String} {lifetime : Duration}
    {result : Reply Bool} {change : UserId × Option String}
    (changes : (Moment.mk (.store (.replaceSession owner expected fresh lifetime)) result).change =
      some change) : result = .answered true := by
  cases result with
  | answered replaced =>
    cases replaced with
    | true => rfl
    | false => cases changes
  | failed error => cases changes
  | timedOut => cases changes

theorem HasSwap.cons (swap : HasSwap identity value segment) (event : ι × Moment) :
    HasSwap identity value (event :: segment) := by
  obtain ⟨who, fresh, lifetime, member⟩ := swap
  exact ⟨who, fresh, lifetime, List.mem_cons_of_mem event member⟩

namespace Stands

variable (stands : Stands world identity value bound segment) (before : world.clock < bound)
include stands before

/-- Before the bound, the session is live. -/
theorem live : ∃ session, world.sessions.liveAt world.clock identity = some session ∧
    bound ≤ session.expiresAt ∧ (session.refreshToken = value ∨ HasSwap identity value segment) := by
  obtain ⟨session, held, late, holds⟩ := stands.session
  refine ⟨session, ?_, late, holds⟩
  exact Store.Sessions.liveAt_eq_some_iff.2 ⟨held, Int.lt_of_lt_of_le before late⟩

/-- Where the stores have lost no session but lapsed ones, the session stands on. -/
theorem move (kept : Keeps world after) : Stands after identity value bound segment := by
  refine ⟨?_, stands.found, stands.lost⟩
  obtain ⟨session, live, late, holds⟩ := stands.live before
  refine ⟨session, ?_, late, holds⟩
  rcases kept identity with same | same
  · exact same.trans (Store.Sessions.liveAt_eq_some_iff.1 live).1
  · exact same.trans live

variable {action : Action} {result : action.Result}
  (yields : world.Yields ⟨action, result⟩ after)
include yields

theorem act_session {call : Call} {past : List Moment} (guard : call.Guard service past action)
    (early : bound ≤ service.codec.refreshLifetime.after world.clock)
    (undisturbed : ¬ Disturbs identity action) :
    ∃ session, after.sessions.get? identity = some session ∧ bound ≤ session.expiresAt ∧
      (session.refreshToken = value ∨
        HasSwap identity value ((who, ⟨action, result⟩) :: segment)) := by
  obtain ⟨session, live, late, holds⟩ := stands.live before
  have held := (Store.Sessions.liveAt_eq_some_iff.1 live).1
  have holds := holds.imp_right fun swap => swap.cons (who, ⟨action, result⟩)
  cases yields.affects with
  | @writes owner fresh lifetime stored changes act holdsFresh lapse sessions =>
    rw [sessions]
    by_cases same : identity = owner
    · subst same
      rw [if_pos rfl]
      rcases act with rfl | ⟨old, oldLive, rfl⟩
      · exact absurd rfl undisturbed
      · obtain rfl := Option.some.inj (live.symm.trans oldLive)
        obtain rfl := guard.2.2.1
        refine ⟨stored, rfl, by rwa [lapse], Or.inr ?_⟩
        rcases holds with rfl | swap
        · refine ⟨who, fresh, service.codec.refreshLifetime, ?_⟩
          rw [answered_of_change changes]
          exact List.mem_cons_self
        · exact swap
    · rw [if_neg same]
      exact ⟨session, held, late, holds⟩
  | @deletes owner changes act sessions =>
    have differs : identity ≠ owner := by
      rintro rfl
      cases act
      exact undisturbed rfl
    rw [sessions, if_neg differs]
    exact ⟨session, held, late, holds⟩
  | keeps changes kept =>
    refine ⟨session, ?_, late, holds⟩
    rcases kept identity with same | same
    · exact same.trans held
    · exact same.trans live

/-- Whoever reads the session finds it standing. -/
theorem act_found {session? : Option Session}
    (read : Moment.mk action result = .answered (.readSession identity) session?) :
    ∃ session, session? = some session ∧
      (session.refreshToken = value ∨ HasSwap identity value segment) := by
  obtain ⟨session, live, _, holds⟩ := stands.live before
  cases read
  cases yields with
  | unanswered without => exact absurd rfl (without _)
  | done acted =>
    have answer : (world.sessions.read world.clock identity).1 = session? := by
      cases acted
      rfl
    rw [Store.Sessions.read_fst, live] at answer
    exact ⟨session, answer.symm, holds⟩

/-- Whoever finds another value in the place of the one to swap comes after the swap. -/
theorem act_lost {fresh : String} {lifetime : Duration}
    (kept : Moment.mk action result =
      .answered (.replaceSession identity value fresh lifetime) false) :
    HasSwap identity value segment := by
  obtain ⟨session, live, _, holds⟩ := stands.live before
  cases kept
  cases yields with
  | unanswered without => exact absurd rfl (without _)
  | done acted =>
    rw [World.perform, World.performCall] at acted
    cases answered : world.sessions.replace world.clock identity value fresh lifetime with
    | error fault =>
      rw [answered] at acted
      cases fault <;> cases acted
    | ok outcome =>
      obtain ⟨replaced, store⟩ := outcome
      rw [answered] at acted
      cases acted
      rcases Store.Sessions.replace_eq_ok answered with ⟨done, _⟩ | ⟨_, differs, _⟩
      · cases done
      · exact holds.resolve_left (differs session live)

/-- An action after which the session stands on. -/
theorem act {call : Call} {past : List Moment} (guard : call.Guard service past action)
    (early : bound ≤ service.codec.refreshLifetime.after world.clock)
    (undisturbed : ¬ Disturbs identity action) :
    Stands after identity value bound ((who, ⟨action, result⟩) :: segment) where
  session := stands.act_session before yields guard early undisturbed
  found reader session? member := by
    rcases List.mem_cons.1 member with now | earlier
    · obtain ⟨session, answer, holds⟩ := stands.act_found before yields (Prod.mk.inj now).2.symm
      exact ⟨session, answer, holds.imp_right fun swap => swap.cons _⟩
    · obtain ⟨session, answer, holds⟩ := stands.found reader session? earlier
      exact ⟨session, answer, holds.imp_right fun swap => swap.cons _⟩
  lost loser fresh lifetime member := by
    rcases List.mem_cons.1 member with now | earlier
    · exact (stands.act_lost before yields (Prod.mk.inj now).2.symm).cons _
    · exact (stands.lost loser fresh lifetime earlier).cons _

end Stands

end Stands

/-! ## Calls that consume a value -/

variable [DecidableEq ι] {calls : ι → Call} {crowd : Crowd calls}

/-- A value was the last one written for an identity, and then was overwritten or deleted. -/
def WasRemoved (identity : UserId) (value : String) (history : List (ι × Moment)) : Prop :=
  ∃ newer who moment older change, history = newer ++ (who, moment) :: older ∧
    moment.change = some (identity, change) ∧ lastValue identity older = some value

/-- A call has consumed a value: in its one attempt to write a session it has swapped the value for
another, when the value was the last one written for the identity that it names and had never been
overwritten or deleted. -/
def Consumes (service : Service) (crowd : Crowd calls) (who : ι) (value : String) : Prop :=
  ∃ newer older identity fresh lifetime,
    crowd.history =
      newer ++ (who, .answered (.replaceSession identity value fresh lifetime) true) :: older ∧
    (∀ moment, (who, moment) ∈ newer ++ older → ¬ moment.action.WritesSession) ∧
    service.HasVerified (own who older) identity value ∧
    lastValue identity older = some value ∧ ¬ WasRemoved identity value older

namespace Sound

variable (sound : crowd.Sound service) {identity other : UserId} {fresh renewed : String}
  {lifetime span : Duration} {replaced : Bool} {newer older : List (ι × Moment)}
include sound

theorem split {moment : Moment} (split : crowd.history = newer ++ (who, moment) :: older) :
    (calls who).Guard service (own who older) moment.action ∧
      ∀ owner expected value lifetime,
        moment = .answered (.replaceSession owner expected value lifetime) true →
        lastValue owner older = some expected := by
  have faithful := sound.faithful
  rw [split] at faithful
  exact faithful.split

/-- A value that has been removed is never again the last one written. -/
theorem lastValue_ne_of_wasRemoved (split : crowd.history = newer ++ older)
    (removed : WasRemoved identity value older) : lastValue identity older ≠ some value := by
  obtain ⟨between, who, moment, before, change, rfl, changes, last⟩ := removed
  have once := sound.once
  rw [split, written, List.filterMap_append] at once
  exact lastValue_ne_of_change (List.nodup_append.1 once).2.1 changes last

/-- Whoever swaps a value presents it, and has verified it. -/
theorem swap_verified (member :
    (who, .answered (.replaceSession identity value fresh lifetime) replaced) ∈ crowd.history) :
    (calls who).Presents value ∧ service.HasVerified (own who crowd.history) identity value := by
  obtain ⟨newer, older, split⟩ := List.append_of_mem member
  obtain ⟨⟨_, _, _, presents, verified⟩, _⟩ := sound.split split
  refine ⟨presents, ?_⟩
  rw [split, own_append, own_cons_self, List.append_cons]
  exact verified.append _

/-- A value is swapped once. -/
theorem not_mem_of_swapped
    (split : crowd.history =
      newer ++ (second, .answered (.replaceSession identity value fresh lifetime) true) :: older) :
    (first, .answered (.replaceSession other value renewed span) true) ∉ older := by
  intro member
  have swapped : (second, .answered (.replaceSession identity value fresh lifetime) true) ∈
      crowd.history := by
    rw [split]
    exact List.mem_append_right newer List.mem_cons_self
  have swappedBefore : (first, .answered (.replaceSession other value renewed span) true) ∈
      crowd.history := by
    rw [split]
    exact List.mem_append_right newer (List.mem_cons_of_mem _ member)
  obtain rfl := (sound.swap_verified swapped).2.unique (sound.swap_verified swappedBefore).2
  obtain ⟨between, before, rfl⟩ := List.append_of_mem member
  have last := (sound.split split).2 _ _ _ _ rfl
  rw [List.append_cons, ← List.append_assoc] at split
  have lastBefore := (sound.split split).2 _ _ _ _ rfl
  rw [List.append_assoc] at split
  refine sound.lastValue_ne_of_wasRemoved split ?_ last
  exact ⟨between, first, _, before, some renewed, rfl, rfl, lastBefore⟩

/-- A reissue that has succeeded has swapped its value. -/
theorem swapped_of_hasSucceeded (presents : (calls who).Presents value)
    (succeeded : crowd.HasSucceeded who) :
    ∃ identity fresh lifetime,
      (who, .answered (.replaceSession identity value fresh lifetime) true) ∈ crowd.history := by
  obtain ⟨answer, ended⟩ := succeeded
  obtain ⟨fresh, identity, lifetime, member⟩ := (sound.meets who _ ended).swapped presents
  exact ⟨identity, fresh, lifetime, mem_own.1 member⟩

/-- Two reissues of one value do not both succeed. -/
theorem eq_of_hasSucceeded (presentsFirst : (calls first).Presents value)
    (succeededFirst : crowd.HasSucceeded first) (presentsSecond : (calls second).Presents value)
    (succeededSecond : crowd.HasSucceeded second) : first = second := by
  obtain ⟨_, _, _, swappedFirst⟩ := sound.swapped_of_hasSucceeded presentsFirst succeededFirst
  obtain ⟨_, _, _, swappedSecond⟩ := sound.swapped_of_hasSucceeded presentsSecond succeededSecond
  obtain ⟨newer, older, split⟩ := List.append_of_mem swappedSecond
  rw [split] at swappedFirst
  rcases List.mem_append.1 swappedFirst |>.imp_right List.mem_cons.1 with late | same | early
  · obtain ⟨last, between, rfl⟩ := List.append_of_mem late
    rw [List.append_assoc, List.cons_append] at split
    exact (sound.not_mem_of_swapped split (List.mem_append_right between List.mem_cons_self)).elim
  · exact (Prod.mk.inj same).1
  · exact (sound.not_mem_of_swapped split early).elim

/-- A reissue that has succeeded has consumed its value. -/
theorem consumes_of_hasSucceeded (presents : (calls who).Presents value)
    (succeeded : crowd.HasSucceeded who) : Consumes service crowd who value := by
  obtain ⟨identity, fresh, lifetime, member⟩ := sound.swapped_of_hasSucceeded presents succeeded
  obtain ⟨newer, older, split⟩ := List.append_of_mem member
  obtain ⟨⟨_, unwritten, _, _, verified⟩, swap⟩ := sound.split split
  have last := swap _ _ _ _ rfl
  refine ⟨newer, older, identity, fresh, lifetime, split, ?_, verified, last, ?_⟩
  · intro moment happened writes
    rcases List.mem_append.1 happened with late | early
    · obtain ⟨later, between, rfl⟩ := List.append_of_mem late
      rw [List.append_assoc, List.cons_append] at split
      have before := Call.hasNotWritten_of_guard (sound.split split).1 writes
      exact before _ (mem_own.2 (List.mem_append_right between List.mem_cons_self)) trivial
    · exact unwritten moment (mem_own.2 early) writes
  · intro removed
    rw [List.append_cons] at split
    exact sound.lastValue_ne_of_wasRemoved split removed last

end Sound

/-! ## Contests -/

section Contests

variable {start finish : Crowd calls} {identity : UserId} {bound : Instant}

/-- What is done from a crowd on is done by the calls under way in it; and while nothing disturbs
the session of an identity, and its bound is not reached, it stands. -/
theorem Steps.exists_segment (reached : Reached service calls start) (steps : Steps start crowd)
    (early : bound ≤ service.codec.refreshLifetime.after start.world.clock)
    (stands : Stands start.world identity value bound ([] : List (ι × Moment))) :
    ∃ segment, crowd.history = segment ++ start.history ∧
      (∀ event ∈ segment, start.IsUnderWay event.1) ∧ start.world.clock ≤ crowd.world.clock ∧
      (crowd.world.clock < bound → (∀ event ∈ segment, ¬ Disturbs identity event.2.action) →
        Stands crowd.world identity value bound segment) := by
  induction steps with
  | refl => exact ⟨[], rfl, List.forall_mem_nil _, Int.le_refl _, fun _ _ => stands⟩
  | @tail crowd next steps step ih =>
    obtain ⟨segment, history, underWay, ordered, standsUntil⟩ := ih
    have sound := (reached.steps steps).sound
    have later := step.clock_le
    cases step with
    | @act who action follow result after rest yields =>
      refine ⟨(who, ⟨action, result⟩) :: segment, congrArg _ history, ?_,
        Int.le_trans ordered later, ?_⟩
      · intro event member
        rcases List.mem_cons.1 member with rfl | earlier
        · by_contra idle
          exact idle ⟨action, follow, (Steps.rest_eq steps idle).symm.trans rest⟩
        · exact underWay event earlier
      · intro before undisturbed
        have before := Int.lt_of_le_of_lt later before
        have stood := standsUntil before fun event member =>
          undisturbed event (List.mem_cons_of_mem _ member)
        have early := Int.le_trans early (Int.add_le_add_right ordered _)
        exact stood.act before yields (sound.meets who _ rest).1 early
          (undisturbed _ List.mem_cons_self)
    | breakOff _ => exact ⟨segment, history, underWay, ordered, standsUntil⟩
    | sweep =>
      refine ⟨segment, history, underWay, ordered, ?_⟩
      intro before undisturbed
      apply (standsUntil before undisturbed).move before
      intro other
      exact Or.inr Store.Sessions.get?_purge
    | wait _ _ =>
      refine ⟨segment, history, underWay, Int.le_trans ordered later, ?_⟩
      intro before undisturbed
      have before := Int.lt_of_le_of_lt later before
      exact (standsUntil before undisturbed).move before (keeps_of_eq rfl)

/-- A call contends for a value from one crowd to another: it presents the value, and begins in
between. -/
def Contends (start finish : Crowd calls) (value : String) (who : ι) : Prop :=
  (calls who).Presents value ∧ ¬ start.HasBegun who ∧ finish.HasBegun who

/-- Reissues contend for the value of an identity. -/
structure Contest (service : Service) (start finish : Crowd calls) (identity : UserId)
    (value : String) : Prop where
  steps : Steps start finish
  /-- At the start, the value is the current one of the identity. -/
  current : ∃ session, start.world.sessions.liveAt start.world.clock identity = some session ∧
    session.refreshToken = value
  /-- The value has not expired at the finish. -/
  unexpired : ∃ claims, service.codec.verifyKind finish.world.clock value .refresh = .ok claims
  /-- No login writes and no logout deletes the session of the identity in between. -/
  undisturbed : ∀ segment, finish.history = segment ++ start.history →
    ∀ event ∈ segment, ¬ Disturbs identity event.2.action
  /-- No reissue of the value is under way at the start. -/
  apart : ∀ who, (calls who).Presents value → start.HasBegun who → ¬ start.IsUnderWay who
  entered : ∃ who, Contends start finish value who
  /-- Every contender has ended, was admitted by the limiter and met no failing store. -/
  ended : ∀ who, Contends start finish value who → ∃ outcome,
    finish.rest who = some (.done outcome) ∧
      ∀ failure, outcome = .error failure → ¬ IsHindrance failure

/-- A contender succeeds, or is told that its value is not the current one; in both cases there
has been a swap. -/
theorem Contest.outcome (contest : Contest service start finish identity value)
    (startSound : start.Sound service) (sound : finish.Sound service)
    {segment : List (ι × Moment)} (split : finish.history = segment ++ start.history)
    (stands : Stands finish.world identity value bound segment)
    (contends : Contends start finish value who) :
    HasSwap identity value segment ∧
      (finish.HasSucceeded who ∨ finish.HasFailed who (.rejected .refreshMismatch)) := by
  obtain ⟨session, live, rfl⟩ := contest.current
  have accounts := startSound.accounts identity session
    (Store.Sessions.liveAt_eq_some_iff.1 live).1
  obtain ⟨presents, unbegun, _⟩ := contends
  have inSegment {moment : Moment} (member : moment ∈ own who finish.history) :
      (who, moment) ∈ segment := by
    rw [mem_own, split] at member
    exact (List.mem_append.1 member).resolve_right fun early => unbegun ⟨moment, early⟩
  have named {owner : UserId}
      (verified : service.HasVerified (own who finish.history) owner session.refreshToken) :
      owner = identity := by
    obtain ⟨_, claims, _, accepted, rfl⟩ := verified
    exact (accounts.of_verified accepted).1
  obtain ⟨outcome, rest, unhindered⟩ := contest.ended who ⟨presents, unbegun, ‹_›⟩
  cases outcome with
  | ok answer =>
    obtain ⟨owner, fresh, lifetime, swapped⟩ := sound.swapped_of_hasSucceeded presents ⟨answer, rest⟩
    obtain rfl := named (sound.swap_verified swapped).2
    exact ⟨⟨who, fresh, lifetime, inSegment (mem_own.2 swapped)⟩, Or.inl ⟨answer, rest⟩⟩
  | error failure =>
    obtain ⟨cause, _⟩ := (sound.meets who _ rest).failed presents
    cases cause with
    | hindered hindrance => exact absurd hindrance (unhindered _ rfl)
    | unissued cannot => exact absurd accounts.issues cannot
    | unverified read turnedDown =>
      obtain ⟨claims, accepted⟩ := contest.unexpired
      have earlier := (sound.readings who _ (mem_own.1 read)).2
      rw [Codec.verifyKind_of_le earlier accepted] at turnedDown
      cases turnedDown
    | absent verified found =>
      obtain rfl := named verified
      obtain ⟨_, absurdity, _⟩ := stands.found who _ (inSegment found)
      cases absurdity
    | stale verified found differs =>
      obtain rfl := named verified
      obtain ⟨_, same, holds⟩ := stands.found who _ (inSegment found)
      obtain rfl := Option.some.inj same
      exact ⟨holds.resolve_left differs, Or.inr rest⟩
    | lost verified kept =>
      obtain rfl := named verified
      exact ⟨stands.lost who _ _ (inSegment kept), Or.inr rest⟩

/-- One contender succeeds, and all others are told that their value is not the current one. -/
theorem Contest.exists_winner (contest : Contest service start finish identity value)
    (reached : Reached service calls start) :
    ∃ winner, Contends start finish value winner ∧ finish.HasSucceeded winner ∧
      ∀ other, Contends start finish value other → other ≠ winner →
        finish.HasFailed other (.rejected .refreshMismatch) := by
  have startSound := reached.sound
  have sound := (reached.steps contest.steps).sound
  obtain ⟨session, live, holds⟩ := contest.current
  obtain ⟨held, _⟩ := Store.Sessions.liveAt_eq_some_iff.1 live
  have accounts := startSound.accounts identity session held
  obtain ⟨claims, accepted⟩ := contest.unexpired
  rw [← holds] at accepted
  obtain ⟨named, before⟩ := accounts.of_verified accepted
  have standsAtStart : Stands start.world identity value session.expiresAt
      ([] : List (ι × Moment)) :=
    ⟨⟨session, held, Int.le_refl _, Or.inl holds⟩, fun _ _ member => (List.not_mem_nil member).elim,
      fun _ _ _ member => (List.not_mem_nil member).elim⟩
  obtain ⟨segment, split, underWay, _, standsUntil⟩ :=
    Steps.exists_segment reached contest.steps accounts.lapse standsAtStart
  have stands := standsUntil before (contest.undisturbed segment split)
  have outcome {who : ι} (contends : Contends start finish value who) :=
    contest.outcome startSound sound split stands contends
  obtain ⟨first, contendsFirst⟩ := contest.entered
  obtain ⟨winner, fresh, lifetime, swapped⟩ := (outcome contendsFirst).1
  have happened : (winner, .answered (.replaceSession identity value fresh lifetime) true) ∈
      finish.history := by
    rw [split]
    exact List.mem_append_left _ swapped
  have presents := (sound.swap_verified happened).1
  have contends : Contends start finish value winner :=
    ⟨presents, fun begun => contest.apart winner presents begun (underWay _ swapped), _, happened⟩
  have succeeded : finish.HasSucceeded winner := by
    apply (outcome contends).2.resolve_right
    intro failed
    exact ((sound.meets winner _ failed).failed presents).2 fresh
      ⟨identity, lifetime, mem_own.2 happened⟩
  refine ⟨winner, contends, succeeded, ?_⟩
  intro other contendsOther differs
  apply (outcome contendsOther).2.resolve_left
  intro succeededOther
  exact differs (sound.eq_of_hasSucceeded contendsOther.1 succeededOther presents succeeded)

end Contests

/-- **A refresh value is consumed at most once.**  In every crowd of calls that is reached from a
fresh world by any steps, at most one reissue of a value succeeds.  A reissue that succeeds has
swapped the value when it was current and had never been overwritten or deleted.  And where at
least one reissue contends for the current value of an identity, all contenders are admitted and
meet no failing store, the value does not expire and no login or logout of the identity
interferes, exactly one contender succeeds and all others fail because their value is not the
current one. -/
theorem Reached.consumed_once (reached : Reached service calls crowd) (value : String) :
    (∀ first second, (calls first).Presents value → crowd.HasSucceeded first →
      (calls second).Presents value → crowd.HasSucceeded second → first = second) ∧
    (∀ who, (calls who).Presents value → crowd.HasSucceeded who →
      Consumes service crowd who value) ∧
    ∀ start identity, Reached service calls start → Contest service start crowd identity value →
      ∃ winner, Contends start crowd value winner ∧ crowd.HasSucceeded winner ∧
        ∀ other, Contends start crowd value other → other ≠ winner →
          crowd.HasFailed other (.rejected .refreshMismatch) := by
  have sound := reached.sound
  refine ⟨?_, ?_, ?_⟩
  · intro first second presentsFirst succeededFirst presentsSecond succeededSecond
    exact sound.eq_of_hasSucceeded presentsFirst succeededFirst presentsSecond succeededSecond
  · intro who presents succeeded
    exact sound.consumes_of_hasSucceeded presents succeeded
  · intro start identity reachedStart contest
    exact contest.exists_winner reachedStart

end Crowd

/-! ## A contest after a first login -/

/-- A reissue reads the clock first. -/
theorem Service.exists_next_reissue (service : Service) (context : Context) (presented : String) :
    ∃ next, (service.reissue context presented).run = .perform .readClock next :=
  ⟨_, rfl⟩

/-- A program that reads the clock goes on with what it shows. -/
theorem run_readClock {α : Type} (next : Instant → Program α) (world : World) :
    (Program.perform .readClock next).run World.perform world =
      (next world.clock).run World.perform world := rfl

/-- A run goes on with a reissue. -/
theorem Run.reissue {service : Service} {past : List Deed} {world after : World}
    (run : Run service past world) {context : Context} {presented : String}
    {outcome : Except CalendarEnd (Except Failure TokenPair)}
    (ran : (service.reissue context presented).on world = (outcome, after)) :
    Run service ((Call.reissue context presented).deed service world :: past) after := by
  have step := run.call (.reissue context presented)
  rwa [Call.after, Call.operation, ran] at step

namespace Sample

/-- A first login, and two reissues of the value that it hands out. -/
def calls : Option Bool → Call
  | none => .login nobody identity
  | some _ => .reissue nobody pair.refreshToken

/-- The crowd in which none has begun. -/
def idle : Crowd calls :=
  .initial service calls (fun _ => []) world

theorem reached_idle : Crowd.Reached service calls idle :=
  .start _ isFresh_world injective_tokenIds

theorem presents_calls (contender : Bool) : (calls (some contender)).Presents pair.refreshToken :=
  trim_pair

/-- The login can run to its end before the reissues begin. -/
theorem exists_afterLogin :
    ∃ start : Crowd calls, Crowd.Reached service calls start ∧ start.world = loggedIn ∧
      ∀ contender, start.rest (some contender) =
          some (service.reissue nobody pair.refreshToken).run ∧
        ¬ start.HasBegun (some contender) := by
  have rest : idle.rest none = some (service.login nobody identity).run := rfl
  have ran : (service.login nobody identity).run.run World.perform idle.world =
      (.ok (.ok pair), loggedIn) := rfl
  have only : (service.login nobody identity).Only fun _ => True :=
    only_of_forall (fun _ => trivial) _
  obtain ⟨start, events, steps, world, _, others, history, owned⟩ :=
    Crowd.steps_alone rest ran only
  refine ⟨start, reached_idle.steps steps, world, fun contender => ⟨others _ nofun, ?_⟩⟩
  exact Crowd.not_hasBegun_of_alone history (fun event alone => (owned event alone).1) nofun
    Crowd.not_hasBegun_initial

/-- The login leaves a live session that holds the value it handed out. -/
theorem exists_live : ∃ session,
    loggedIn.sessions.liveAt loggedIn.clock identity = some session ∧
      session.refreshToken = pair.refreshToken := by
  have holds := run_login.holds identity
  rw [currentValue_login] at holds
  exact holds.live verifyKind_pair

theorem userId_pair : (service.refreshClaims world.clock identity "1").userId = identity := rfl

/-- The limit of reissues leaves room for a second one. -/
theorem admits_afterReissue {outcome : Except CalendarEnd (Except Failure TokenPair)} {after : World}
    (ran : (service.reissue nobody pair.refreshToken).on loggedIn = (outcome, after)) :
    service.admits .reissue identity after = true := by
  let counted : World :=
    { loggedIn with
      keyValue := loggedIn.keyValue.insert (windowKey .reissue identity)
        ⟨.counter 1, .ofSeconds 1700000060⟩ }
  have enforced : (service.enforce (nobody.withActor identity) .reissue identity).on loggedIn =
      (.ok (.ok ()), counted) := rfl
  have counts : counted.keyValue.liveAt loggedIn.clock (windowKey .reissue identity) =
      some ⟨.counter 1, .ofSeconds 1700000060⟩ := rfl
  have live := (keepsKey_reissue verifyKind_pair enforced (windowKey .reissue identity)).liveAt
  rw [ran] at live
  have live := live.trans counts
  rw [← clock_of_on ran] at live
  have limited : service.limits.limitOf .reissue = some ⟨5, 60⟩ := rfl
  simp only [admits, limited, Store.KeyValue.count_of_live live]
  rfl

/-- After a reissue, another one of the same value ends, and is not turned down by the limiter or a
store. -/
theorem exists_unhindered {outcome : Except CalendarEnd (Except Failure TokenPair)} {after : World}
    (ran : (service.reissue nobody pair.refreshToken).on loggedIn = (outcome, after)) :
    ∃ answer last, (service.reissue nobody pair.refreshToken).on after = (.ok answer, last) ∧
      ∀ failure, answer = .error failure → ¬ IsHindrance failure := by
  have run := run_login.reissue ran
  have clock := clock_of_on ran
  have fits : service.FitsAt after.clock := by
    rw [clock]
    exact fitsAt_loggedIn
  rcases run.on_reissue fits nobody pair.refreshToken with
    ⟨failure, cause, done, _⟩ | ⟨_, _, fresh, _, _, _, done, _⟩
  · refine ⟨_, _, on_eq_of_fst done, ?_⟩
    rintro _ ⟨rfl⟩
    rw [reissueFailure?, clock, trim_pair, verifyKind_pair] at cause
    dsimp only at cause
    rw [userId_pair] at cause
    split_ifs at cause with refused absent other
    · rw [admits_afterReissue ran] at refused
      cases refused
    · cases cause
      exact id
    · cases cause
      exact id
  · exact ⟨_, _, on_eq_of_fst done, nofun⟩

/-- The actions of a reissue disturb no session. -/
theorem only_undisturbing : (service.reissue nobody pair.refreshToken).Only
    fun action => ¬ Crowd.Disturbs identity action :=
  only_reissue ⟨id, id, fun _ => id, fun _ _ => id⟩ (fun _ => id) fun _ _ => id

/-- After the first login, both reissues begin and end, and the first contender succeeds. -/
structure Race (start finish : Crowd calls) : Prop where
  reached : Crowd.Reached service calls start
  world : start.world = loggedIn
  unbegun : ∀ contender, ¬ start.HasBegun (some contender)
  steps : Crowd.Steps start finish
  clock : finish.world.clock = loggedIn.clock
  segment : ∃ segment, finish.history = segment ++ start.history ∧
    (some true, ⟨.readClock, loggedIn.clock⟩) ∈ segment ∧
    ∀ event ∈ segment, ¬ Crowd.Disturbs identity event.2.action
  first : finish.HasSucceeded (some false)
  second : ∃ outcome, finish.rest (some true) = some (.done outcome) ∧
    ∀ failure, outcome = .error failure → ¬ IsHindrance failure

/-- The second contender begins first, and comes to its end after the first one has come to its. -/
theorem exists_race : ∃ start finish, Race start finish := by
  obtain ⟨start, reached, world, ready⟩ := exists_afterLogin
  obtain ⟨next, program⟩ := service.exists_next_reissue nobody pair.refreshToken
  obtain ⟨fresh, after, ran⟩ := reissue_succeeds
  obtain ⟨answer, last, ranAgain, unhindered⟩ := exists_unhindered ran
  have clock : after.clock = loggedIn.clock := clock_of_on ran
  have clockAgain : last.clock = loggedIn.clock := (clock_of_on ranAgain).trans clock
  have apart : some false ≠ some true := by decide
  obtain ⟨begun, begins, worldBegun, leftBegun, othersBegun, historyBegun⟩ :=
    Crowd.exists_step_readClock ((ready true).1.trans (congrArg some program))
  rw [world] at worldBegun leftBegun historyBegun
  -- The first contender runs to its end.
  have rest : begun.rest (some false) = some (service.reissue nobody pair.refreshToken).run :=
    (othersBegun _ apart).trans (ready false).1
  rw [← worldBegun] at ran
  obtain ⟨middle, events, steps, worldMiddle, ended, others, history, owned⟩ :=
    Crowd.steps_alone rest ran only_undisturbing
  -- The second one goes on where it stopped.
  have left : middle.rest (some true) = some (next loggedIn.clock) :=
    (others _ apart.symm).trans leftBegun
  have goesOn : (next loggedIn.clock).run World.perform middle.world = (.ok answer, last) := by
    rw [on, program, run_readClock, clock] at ranAgain
    rw [worldMiddle, ranAgain]
  have only : (next loggedIn.clock).Only fun action => ¬ Crowd.Disturbs identity action := by
    have whole := only_undisturbing
    rw [Operation.Only, program] at whole
    exact .of_meets ((whole []).2 _)
  obtain ⟨finish, further, moreSteps, worldFinish, endedToo, othersToo, historyToo, ownedToo⟩ :=
    Crowd.steps_alone left goesOn only
  refine ⟨start, finish, reached, world, fun contender => (ready contender).2,
    .head begins (steps.trans moreSteps), by rw [worldFinish, clockAgain],
    ⟨further ++ events ++ [(some true, ⟨.readClock, loggedIn.clock⟩)], ?_, by simp, ?_⟩,
    ⟨fresh, (othersToo _ apart).trans ended⟩, answer, endedToo, unhindered⟩
  · simp [historyToo, history, historyBegun]
  · intro event member
    simp only [List.mem_append, List.mem_singleton] at member
    rcases member with (late | early) | rfl
    · exact (ownedToo event late).2
    · exact (owned event early).2
    · exact id

namespace Race

variable {start finish : Crowd calls} (race : Race start finish)
include race

theorem contends (contender : Bool) :
    Crowd.Contends start finish pair.refreshToken (some contender) := by
  refine ⟨presents_calls contender, race.unbegun contender, ?_⟩
  cases contender with
  | true =>
    obtain ⟨segment, split, begins, _⟩ := race.segment
    exact ⟨_, split ▸ List.mem_append_left _ begins⟩
  | false =>
    have sound := (race.reached.steps race.steps).sound
    obtain ⟨_, _, _, swapped⟩ := sound.swapped_of_hasSucceeded (presents_calls false) race.first
    exact ⟨_, swapped⟩

theorem contest : Crowd.Contest service start finish identity pair.refreshToken where
  steps := race.steps
  current := by
    rw [race.world]
    exact exists_live
  unexpired := by
    rw [race.clock]
    exact ⟨_, verifyKind_pair⟩
  undisturbed := by
    obtain ⟨whole, split, _, undisturbed⟩ := race.segment
    intro segment divided
    rw [split] at divided
    obtain rfl := List.append_cancel_right divided
    exact undisturbed
  apart := by
    rintro (_ | contender) presents begun
    · exact presents.elim
    · exact absurd begun (race.unbegun contender)
  entered := ⟨_, race.contends true⟩
  ended := by
    rintro (_ | _ | _) contends
    · exact contends.1.elim
    · obtain ⟨fresh, succeeded⟩ := race.first
      exact ⟨_, succeeded, nofun⟩
    · exact race.second

end Race

end Sample

/-- Of two reissues that contend for a value after a first login, one wins, and the other one is told
that the value is not the current one. -/
theorem Crowd.Reached.consumed_once_afterLogin :
    ∃ (start finish : Crowd Sample.calls) (winner loser : Bool),
      Contest Sample.service start finish Sample.identity Sample.pair.refreshToken ∧
      winner ≠ loser ∧
      Contends start finish Sample.pair.refreshToken (some winner) ∧
      Contends start finish Sample.pair.refreshToken (some loser) ∧
      finish.HasSucceeded (some winner) ∧
      Consumes Sample.service finish (some winner) Sample.pair.refreshToken ∧
      finish.HasFailed (some loser) (.rejected .refreshMismatch) := by
  obtain ⟨start, finish, race⟩ := Sample.exists_race
  obtain ⟨_, consumes, winner⟩ := (race.reached.steps race.steps).consumed_once
    Sample.pair.refreshToken
  obtain ⟨_ | winner, contends, won, lost⟩ :=
    winner start Sample.identity race.reached race.contest
  · exact contends.1.elim
  · refine ⟨start, finish, winner, !winner, race.contest, ?_, contends, race.contends _, won,
      consumes _ contends.1 won, lost _ (race.contends _) ?_⟩
    · cases winner <;> decide
    · cases winner <;> decide

end SignOn.Engine
