import SignOn.Proofs.Engine.Crowd
import SignOn.Proofs.Engine.Endings
import SignOn.Proofs.Engine.Resolving

/-!
# Resolvers side by side

Any number of logins at providers are resolved at once on one world, each by a resolver of its own.
A step is a single action of one resolver, or the passing of time.  A resolver reads the clock, looks
its account up and saves a record (`ResolveGuard`); what it saves is made of what it has
found before, whatever has been saved since.  So its steps in memory are of four kinds
(`Acts`), and every step of all of them is one of these or the passing of time
(`Resolvers.Reached.move`).

Which of them come to what their callbacks would come to one after another depends on what is saved
between a lookup and the save that it is for.  A resolver is disturbed if that is a record of its
account, or of the identity that it has found (`Resolvers.Undisturbed`).
-/

namespace SignOn.Engine

set_option autoImplicit false

open Operation Store

/-! ## The contract of a resolver -/

/-- The record to save for a callback at an instant, given the record that its account is found
with. -/
def recordOf (callback : Callback) (now : Instant) (existing : Option User) :
    Except Rejection User :=
  match Profile.ofPayload callback.provider callback.payload with
  | .ok profile => recordFor callback profile now existing
  | .error reason => .error reason

/-- A record is one of the instant at which it is made. -/
theorem lastLoginAt_of_recordOf {callback : Callback} {now : Instant} {existing : Option User}
    {user : User} (fit : recordOf callback now existing = .ok user) :
    user.lastLoginAt = .ofInstant now := by
  unfold recordOf at fit
  split at fit
  · unfold recordFor at fit
    split at fit
    · cases fit
      rfl
    · split at fit
      · cases fit
      · cases fit
        rfl
  · cases fit

/-- The lookup of the account of a callback. -/
abbrev lookup (callback : Callback) : StoreCall :=
  .findUser callback.provider callback.account

/-- What a resolver may do after what it has done, latest first. -/
inductive ResolveGuard (callback : Callback) : List Moment → Action → Prop where
  | reads : ResolveGuard callback [] .readClock
  | looksUp {now : Instant} : ResolveGuard callback [.clock now] (.store (lookup callback))
  | saves {now : Instant} {existing : Option User} {user : User}
      (fit : recordOf callback now existing = .ok user) :
      ResolveGuard callback [.answered (lookup callback) existing, .clock now]
        (.store (.saveUser user))

/-- What a resolver may have done, latest first, when it ends, and what it ends with. -/
inductive ResolveEnds (callback : Callback) : List Moment → Except Failure User → Prop where
  | unreadable {reason : Rejection} (unread : ∀ now existing,
      recordOf callback now existing = .error reason) :
      ResolveEnds callback [] (.error (.rejected reason))
  | unfit {now : Instant} {existing : Option User} {reason : Rejection}
      (unfit : recordOf callback now existing = .error reason) :
      ResolveEnds callback [.answered (lookup callback) existing, .clock now]
        (.error (.rejected reason))
  | saved {now : Instant} {existing : Option User} {user : User}
      (fit : recordOf callback now existing = .ok user) :
      ResolveEnds callback
        [.answered (.saveUser user) (), .answered (lookup callback) existing, .clock now] (.ok user)
  | unanswered {past : List Moment} {outcome : Except Failure User} (failed : ¬ AllAnswered past) :
      ResolveEnds callback past outcome

theorem meets_resolve (callback : Callback) :
    (resolve callback).Meets (ResolveGuard callback) (ResolveEnds callback) [] := by
  have unanswered {past : List Moment} {moment : Moment} {failure : Failure}
      (failed : moment.failure? = some failure) : ¬ AllAnswered (moment :: past) := by
    intro all
    rw [all moment List.mem_cons_self] at failed
    cases failed
  rw [resolve, meets_bind, meets_ofVerdict]
  cases parsed : Profile.ofPayload callback.provider callback.payload with
  | error reason =>
    refine .unreadable fun now existing => ?_
    rw [recordOf, parsed]
  | ok profile =>
    have recorded (now : Instant) (existing : Option User) :
        recordOf callback now existing = recordFor callback profile now existing := by
      rw [recordOf, parsed]
    dsimp only [Except.mapError]
    rw [meets_bind, meets_act]
    refine ⟨.reads, fun now => ?_⟩
    dsimp only
    rw [meets_bind, meets_call]
    refine ⟨.looksUp, fun reply => ?_⟩
    cases reply with
    | failed error => exact .unanswered (unanswered rfl)
    | timedOut => exact .unanswered (unanswered rfl)
    | answered existing =>
      dsimp only
      rw [meets_bind, meets_ofVerdict]
      cases made : recordFor callback profile now existing with
      | error reason => exact .unfit ((recorded now existing).trans made)
      | ok user =>
        dsimp only [Except.mapError]
        have fit := (recorded now existing).trans made
        rw [meets_bind]
        refine (meets_call _).2 ⟨.saves fit, fun reply => ?_⟩
        cases reply with
        | answered _ => exact .saved fit
        | failed error => exact .unanswered (unanswered rfl)
        | timedOut => exact .unanswered (unanswered rfl)

/-! ## What a resolver does in memory -/

/-- What a resolver does next in a world, after what it has done, latest first: the moment, the world
after it and the program that is left. -/
inductive Acts (callback : Callback) (world : World) :
    List Moment → Moment → World → Program (Except Failure User) → Prop where
  | reads {action : Action} {next : action.Result → Program (Except Failure User)} :
      Acts callback world [] (.clock world.clock) world (.perform action next)
  | finds {now : Instant} {action : Action} {next : action.Result → Program (Except Failure User)} :
      Acts callback world [.clock now]
        (.answered (lookup callback) (world.users.find? callback.provider callback.account)) world
        (.perform action next)
  | refuses {now : Instant} {reason : Rejection}
      (unfit : recordOf callback now (world.users.find? callback.provider callback.account) =
        .error reason) :
      Acts callback world [.clock now]
        (.answered (lookup callback) (world.users.find? callback.provider callback.account)) world
        (.done (.error (.rejected reason)))
  | saves {now : Instant} {existing : Option User} {user : User}
      (fit : recordOf callback now existing = .ok user) :
      Acts callback world [.answered (lookup callback) existing, .clock now]
        (.answered (.saveUser user) ()) { world with users := world.users.save user }
        (.done (.ok user))

theorem acts_of_perform {callback : Callback} {world after : World} {past : List Moment}
    {action : Action} {next : action.Result → Program (Except Failure User)} {result : action.Result}
    (answered : AllAnswered past)
    (meets : (Program.perform action next).Meets (ResolveGuard callback) (ResolveEnds callback) past)
    (acted : world.perform action = (.ok result, after)) :
    Acts callback world past ⟨action, result⟩ after (next result) := by
  obtain ⟨allowed, meets⟩ := meets
  have left := meets result
  cases allowed with
  | reads =>
    cases acted
    cases program : next world.clock with
    | perform action further => exact .reads
    | done outcome =>
      rw [program] at left
      cases left with
      | unanswered failed => exact absurd (answered.cons rfl) failed
  | looksUp =>
    cases acted
    cases program : next (.answered (world.users.find? callback.provider callback.account)) with
    | perform action further => exact .finds
    | done outcome =>
      rw [program] at left
      cases left with
      | unfit unfit => exact .refuses unfit
      | unanswered failed => exact absurd (answered.cons rfl) failed
  | saves fit =>
    cases acted
    cases program : next (.answered ()) with
    | perform action further =>
      rw [program] at left
      cases left.1
    | done outcome =>
      rw [program] at left
      cases left with
      | saved fit => exact .saves fit
      | unanswered failed => exact absurd (answered.cons rfl) failed

namespace Moment

/-- The clock is read. -/
def isReading : Moment → Bool
  | ⟨.readClock, _⟩ => true
  | _ => false

/-- An account is looked up. -/
def isLookup : Moment → Bool
  | ⟨.store (.findUser _ _), _⟩ => true
  | _ => false

/-- The record that is saved. -/
def saved? : Moment → Option User
  | ⟨.store (.saveUser user), _⟩ => some user
  | _ => none

end Moment

namespace Acts

variable {callback : Callback} {world after : World} {past : List Moment} {moment : Moment}
  {left : Program (Except Failure User)} (acts : Acts callback world past moment after left)
include acts

theorem answered : moment.failure? = none := by
  cases acts <;> rfl

theorem clock : after.clock = world.clock := by
  cases acts <;> rfl

theorem users_of_none (nothing : moment.saved? = none) : after.users = world.users := by
  cases acts with
  | saves fit => cases nothing
  | reads | finds | refuses => rfl

theorem users_of_some {user : User} (saves : moment.saved? = some user) :
    after.users = world.users.save user := by
  cases acts with
  | saves fit =>
    obtain rfl := Option.some.inj saves
    rfl
  | reads | finds | refuses => cases saves

theorem of_saves {user : User} (saves : moment.saved? = some user) :
    moment = .answered (.saveUser user) () ∧
      ∃ now existing, past = [.answered (lookup callback) existing, .clock now] ∧
        recordOf callback now existing = .ok user := by
  cases acts with
  | saves fit =>
    obtain rfl := Option.some.inj saves
    exact ⟨rfl, _, _, rfl, fit⟩
  | reads | finds | refuses => cases saves

theorem of_reads (reads : moment.isReading = true) :
    past = [] ∧ moment = .clock world.clock ∧ after = world := by
  cases acts with
  | reads => exact ⟨rfl, rfl, rfl⟩
  | finds | refuses | saves => cases reads

end Acts

/-! ## Histories -/

namespace Resolvers

section Histories

variable {ι : Type}

/-- The records that were saved in a history. -/
def saved (history : List (ι × Moment)) : List User :=
  history.filterMap fun event => event.2.saved?

/-- Every moment of a history meets a condition on who did it and what was done before. -/
def Always (condition : ι → Moment → List (ι × Moment) → Prop) : List (ι × Moment) → Prop
  | [] => True
  | (who, moment) :: past => condition who moment past ∧ Always condition past

variable {kind : Moment → Bool} {who other : ι} {moment : Moment} {past : List (ι × Moment)}

theorem mem_saved_cons {user : User} :
    user ∈ saved ((who, moment) :: past) ↔ moment.saved? = some user ∨ user ∈ saved past := by
  simp [saved]

variable [DecidableEq ι]

/-- What has been done since a resolver last did something of a kind. -/
def since (kind : Moment → Bool) (who : ι) (history : List (ι × Moment)) : List (ι × Moment) :=
  history.takeWhile fun event => !(decide (event.1 = who) && kind event.2)

theorem since_cons_of_ne (differs : other ≠ who) :
    since kind who ((other, moment) :: past) = (other, moment) :: since kind who past := by
  simp [since, differs]

theorem since_cons_of_not (unlike : kind moment = false) :
    since kind who ((other, moment) :: past) = (other, moment) :: since kind who past := by
  simp [since, unlike]

/-- Between its lookup and its save, no resolver has been disturbed by the save of a record of the
account that it has looked up or of the identity that it has found there. -/
def Undisturbed : List (ι × Moment) → Prop :=
  Always fun who moment past => moment.saved?.isSome → ∀ provider account existing,
    (who, .answered (.findUser provider account) existing) ∈ past →
      ∀ record ∈ saved (since Moment.isLookup who past),
        Users.Spares record provider account existing

/-- Between its reading of the clock and its save, no resolver has been overtaken by the save of a
record of the same identity. -/
def InTurn : List (ι × Moment) → Prop :=
  Always fun who moment past => ∀ user, moment.saved? = some user →
    ∀ record ∈ saved (since Moment.isReading who past), record.id ≠ user.id

end Histories

end Resolvers

/-! ## Resolvers at work -/

/-- Resolvers at work on one world, each with what it still has to do. -/
structure Resolvers (ι : Type) where
  world : World
  rest : ι → Program (Except Failure User)
  /-- Who did what, latest first. -/
  history : List (ι × Moment)

namespace Resolvers

open Crowd (own own_cons_self own_cons_of_ne mem_own)

variable {ι : Type}

/-- The resolvers of some callbacks, of which none has begun. -/
def initial (callbacks : ι → Callback) (world : World) : Resolvers ι where
  world := world
  rest who := (resolve (callbacks who)).run
  history := []

variable [DecidableEq ι]

/-- The resolvers after one of them has done something. -/
def after (resolvers : Resolvers ι) (who : ι) (moment : Moment) (world : World)
    (left : Program (Except Failure User)) : Resolvers ι where
  world := world
  rest := Function.update resolvers.rest who left
  history := (who, moment) :: resolvers.history

/-- The steps of resolvers. -/
inductive Step (resolvers : Resolvers ι) : Resolvers ι → Prop where
  | act {who : ι} {action : Action} {next : action.Result → Program (Except Failure User)}
      {result : action.Result} {world : World} (rest : resolvers.rest who = .perform action next)
      (acted : resolvers.world.perform action = (.ok result, world)) :
      Step resolvers (resolvers.after who ⟨action, result⟩ world (next result))
  | wait {later : Instant} (ordered : resolvers.world.clock ≤ later) :
      Step resolvers { resolvers with world := resolvers.world.waitUntil later }

/-- Any number of steps. -/
abbrev Steps : Resolvers ι → Resolvers ι → Prop :=
  Relation.ReflTransGen Step

/-- The resolvers come about from a world in which none has begun. -/
abbrev Reached (callbacks : ι → Callback) (start : World) (resolvers : Resolvers ι) : Prop :=
  Steps (initial callbacks start) resolvers

/-- One resolver takes a turn, if it has something left to do. -/
def takeTurn (resolvers : Resolvers ι) (who : ι) : Resolvers ι :=
  match resolvers.rest who with
  | .perform action next =>
      match resolvers.world.perform action with
      | (.ok result, world) => resolvers.after who ⟨action, result⟩ world (next result)
      | (.error _, _) => resolvers
  | .done _ => resolvers

theorem steps_takeTurn (resolvers : Resolvers ι) (who : ι) :
    Steps resolvers (resolvers.takeTurn who) := by
  unfold takeTurn
  split
  · next action next rest =>
    split
    · next result world acted => exact .single (.act rest acted)
    · exact .refl
  · exact .refl

theorem steps_takeTurns (resolvers : Resolvers ι) (turns : List ι) :
    Steps resolvers (turns.foldl takeTurn resolvers) := by
  induction turns generalizing resolvers with
  | nil => exact .refl
  | cons who turns ih => exact (resolvers.steps_takeTurn who).trans (ih _)

/-! ### What a step can be -/

variable {callbacks : ι → Callback} {start : World} {resolvers next : Resolvers ι}

/-- Every resolver goes on as its contract says, and all its calls have been answered. -/
def KeepsContracts (callbacks : ι → Callback) (resolvers : Resolvers ι) : Prop :=
  ∀ who, AllAnswered (own who resolvers.history) ∧
    (resolvers.rest who).Meets (ResolveGuard (callbacks who)) (ResolveEnds (callbacks who))
      (own who resolvers.history)

/-- A step is the passing of time, or an action of a resolver that is not done. -/
inductive Move (callbacks : ι → Callback) (resolvers : Resolvers ι) : Resolvers ι → Prop where
  | wait {later : Instant} (ordered : resolvers.world.clock ≤ later) :
      Move callbacks resolvers { resolvers with world := resolvers.world.waitUntil later }
  | act {who : ι} {moment : Moment} {world : World} {left : Program (Except Failure User)}
      (underWay : ∀ outcome, resolvers.rest who ≠ .done outcome)
      (acts : Acts (callbacks who) resolvers.world (own who resolvers.history) moment world left) :
      Move callbacks resolvers (resolvers.after who moment world left)

theorem KeepsContracts.move (keeps : resolvers.KeepsContracts callbacks)
    (step : Step resolvers next) : Move callbacks resolvers next := by
  cases step with
  | wait ordered => exact .wait ordered
  | @act who action next result world rest acted =>
    obtain ⟨answered, meets⟩ := keeps who
    rw [rest] at meets
    refine .act (fun outcome ended => ?_) (acts_of_perform answered meets acted)
    cases rest.symm.trans ended

theorem KeepsContracts.step (keeps : resolvers.KeepsContracts callbacks)
    (step : Step resolvers next) : next.KeepsContracts callbacks := by
  cases step with
  | wait ordered => exact keeps
  | @act who action next result world rest acted =>
    intro other
    obtain ⟨answered, meets⟩ := keeps other
    dsimp only [after]
    by_cases same : other = who
    · subst same
      rw [rest] at meets
      have acts := acts_of_perform answered meets acted
      rw [Function.update_self, own_cons_self]
      exact ⟨answered.cons acts.answered, meets.2 result⟩
    · rw [Function.update_of_ne same, own_cons_of_ne (Ne.symm same)]
      exact ⟨answered, meets⟩

theorem Reached.keepsContracts (reached : Reached callbacks start resolvers) :
    resolvers.KeepsContracts callbacks := by
  induction reached with
  | refl => exact fun who => ⟨List.forall_mem_nil _, meets_resolve (callbacks who)⟩
  | tail _ step ih => exact ih.step step

/-- Every step of resolvers is a move. -/
theorem Reached.move (reached : Reached callbacks start resolvers) (step : Step resolvers next) :
    Move callbacks resolvers next :=
  reached.keepsContracts.move step

end Resolvers

end SignOn.Engine
