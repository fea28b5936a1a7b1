import Mathlib.Logic.Function.Basic
import Mathlib.Logic.Relation
import SignOn.Proofs.Engine.Runs

/-!
# Calls side by side

Any number of calls are at work on one world.  A step of such a crowd is a single action of one of
its calls, to which a store may fail to give an answer, a call that breaks off, a sweep, or the
passing of time; steps follow each other in any order.  Which call did what, and what came of it,
is kept as a history, latest first.

The two halves of a logout run side by side themselves.  In which order their actions follow each
other is up to a list of turns, and the order of the service is that of the empty list
(`Service.logoutAlong_nil`).
-/

namespace SignOn.Engine

set_option autoImplicit false

open Operation

/-! ## Programs side by side -/

namespace Program

variable {α β γ : Type}

theorem bind_assoc (program : Program α) (follow : α → Program β) (further : β → Program γ) :
    (program.bind follow).bind further = program.bind fun value => (follow value).bind further := by
  induction program with
  | done value => rfl
  | perform action next ih =>
    simp only [bind]
    congr
    funext result
    exact ih result

/-- Lets a program act while the turns are its own, and then goes on in another way. -/
def giveWay (goOn : List Bool → Program β → Program γ) (ended : β → Program γ) :
    List Bool → Program β → Program γ
  | _, .done value => ended value
  | true :: turns, .perform action next =>
      .perform action fun result => giveWay goOn ended turns (next result)
  | false :: turns, .perform action next => goOn turns (.perform action next)
  | [], .perform action next => goOn [] (.perform action next)

/-- Two programs side by side.  Each turn tells whether the second one acts next; without turns, the
first one acts. -/
def beside : Program α → List Bool → Program β → Program (α × β)
  | .done value, _, second => second.bind fun other => .done (value, other)
  | .perform action next, turns, second =>
      giveWay (fun turns second => .perform action fun result => (next result).beside turns second)
        (fun other => (perform action next).bind fun value => .done (value, other)) turns second

/-- Without turns, one program follows the other. -/
theorem beside_nil (first : Program α) (second : Program β) :
    first.beside [] second =
      first.bind fun value => second.bind fun other => .done (value, other) := by
  induction first with
  | done value => rfl
  | perform action next ih =>
    cases second with
    | done other => rfl
    | perform otherAction otherNext =>
      simp only [beside, giveWay, bind]
      congr
      funext result
      exact ih result

variable {allowed : Action → Prop}

/-- What is allowed does not depend on the past. -/
theorem Only.of_meets {program : Program α} {past : List Moment}
    (meets : program.Meets (fun _ => allowed) (fun _ _ => True) past) : program.Only allowed := by
  induction program generalizing past with
  | done value => exact fun _ => trivial
  | perform action next ih =>
    intro other
    exact ⟨meets.1, fun result => ih result (meets.2 result) _⟩

theorem only_bind {program : Program α} {follow : α → Program β} (first : program.Only allowed)
    (second : ∀ value, (follow value).Only allowed) : (program.bind follow).Only allowed := by
  intro past
  apply (meets_bind program follow past).2
  exact (first past).mono (fun _ _ allowed => allowed) fun past value _ => second value past

theorem only_giveWay {goOn : List Bool → Program β → Program γ} {ended : β → Program γ}
    {second : Program β} (only : second.Only allowed)
    (goesOn : ∀ turns (rest : Program β), rest.Only allowed → (goOn turns rest).Only allowed)
    (ends : ∀ value, (ended value).Only allowed) (turns : List Bool) :
    (giveWay goOn ended turns second).Only allowed := by
  induction second generalizing turns with
  | done value =>
    cases turns <;> exact ends value
  | perform action next ih =>
    match turns with
    | [] => exact goesOn [] _ only
    | false :: turns => exact goesOn turns _ only
    | true :: turns =>
      intro past
      refine ⟨(only past).1, ?_⟩
      intro result
      exact ih result (.of_meets ((only past).2 result)) turns _

/-- Side by side, two programs do only what each of them does. -/
theorem only_beside {first : Program α} {second : Program β} (onlyFirst : first.Only allowed)
    (onlySecond : second.Only allowed) (turns : List Bool) :
    (first.beside turns second).Only allowed := by
  induction first generalizing turns second with
  | done value => exact only_bind onlySecond fun other => fun _ => trivial
  | perform action next ih =>
    refine only_giveWay onlySecond ?_ ?_ turns
    · intro turns rest onlyRest past
      refine ⟨(onlyFirst past).1, ?_⟩
      intro result
      exact ih result (.of_meets ((onlyFirst past).2 result)) onlyRest turns _
    · intro other
      exact only_bind onlyFirst fun value => fun _ => trivial

end Program

/-! ## Logouts and their turns -/

namespace Service

/-- Deletes the session and revokes the credential side by side. -/
def endSessionAlong (service : Service) (turns : List Bool) (context : Context)
    (token : Option String) : Operation Unit := do
  match context.actor with
  | none => Operation.reject .unauthenticated
  | some identity =>
      service.enforce context .logout identity
      let (deleted, revoked) ← ExceptT.lift
        ((Operation.call (.deleteSession identity)).run.beside turns (match token with
          | some token => revoke service.codec token
          | none => pure ()).run)
      Operation.ofOutcome deleted
      Operation.ofOutcome revoked

/-- Logs the actor out, with the halves of the logout side by side. -/
def logoutAlong (service : Service) (turns : List Bool) (context : Context) (token : Option String) :
    Operation Unit :=
  observe .logout context (service.endSessionAlong turns context token)

/-- Without turns, a logout deletes the session first. -/
theorem logoutAlong_nil (service : Service) (context : Context) (token : Option String) :
    service.logoutAlong [] context token = service.logout context token := by
  rw [logoutAlong, logout]
  congr 1
  unfold endSessionAlong endSession
  cases context.actor with
  | none => rfl
  | some identity =>
    dsimp only
    congr 1
    funext _
    rw [Program.beside_nil]
    change Program.bind (Program.bind (Program.bind _ _) _) _ =
      Program.bind (Program.bind _ _) _
    rw [Program.bind_assoc, Program.bind_assoc, Program.bind_assoc]
    congr 1
    funext deleted
    change _ = Program.bind (Program.bind (ExceptT.run _) (pure ∘ Except.ok)) _
    rw [Program.bind_assoc, Program.bind_assoc]
    rfl

end Service

/-- What a call has the service do, where the turns order the halves of a logout. -/
def Call.along (service : Service) (turns : List Bool) : (call : Call) → Operation call.Answer
  | .logout context token => service.logoutAlong turns context token
  | call => call.operation service

/-! ## What comes of an action -/

/-- What can come of an action in a world: it is carried out, or a store gives no answer to it and
does nothing. -/
inductive World.Yields (world : World) : Moment → World → Prop where
  | done {action : Action} {result : action.Result} {after : World}
      (acted : world.perform action = (.ok result, after)) : Yields world ⟨action, result⟩ after
  | unanswered {call : StoreCall} {reply : Reply call.Answer}
      (without : ∀ answer, reply ≠ .answered answer) : Yields world ⟨.store call, reply⟩ world

namespace World.Yields

variable {world after : World} {moment : Moment} (yields : world.Yields moment after)
include yields

theorem clock : after.clock = world.clock := by
  cases yields with
  | @done action result _ acted =>
    have same := world.perform_clock action
    rwa [acted] at same
  | unanswered without => rfl

theorem tokenIds : after.tokenIds = world.tokenIds := by
  cases yields with
  | @done action result _ acted =>
    have same := world.perform_tokenIds action
    rwa [acted] at same
  | unanswered without => rfl

theorem drawn (other : moment.action ≠ .drawTokenId) : after.drawn = world.drawn := by
  cases yields with
  | done acted =>
    have same := World.perform_drawn other world
    rwa [acted] at same
  | unanswered without => rfl

end World.Yields

/-! ## Crowds -/

/-- Calls at work on one world, each with what it still has to do. -/
structure Crowd {ι : Type} (calls : ι → Call) where
  world : World
  /-- What is left of a call, unless it has broken off. -/
  rest : (who : ι) → Option (Program (Except Failure (calls who).Answer))
  /-- Who did what, latest first. -/
  history : List (ι × Moment)

namespace Crowd

variable {ι : Type} {calls : ι → Call}

/-- The crowd in which no call has begun. -/
def initial (service : Service) (calls : ι → Call) (turns : ι → List Bool) (world : World) :
    Crowd calls where
  world := world
  rest who := some ((calls who).along service (turns who)).run
  history := []

/-- A call has begun once it has done something. -/
def HasBegun (crowd : Crowd calls) (who : ι) : Prop :=
  ∃ moment, (who, moment) ∈ crowd.history

/-- A call is under way while it has something left to do. -/
def IsUnderWay (crowd : Crowd calls) (who : ι) : Prop :=
  ∃ action next, crowd.rest who = some (.perform action next)

/-- The call has ended in a success. -/
def HasSucceeded (crowd : Crowd calls) (who : ι) : Prop :=
  ∃ answer, crowd.rest who = some (.done (.ok answer))

/-- The call has ended in a failure. -/
def HasFailed (crowd : Crowd calls) (who : ι) (failure : Failure) : Prop :=
  crowd.rest who = some (.done (.error failure))

/-- While a call is left alone, no other begins. -/
theorem not_hasBegun_of_alone {crowd finish : Crowd calls} {who other : ι}
    {events : List (ι × Moment)} (history : finish.history = events ++ crowd.history)
    (owned : ∀ event ∈ events, event.1 = who) (differs : other ≠ who)
    (unbegun : ¬ crowd.HasBegun other) : ¬ finish.HasBegun other := by
  rintro ⟨moment, member⟩
  rw [history] at member
  rcases List.mem_append.1 member with alone | earlier
  · exact differs (owned _ alone)
  · exact unbegun ⟨moment, earlier⟩

theorem not_hasBegun_initial {service : Service} {turns : ι → List Bool} {world : World} {who : ι} :
    ¬ (initial service calls turns world).HasBegun who :=
  fun ⟨_, nothing⟩ => List.not_mem_nil nothing

variable [DecidableEq ι]

/-- The steps of a crowd. -/
inductive Step : Crowd calls → Crowd calls → Prop where
  | act {crowd : Crowd calls} {who : ι} {action : Action}
      {next : action.Result → Program (Except Failure (calls who).Answer)} {result : action.Result}
      {after : World} (rest : crowd.rest who = some (.perform action next))
      (yields : crowd.world.Yields ⟨action, result⟩ after) :
      Step crowd ⟨after, Function.update crowd.rest who (some (next result)),
        (who, ⟨action, result⟩) :: crowd.history⟩
  | breakOff {crowd : Crowd calls} {who : ι} (underWay : crowd.IsUnderWay who) :
      Step crowd { crowd with rest := Function.update crowd.rest who none }
  | sweep {crowd : Crowd calls} : Step crowd { crowd with world := crowd.world.sweep }
  | wait {crowd : Crowd calls} {later : Instant} (ordered : crowd.world.clock ≤ later)
      (within : later.isRepresentable = true) :
      Step crowd { crowd with world := crowd.world.waitUntil later }

/-- Any number of steps. -/
abbrev Steps : Crowd calls → Crowd calls → Prop :=
  Relation.ReflTransGen Step

/-- The crowds that come about from a fresh world whose identifiers are all distinct. -/
inductive Reached (service : Service) (calls : ι → Call) : Crowd calls → Prop where
  | start {world : World} (turns : ι → List Bool) (fresh : world.IsFresh)
      (distinct : Function.Injective world.tokenIds) :
      Reached service calls (initial service calls turns world)
  | step {crowd next : Crowd calls} (reached : Reached service calls crowd) (step : Step crowd next) :
      Reached service calls next

theorem Reached.steps {service : Service} {crowd next : Crowd calls}
    (reached : Reached service calls crowd) (steps : Steps crowd next) :
    Reached service calls next := by
  induction steps with
  | refl => exact reached
  | tail _ step ih => exact ih.step step

/-- Time does not go back. -/
theorem Step.clock_le {crowd next : Crowd calls} (step : Step crowd next) :
    crowd.world.clock ≤ next.world.clock := by
  cases step with
  | act rest yields => exact Int.le_of_eq (congrArg Instant.nanoseconds yields.clock.symm)
  | breakOff underWay => exact Int.le_refl _
  | sweep => exact Int.le_refl _
  | wait ordered within => exact ordered

/-- A call that is not under way takes no step. -/
theorem Steps.rest_eq {start crowd : Crowd calls} (steps : Steps start crowd) {who : ι}
    (idle : ¬ start.IsUnderWay who) : crowd.rest who = start.rest who := by
  induction steps with
  | refl => rfl
  | @tail crowd next _ step ih =>
    cases step with
    | @act other action follow result after rest yields =>
      have differs : who ≠ other := by
        rintro rfl
        exact idle ⟨action, follow, ih.symm.trans rest⟩
      exact (Function.update_of_ne differs _ _).trans ih
    | @breakOff other underWay =>
      have differs : who ≠ other := by
        rintro rfl
        obtain ⟨action, follow, rest⟩ := underWay
        exact idle ⟨action, follow, ih.symm.trans rest⟩
      exact (Function.update_of_ne differs _ _).trans ih
    | sweep => exact ih
    | wait ordered within => exact ih

/-! ### What one call has done -/

/-- What a call has done in a history, latest first. -/
def own (who : ι) : List (ι × Moment) → List Moment
  | [] => []
  | (other, moment) :: earlier => if other = who then moment :: own who earlier else own who earlier

variable {who other : ι} {moment : Moment} {history : List (ι × Moment)}

@[simp] theorem own_cons_self : own who ((who, moment) :: history) = moment :: own who history :=
  if_pos rfl

theorem own_cons_of_ne (differs : other ≠ who) :
    own who ((other, moment) :: history) = own who history :=
  if_neg differs

theorem own_append (newer older : List (ι × Moment)) :
    own who (newer ++ older) = own who newer ++ own who older := by
  induction newer with
  | nil => rfl
  | cons event between ih =>
    obtain ⟨other, moment⟩ := event
    by_cases same : other = who
    · subst same
      rw [List.cons_append, own_cons_self, own_cons_self, ih, List.cons_append]
    · rw [List.cons_append, own_cons_of_ne same, own_cons_of_ne same, ih]

@[simp] theorem mem_own : moment ∈ own who history ↔ (who, moment) ∈ history := by
  induction history with
  | nil => simp [own]
  | cons event earlier ih =>
    obtain ⟨other, first⟩ := event
    by_cases same : other = who
    · subst same
      simp [ih]
    · rw [own_cons_of_ne same, ih, List.mem_cons, Prod.mk.injEq]
      simp [Ne.symm same]

/-! ### Contracts -/

/-- Every call goes on as its contract says, after what it has done. -/
def KeepsContracts (guard : Call → List Moment → Action → Prop)
    (goal : (call : Call) → List Moment → Except Failure call.Answer → Prop)
    (crowd : Crowd calls) : Prop :=
  ∀ who program, crowd.rest who = some program →
    program.Meets (guard (calls who)) (goal (calls who)) (own who crowd.history)

section Contracts

variable {guard : Call → List Moment → Action → Prop}
  {goal : (call : Call) → List Moment → Except Failure call.Answer → Prop}

theorem KeepsContracts.step {crowd next : Crowd calls} (keeps : crowd.KeepsContracts guard goal)
    (step : Step crowd next) : next.KeepsContracts guard goal := by
  cases step with
  | @act who action follow result after rest yields =>
    intro other program left
    dsimp only at left ⊢
    by_cases same : other = who
    · subst same
      rw [Function.update_self] at left
      obtain rfl := Option.some.inj left
      rw [own_cons_self]
      exact (keeps other _ rest).2 result
    · rw [Function.update_of_ne same] at left
      rw [own_cons_of_ne (Ne.symm same)]
      exact keeps other program left
  | @breakOff who underWay =>
    intro other program left
    dsimp only at left ⊢
    by_cases same : other = who
    · subst same
      rw [Function.update_self] at left
      cases left
    · rw [Function.update_of_ne same] at left
      exact keeps other program left
  | sweep => exact keeps
  | wait ordered within => exact keeps

/-- What every call keeps by itself, it keeps in every crowd. -/
theorem Reached.keepsContracts {service : Service}
    (contracts : ∀ (turns : List Bool) (call : Call), (call.along service turns).Meets (guard call) (goal call) [])
    {crowd : Crowd calls} (reached : Reached service calls crowd) :
    crowd.KeepsContracts guard goal := by
  induction reached with
  | start turns fresh distinct =>
    intro who program rest
    obtain rfl := Option.some.inj rest
    exact contracts (turns who) (calls who)
  | step _ step ih => exact ih.step step

end Contracts

/-! ### Calls that are left alone -/

/-- A call that is about to read the clock can do so while all others stand still. -/
theorem exists_step_readClock {crowd : Crowd calls}
    {next : Instant → Program (Except Failure (calls who).Answer)}
    (rest : crowd.rest who = some (.perform .readClock next)) :
    ∃ later : Crowd calls, Step crowd later ∧ later.world = crowd.world ∧
      later.rest who = some (next crowd.world.clock) ∧
      (∀ other, other ≠ who → later.rest other = crowd.rest other) ∧
      later.history = (who, ⟨.readClock, crowd.world.clock⟩) :: crowd.history :=
  ⟨_, .act rest (.done rfl), rfl, Function.update_self _ _ _,
    fun _ differs => Function.update_of_ne differs _ _, rfl⟩

/-- A call whose program has an outcome can run to its end while all others stand still. -/
theorem steps_alone {allowed : Action → Prop} {crowd : Crowd calls}
    {program : Program (Except Failure (calls who).Answer)} (rest : crowd.rest who = some program)
    {outcome : Except Failure (calls who).Answer} {after : World}
    (ran : program.run World.perform crowd.world = (.ok outcome, after))
    (only : program.Only allowed) :
    ∃ (finish : Crowd calls) (events : List (ι × Moment)), Steps crowd finish ∧
      finish.world = after ∧ finish.rest who = some (.done outcome) ∧
      (∀ other, other ≠ who → finish.rest other = crowd.rest other) ∧
      finish.history = events ++ crowd.history ∧
      ∀ event ∈ events, event.1 = who ∧ allowed event.2.action := by
  induction program generalizing crowd with
  | done value =>
    obtain ⟨same, rfl⟩ := Prod.mk.inj ran
    obtain rfl := Except.ok.inj same
    exact ⟨crowd, [], .refl, rfl, rest, fun _ _ => rfl, rfl, List.forall_mem_nil _⟩
  | perform action next ih =>
    rw [Program.run] at ran
    cases acted : crowd.world.perform action with
    | mk result middle =>
      rw [acted] at ran
      cases result with
      | error calendarEnd => cases (Prod.mk.inj ran).1
      | ok result =>
        let later : Crowd calls := ⟨middle, Function.update crowd.rest who (some (next result)),
          (who, ⟨action, result⟩) :: crowd.history⟩
        have step : Step crowd later := .act rest (.done acted)
        have turn : later.rest who = some (next result) := Function.update_self _ _ _
        obtain ⟨finish, events, steps, world, ended, others, history, owned⟩ :=
          ih result turn ran (.of_meets ((only []).2 result))
        refine ⟨finish, events ++ [(who, ⟨action, result⟩)], .head step steps, world, ended,
          ?_, ?_, ?_⟩
        · intro other differs
          exact (others other differs).trans (Function.update_of_ne differs _ _)
        · rw [history, List.append_assoc]
          rfl
        · intro event member
          rcases List.mem_append.1 member with further | first
          · exact owned event further
          · obtain rfl := List.mem_singleton.1 first
            exact ⟨rfl, (only []).1⟩

end Crowd

end SignOn.Engine
