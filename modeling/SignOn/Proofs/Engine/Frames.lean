import SignOn.Proofs.Engine.Contract
import SignOn.Proofs.Engine.Running

/-!
# What operations leave alone

No action moves the clock or changes the identifiers to be drawn, and an operation that makes no
call about sessions leaves the sessions as they are, as one that saves no user record leaves the
records.
-/

namespace SignOn.Engine

set_option autoImplicit false

/-! ## Actions -/

namespace World

variable {world : World}

/-- A store that answers or fails keeps what every change of it keeps. -/
theorem answer_keeps {ν α κ : Type} {change : ν → World} (part : World → κ)
    (kept : ∀ store, part (change store) = part world) (outcome : Except Store.Fault (α × ν)) :
    part (world.answer change outcome).2 = part world := by
  cases outcome with
  | ok result => exact kept result.2
  | error fault => rfl

/-- Whatever no store holds, no action changes. -/
theorem perform_clock (world : World) (action : Action) :
    (world.perform action).2.clock = world.clock := by
  cases action with
  | store call =>
    cases call with
    | findUser _ _ | saveUser _ => rfl
    | _ =>
      apply answer_keeps clock
      intro store
      rfl
  | readClock | drawTokenId | publish event | askProvider provider code => rfl

theorem perform_tokenIds (world : World) (action : Action) :
    (world.perform action).2.tokenIds = world.tokenIds := by
  cases action with
  | store call =>
    cases call with
    | findUser _ _ | saveUser _ => rfl
    | _ =>
      apply answer_keeps tokenIds
      intro store
      rfl
  | readClock | drawTokenId | publish event | askProvider provider code => rfl

/-- Only drawing an identifier counts as drawing one. -/
theorem perform_drawn {action : Action} (other : action ≠ .drawTokenId) (world : World) :
    (world.perform action).2.drawn = world.drawn := by
  cases action with
  | store call =>
    cases call with
    | findUser _ _ | saveUser _ => rfl
    | _ =>
      apply answer_keeps drawn
      intro store
      rfl
  | drawTokenId => exact absurd rfl other
  | readClock | publish event | askProvider provider code => rfl

end World

/-- The action is no call about sessions. -/
def Action.SparesSessions : Action → Prop
  | .store (.readSession _) | .store (.writeSession _ _ _) | .store (.deleteSession _)
  | .store (.replaceSession _ _ _ _) => False
  | _ => True

theorem World.perform_sessions {action : Action} (spares : action.SparesSessions) (world : World) :
    (world.perform action).2.sessions = world.sessions := by
  cases action with
  | store call =>
    cases call with
    | readSession _ | writeSession _ _ _ | deleteSession _ | replaceSession _ _ _ _ =>
      exact spares.elim
    | findUser _ _ | saveUser _ => rfl
    | _ =>
      apply answer_keeps sessions
      intro store
      rfl
  | readClock | drawTokenId | publish event | askProvider provider code => rfl

/-- The action is no save of a user record. -/
def Action.SparesUsers : Action → Prop
  | .store (.saveUser _) => False
  | _ => True

theorem World.perform_users {action : Action} (spares : action.SparesUsers) (world : World) :
    (world.perform action).2.users = world.users := by
  cases action with
  | store call =>
    cases call with
    | saveUser _ => exact spares.elim
    | findUser _ _ => rfl
    | _ =>
      apply answer_keeps users
      intro store
      rfl
  | readClock | drawTokenId | publish event | askProvider provider code => rfl

/-! ## Operations -/

namespace Operation

variable {α : Type}

theorem only_of_forall {allowed : Action → Prop} (all : ∀ action, allowed action)
    (operation : Operation α) : operation.Only allowed := by
  intro past
  generalize operation.run = program
  induction program generalizing past with
  | done value => trivial
  | perform action next ih => exact ⟨all action, fun result => ih result _⟩

variable {operation : Operation α} {world after : World}
  {outcome : Except CalendarEnd (Except Failure α)}

/-- What no allowed action changes is the same after an operation. -/
theorem part_of_on {κ : Type} (part : World → κ) {allowed : Action → Prop}
    (kept : ∀ {action}, allowed action → ∀ world : World,
      part (world.perform action).2 = part world)
    (only : operation.Only allowed) (ran : operation.on world = (outcome, after)) :
    part after = part world := by
  have same : part (operation.on world).2 = part world := by
    refine Program.run_related (fun before after => part after = part before) (fun _ => rfl) ?_ ?_
      only world
    · intro first second third here there
      exact there.trans here
    · intro action world isAllowed
      exact kept isAllowed world
  rwa [ran] at same

theorem clock_of_on (ran : operation.on world = (outcome, after)) : after.clock = world.clock := by
  have everything : operation.Only fun _ => True := only_of_forall (fun _ => trivial) operation
  exact part_of_on World.clock (fun _ world => world.perform_clock _) everything ran

theorem clock_on (operation : Operation α) (world : World) :
    (operation.on world).2.clock = world.clock :=
  clock_of_on rfl

theorem sessions_of_on (spares : operation.Only Action.SparesSessions)
    (ran : operation.on world = (outcome, after)) : after.sessions = world.sessions :=
  part_of_on World.sessions World.perform_sessions spares ran

theorem users_of_on (spares : operation.Only Action.SparesUsers)
    (ran : operation.on world = (outcome, after)) : after.users = world.users :=
  part_of_on World.users World.perform_users spares ran

end Operation

end SignOn.Engine
