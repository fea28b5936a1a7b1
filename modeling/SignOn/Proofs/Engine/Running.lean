import SignOn.Engine.World

/-!
# Running operations in memory

What an operation comes to in a world is its outcome and the world after it (`Operation.on`).  The
laws of this module follow an operation step by step: each says what a sequence of two operations,
an action or a call of a store comes to, once it is known what its first part comes to.
-/

namespace SignOn.Engine

set_option autoImplicit false

/-! ## Programs -/

namespace Program

variable {σ α β : Type} (handler : Handler σ)

theorem run_bind (program : Program α) (follow : α → Program β) (state : σ) :
    (program >>= follow).run handler state =
      match program.run handler state with
      | (.ok value, state) => (follow value).run handler state
      | (.error calendarEnd, state) => (.error calendarEnd, state) := by
  change (program.bind follow).run handler state = _
  induction program generalizing state with
  | done value => rfl
  | perform action next ih =>
    simp only [bind, run]
    cases handler action state with
    | mk result state =>
      cases result with
      | ok result => exact ih result state
      | error calendarEnd => rfl

theorem run_act (action : Action) (state : σ) :
    (act action).run handler state = handler action state := by
  simp only [act, run]
  cases handler action state with
  | mk result state => cases result <;> rfl

end Program

/-! ## Operations -/

namespace Operation

variable {α β : Type}

/-- What an operation comes to in a world, with the world after it. -/
def on (operation : Operation α) (world : World) :
    Except CalendarEnd (Except Failure α) × World :=
  operation.run.run World.perform world

variable {world after : World}

theorem on_eq_of_fst {operation : Operation α} {outcome : Except CalendarEnd (Except Failure α)}
    (done : (operation.on world).1 = outcome) :
    operation.on world = (outcome, (operation.on world).2) := by
  rw [← done]

@[simp] theorem on_pure (value : α) (world : World) :
    (pure value : Operation α).on world = (.ok (.ok value), world) := rfl

@[simp] theorem on_ofOutcome (outcome : Except Failure α) (world : World) :
    (ofOutcome outcome).on world = (.ok outcome, world) := rfl

@[simp] theorem on_ofVerdict (verdict : Except Rejection α) (world : World) :
    (ofVerdict verdict).on world = (.ok (verdict.mapError .rejected), world) := rfl

@[simp] theorem on_reject (reason : Rejection) (world : World) :
    (reject reason : Operation α).on world = (.ok (.error (.rejected reason)), world) := rfl

/-! ### One operation after another -/

section Bind

variable {operation : Operation α} {follow : α → Operation β}

theorem on_bind (operation : Operation α) (follow : α → Operation β) (world : World) :
    (operation >>= follow).on world =
      match operation.on world with
      | (.ok (.ok value), after) => (follow value).on after
      | (.ok (.error failure), after) => (.ok (.error failure), after)
      | (.error calendarEnd, after) => (.error calendarEnd, after) := by
  change ((operation.run : Program _) >>= ExceptT.bindCont follow).run World.perform world = _
  rw [Program.run_bind]
  unfold on
  cases operation.run.run World.perform world with
  | mk result after =>
    cases result with
    | error calendarEnd => rfl
    | ok outcome => cases outcome <;> rfl

theorem on_bind_ok {value : α} (first : operation.on world = (.ok (.ok value), after)) :
    (operation >>= follow).on world = (follow value).on after := by
  rw [on_bind, first]

theorem on_bind_error {failure : Failure}
    (first : operation.on world = (.ok (.error failure), after)) :
    (operation >>= follow).on world = (.ok (.error failure), after) := by
  rw [on_bind, first]

theorem on_bind_broken {calendarEnd : CalendarEnd}
    (first : operation.on world = (.error calendarEnd, after)) :
    (operation >>= follow).on world = (.error calendarEnd, after) := by
  rw [on_bind, first]

/-- Either the first of two operations succeeds and the second goes on from there, or the first does
not succeed and neither does the whole. -/
theorem on_bind_cases {outcome : Except CalendarEnd (Except Failure β)}
    (ran : (operation >>= follow).on world = (outcome, after)) :
    (∃ value middle, operation.on world = (.ok (.ok value), middle) ∧
      (follow value).on middle = (outcome, after)) ∨
    ∃ stopped, operation.on world = (stopped, after) ∧ (∀ value, stopped ≠ .ok (.ok value)) ∧
      ∀ value, outcome ≠ .ok (.ok value) := by
  rw [on_bind] at ran
  cases first : operation.on world with
  | mk result middle =>
    rw [first] at ran
    cases result with
    | error calendarEnd =>
      obtain ⟨rfl, rfl⟩ := Prod.mk.inj ran
      exact Or.inr ⟨_, rfl, nofun, nofun⟩
    | ok result =>
      cases result with
      | error failure =>
        obtain ⟨rfl, rfl⟩ := Prod.mk.inj ran
        exact Or.inr ⟨_, rfl, nofun, nofun⟩
      | ok value => exact Or.inl ⟨value, middle, rfl, ran⟩

end Bind

/-! ### Actions and calls -/

theorem on_act (action : Action) (world : World) :
    (act action).on world =
      match world.perform action with
      | (.ok result, after) => (.ok (.ok result), after)
      | (.error calendarEnd, after) => (.error calendarEnd, after) := by
  change (Program.act action >>= (pure ∘ Except.ok)).run World.perform world = _
  rw [Program.run_bind, Program.run_act]
  cases world.perform action with
  | mk result after => cases result <;> rfl

@[simp] theorem on_readClock (world : World) :
    (act .readClock).on world = (.ok (.ok world.clock), world) := rfl

section Calls

variable {storeCall : StoreCall}

theorem on_call_answered {answer : storeCall.Answer}
    (reply : world.performCall storeCall = (.ok (.answered answer), after)) :
    (call storeCall).on world = (.ok (.ok answer), after) := by
  have acted : (act (.store storeCall)).on world = (.ok (.ok (.answered answer)), after) := by
    rw [on_act, World.perform, reply]
  exact on_bind_ok acted

theorem on_call_failed {error : StoreError}
    (reply : world.performCall storeCall = (.ok (.failed error), after)) :
    (call storeCall).on world = (.ok (.error (.storage error)), after) := by
  have acted : (act (.store storeCall)).on world = (.ok (.ok (.failed error)), after) := by
    rw [on_act, World.perform, reply]
  exact on_bind_ok acted

theorem on_call_broken {calendarEnd : CalendarEnd}
    (reply : world.performCall storeCall = (.error calendarEnd, after)) :
    (call storeCall).on world = (.error calendarEnd, after) := by
  have acted : (act (.store storeCall)).on world = (.error calendarEnd, after) := by
    rw [on_act, World.perform, reply]
  exact on_bind_broken acted

end Calls

/-! ### Outcomes as values -/

theorem on_outcome (operation : Operation α) (world : World) :
    (outcome operation).on world =
      match operation.on world with
      | (.ok result, after) => (.ok (.ok result), after)
      | (.error calendarEnd, after) => (.error calendarEnd, after) := by
  change (operation.run >>= (pure ∘ Except.ok)).run World.perform world = _
  rw [Program.run_bind]
  unfold on
  cases operation.run.run World.perform world with
  | mk result after => cases result <;> rfl

theorem on_outcome_ok {operation : Operation α} {result : Except Failure α}
    (body : operation.on world = (.ok result, after)) :
    (outcome operation).on world = (.ok (.ok result), after) := by
  rw [on_outcome, body]

theorem on_outcome_broken {operation : Operation α} {calendarEnd : CalendarEnd}
    (body : operation.on world = (.error calendarEnd, after)) :
    (outcome operation).on world = (.error calendarEnd, after) := by
  rw [on_outcome, body]

/-- An operation whose outcome is kept as a value leaves the world that it leaves by itself. -/
theorem on_of_on_outcome {operation : Operation α}
    {result : Except CalendarEnd (Except Failure (Except Failure α))}
    (ran : (outcome operation).on world = (result, after)) :
    ∃ inner, operation.on world = (inner, after) := by
  rw [on_outcome] at ran
  cases body : operation.on world with
  | mk inner middle =>
    rw [body] at ran
    refine ⟨inner, ?_⟩
    cases inner <;> obtain ⟨_, rfl⟩ := Prod.mk.inj ran <;> rfl

end Operation

end SignOn.Engine
