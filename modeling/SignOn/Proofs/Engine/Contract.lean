import SignOn.Engine.World

/-!
# Contracts of programs

A contract speaks about a program alone, whatever its actions give.  It has a guard, which says what
the program may do after what it has done so far, and a goal, which says how it may end
(`Program.Meets`).  So it holds beside other programs, on disturbed stores and in memory alike.

The contract of a sequence of operations is that of the first one, with the contract of the second
one as its goal (`Operation.meets_bind`).  With the like for the other ways to build operations,
the contract of an operation is computed from its text.

An operation that does only what is allowed keeps every relation between states that the allowed
actions keep (`Program.run_related`).
-/

namespace SignOn.Engine

set_option autoImplicit false

/-- An action with what it gave. -/
structure Moment where
  action : Action
  result : action.Result

/-! ## Programs -/

namespace Program

variable {α β : Type} {guard weaker : List Moment → Action → Prop}

/-- Whatever its actions give, a program performs only what the guard allows after the past, latest
moment first, and ends as the goal says. -/
def Meets (guard : List Moment → Action → Prop) (goal : List Moment → α → Prop) :
    Program α → List Moment → Prop
  | .done value, past => goal past value
  | .perform action next, past =>
      guard past action ∧ ∀ result, (next result).Meets guard goal (⟨action, result⟩ :: past)

theorem meets_bind {goal : List Moment → β → Prop} (program : Program α)
    (follow : α → Program β) (past : List Moment) :
    (program >>= follow).Meets guard goal past ↔
      program.Meets guard (fun past value => (follow value).Meets guard goal past) past := by
  change (program.bind follow).Meets guard goal past ↔ _
  induction program generalizing past with
  | done value => rfl
  | perform action next ih =>
    rw [bind, Meets, Meets]
    exact and_congr_right fun _ => forall_congr' fun result => ih result _

/-- A contract with a stronger guard and a stronger goal is stronger. -/
theorem Meets.mono {goal further : List Moment → α → Prop} {program : Program α}
    {past : List Moment} (meets : program.Meets guard goal past)
    (guards : ∀ past action, guard past action → weaker past action)
    (goals : ∀ past value, goal past value → further past value) :
    program.Meets weaker further past := by
  induction program generalizing past with
  | done value => exact goals past value meets
  | perform action next ih =>
    refine ⟨guards past action meets.1, ?_⟩
    intro result
    exact ih result (meets.2 result)

/-- A program performs allowed actions only. -/
def Only (allowed : Action → Prop) (program : Program α) : Prop :=
  ∀ past, program.Meets (fun _ => allowed) (fun _ _ => True) past

/-- What a program that performs allowed actions only ends with is known once it is known what
follows from its fact after any number of such actions. -/
theorem Only.meets {allowed : Action → Prop} {fact goal : List Moment → α → Prop}
    {program : Program α} {past : List Moment} (only : program.Only allowed)
    (facts : program.Meets (fun _ _ => True) fact past)
    (guards : ∀ past action, allowed action → guard past action)
    (goals : ∀ more value, (∀ moment ∈ more, allowed moment.action) →
      fact (more ++ past) value → goal (more ++ past) value) :
    program.Meets guard goal past := by
  have meets := only past
  clear only
  induction program generalizing past with
  | done value => exact goals [] value (List.forall_mem_nil _) facts
  | perform action next ih =>
    refine ⟨guards past action meets.1, ?_⟩
    intro result
    refine ih result (facts.2 result) ?_ (meets.2 result)
    intro more value inside holds
    have both : ∀ moment ∈ more ++ [⟨action, result⟩], allowed moment.action := by
      intro moment member
      rcases List.mem_append.1 member with earlier | last
      · exact inside moment earlier
      · obtain rfl := List.mem_singleton.1 last
        exact meets.1
    have split : more ++ ⟨action, result⟩ :: past = (more ++ [⟨action, result⟩]) ++ past := by simp
    rw [split] at holds ⊢
    exact goals _ value both holds

/-- A relation that allowed actions keep holds between the states before and after a run. -/
theorem run_related {σ : Type} {handler : Handler σ} {allowed : Action → Prop}
    (Related : σ → σ → Prop) (refl : ∀ state, Related state state)
    (trans : ∀ first second third, Related first second → Related second third →
      Related first third)
    (kept : ∀ action state, allowed action → Related state (handler action state).2)
    {program : Program α} (only : program.Only allowed) (state : σ) :
    Related state (program.run handler state).2 := by
  have meets := only []
  clear only
  generalize ([] : List Moment) = past at meets
  induction program generalizing past state with
  | done value => exact refl state
  | perform action next ih =>
    have first := kept action state meets.1
    rw [run]
    cases acted : handler action state with
    | mk result after =>
      rw [acted] at first
      cases result with
      | error calendarEnd => exact first
      | ok result =>
        exact trans _ _ _ first (ih result after _ (meets.2 result))

end Program

/-! ## Operations -/

namespace Operation

variable {α β : Type} {guard : List Moment → Action → Prop}

/-- The contract of an operation, whose goal is about its outcome. -/
def Meets (guard : List Moment → Action → Prop) (goal : List Moment → Except Failure α → Prop)
    (operation : Operation α) (past : List Moment) : Prop :=
  Program.Meets guard goal operation.run past

theorem Meets.mono {weaker : List Moment → Action → Prop}
    {goal further : List Moment → Except Failure α → Prop} {operation : Operation α}
    {past : List Moment} (meets : operation.Meets guard goal past)
    (guards : ∀ past action, guard past action → weaker past action)
    (goals : ∀ past outcome, goal past outcome → further past outcome) :
    operation.Meets weaker further past :=
  Program.Meets.mono meets guards goals

variable {goal : List Moment → Except Failure α → Prop}

@[simp] theorem meets_pure (value : α) (past : List Moment) :
    (pure value : Operation α).Meets guard goal past ↔ goal past (.ok value) := Iff.rfl

@[simp] theorem meets_ofOutcome (outcome : Except Failure α) (past : List Moment) :
    (ofOutcome outcome).Meets guard goal past ↔ goal past outcome := Iff.rfl

@[simp] theorem meets_ofVerdict (verdict : Except Rejection α) (past : List Moment) :
    (ofVerdict verdict).Meets guard goal past ↔ goal past (verdict.mapError .rejected) := Iff.rfl

@[simp] theorem meets_bind {goal : List Moment → Except Failure β → Prop} (operation : Operation α)
    (follow : α → Operation β) (past : List Moment) :
    (operation >>= follow).Meets guard goal past ↔
      operation.Meets guard (fun past outcome =>
        match outcome with
        | .ok value => (follow value).Meets guard goal past
        | .error failure => goal past (.error failure)) past := by
  refine (Program.meets_bind operation.run (ExceptT.bindCont follow) past).trans ?_
  constructor
  · intro meets
    apply Program.Meets.mono meets (fun _ _ allowed => allowed)
    intro past outcome ends
    cases outcome <;> exact ends
  · intro meets
    apply Program.Meets.mono meets (fun _ _ allowed => allowed)
    intro past outcome ends
    cases outcome <;> exact ends

@[simp] theorem meets_act {action : Action}
    {goal : List Moment → Except Failure action.Result → Prop} (past : List Moment) :
    (act action).Meets guard goal past ↔
      guard past action ∧ ∀ result, goal (⟨action, result⟩ :: past) (.ok result) := Iff.rfl

/-- A program that is taken for an operation succeeds with what it ends with. -/
@[simp] theorem meets_lift (program : Program α) (past : List Moment) :
    Operation.Meets guard goal (ExceptT.lift program) past ↔
      program.Meets guard (fun past value => goal past (.ok value)) past := by
  change Program.Meets guard goal (program >>= (pure ∘ Except.ok)) past ↔ _
  rw [Program.meets_bind]
  rfl

@[simp] theorem meets_outcome {goal : List Moment → Except Failure (Except Failure α) → Prop}
    (operation : Operation α) (past : List Moment) :
    (outcome operation).Meets guard goal past ↔
      operation.Meets guard (fun past outcome => goal past (.ok outcome)) past :=
  meets_lift operation.run past

/-- A call of a store answers, fails or takes too long. -/
@[simp] theorem meets_call {storeCall : StoreCall}
    {goal : List Moment → Except Failure storeCall.Answer → Prop} (past : List Moment) :
    (call storeCall).Meets guard goal past ↔
      guard past (.store storeCall) ∧ ∀ reply : Reply storeCall.Answer,
        goal (⟨.store storeCall, reply⟩ :: past)
          (match reply with
          | .answered answer => .ok answer
          | .failed error => .error (.storage error)
          | .timedOut => .error (.timeout storeCall.name)) := by
  rw [call, meets_bind, meets_act]
  refine and_congr_right fun _ => forall_congr' fun reply => ?_
  cases reply <;> exact Iff.rfl

/-! ### Allowed actions -/

/-- An operation performs allowed actions only. -/
def Only (allowed : Action → Prop) (operation : Operation α) : Prop :=
  Program.Only allowed operation.run

section Only

variable {allowed : Action → Prop}

theorem Only.meets {fact : List Moment → Except Failure α → Prop} {operation : Operation α}
    {past : List Moment} (only : operation.Only allowed)
    (facts : operation.Meets (fun _ _ => True) fact past)
    (guards : ∀ past action, allowed action → guard past action)
    (goals : ∀ more outcome, (∀ moment ∈ more, allowed moment.action) →
      fact (more ++ past) outcome → goal (more ++ past) outcome) :
    operation.Meets guard goal past :=
  Program.Only.meets only facts guards goals

theorem only_pure (value : α) : (pure value : Operation α).Only allowed := fun _ => trivial

theorem only_ofOutcome (outcome : Except Failure α) : (ofOutcome outcome).Only allowed :=
  fun _ => trivial

theorem only_ofVerdict (verdict : Except Rejection α) : (ofVerdict verdict).Only allowed :=
  fun _ => trivial

theorem only_reject (reason : Rejection) : (reject reason : Operation α).Only allowed :=
  fun _ => trivial

theorem only_bind {operation : Operation α} {follow : α → Operation β}
    (first : operation.Only allowed) (second : ∀ value, (follow value).Only allowed) :
    (operation >>= follow).Only allowed := by
  intro past
  apply (meets_bind operation follow past).2
  apply Meets.mono (first past) (fun _ _ allowed => allowed)
  intro past outcome _
  cases outcome with
  | ok value => exact second value past
  | error failure => trivial

/-- An operation succeeds, if it does, with a value that is possible. -/
def Yields (possible : α → Prop) (operation : Operation α) : Prop :=
  ∀ past, operation.Meets (fun _ _ => True)
    (fun _ outcome => ∀ value, outcome = .ok value → possible value) past

/-- What follows an operation need only be right for the values that are possible. -/
theorem only_bind_of {operation : Operation α} {follow : α → Operation β} {possible : α → Prop}
    (first : operation.Only allowed) (yields : operation.Yields possible)
    (second : ∀ value, possible value → (follow value).Only allowed) :
    (operation >>= follow).Only allowed := by
  intro past
  apply (meets_bind operation follow past).2
  refine first.meets (yields past) (fun _ _ allowed => allowed) ?_
  intro more outcome _ possibly
  cases outcome with
  | ok value => exact second value (possibly value rfl) (more ++ past)
  | error failure => trivial

theorem yields_ofVerdict {verdict : Except Rejection α} {possible : α → Prop}
    (values : ∀ value, verdict = .ok value → possible value) :
    (ofVerdict verdict).Yields possible := by
  intro past
  rw [meets_ofVerdict]
  cases verdict with
  | error reason => exact nofun
  | ok value =>
    intro other same
    exact values other (congrArg Except.ok (Except.ok.inj same))

theorem yields_act_bind {action : Action} {follow : action.Result → Operation α}
    {possible : α → Prop} (values : ∀ result, (follow result).Yields possible) :
    (act action >>= follow).Yields possible := by
  intro past
  rw [meets_bind, meets_act]
  exact ⟨trivial, fun result => values result _⟩

theorem only_act {action : Action} (isAllowed : allowed action) : (act action).Only allowed :=
  fun _ => ⟨isAllowed, fun _ => trivial⟩

theorem only_call {storeCall : StoreCall} (isAllowed : allowed (.store storeCall)) :
    (call storeCall).Only allowed :=
  fun past => (meets_call past).2 ⟨isAllowed, fun _ => trivial⟩

theorem only_outcome {operation : Operation α} (body : operation.Only allowed) :
    (outcome operation).Only allowed :=
  fun past => (meets_outcome operation past).2 (body past)

end Only

end Operation

end SignOn.Engine
