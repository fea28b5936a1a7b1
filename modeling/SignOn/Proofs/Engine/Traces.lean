import SignOn.Proofs.Engine.Endings

/-!
# What operations do

A program does some moments, and ends with a value, if it performs their actions in this order when
their results are what it is given (`Program.Does`).  As in contracts, the latest moment comes first.
What holds at the end of an operation is just what holds of everything that it can do
(`Operation.ends_iff`).

Among the moments are events that are published; in memory, they are what is added to the audit trail
(`Operation.Ends.of_on`).  An operation is quiet if it publishes nothing and is not turned down by a
limit (`Quiet`); enforcing a limit publishes one event where the limit is exceeded, and otherwise
nothing (`LimitTrail`).
-/

namespace SignOn.Engine

set_option autoImplicit false

open Operation

/-! ## Traces -/

namespace Program

variable {α β : Type}

/-- A program does some moments, latest first, and ends with a value. -/
inductive Does : Program α → List Moment → α → Prop where
  | done (value : α) : Does (.done value) [] value
  | perform {action : Action} {next : action.Result → Program α} {result : action.Result}
      {moments : List Moment} {value : α} (rest : (next result).Does moments value) :
      Does (.perform action next) (moments ++ [⟨action, result⟩]) value

/-- One program after another does what both do. -/
theorem Does.bind {program : Program α} {follow : α → Program β} {earlier later : List Moment}
    {middle : α} {value : β} (first : program.Does earlier middle)
    (second : (follow middle).Does later value) :
    (program >>= follow).Does (later ++ earlier) value := by
  induction first with
  | done middle =>
    rw [List.append_nil]
    exact second
  | perform rest ih =>
    rw [← List.append_assoc]
    exact .perform (ih second)

end Program

namespace Operation

variable {α β : Type}

/-- An operation does some moments, latest first, and ends with an outcome. -/
def Does (operation : Operation α) (moments : List Moment) (outcome : Except Failure α) : Prop :=
  Program.Does operation.run moments outcome

variable {goal : List Moment → Except Failure α → Prop} {operation : Operation α}
  {past moments : List Moment}

theorem Does.bind {follow : α → Operation β} {earlier later : List Moment} {middle : α}
    {outcome : Except Failure β} (first : operation.Does earlier (.ok middle))
    (second : (follow middle).Does later outcome) :
    (operation >>= follow).Does (later ++ earlier) outcome :=
  Program.Does.bind first second

theorem Does.bind_error {follow : α → Operation β} {failure : Failure}
    (first : operation.Does moments (.error failure)) :
    (operation >>= follow).Does moments (.error failure) := by
  have does : ((operation.run : Program _) >>= ExceptT.bindCont follow).Does ([] ++ moments)
      (.error failure) := Program.Does.bind first (.done _)
  exact does

theorem Does.map {outcome : Except Failure α} (answer : α → β) (does : operation.Does moments outcome) :
    (do return answer (← operation) : Operation β).Does moments (outcome.map answer) := by
  cases outcome with
  | ok value =>
    have both : (do return answer (← operation) : Operation β).Does ([] ++ moments)
        (.ok (answer value)) := does.bind (.done _)
    exact both
  | error failure => exact does.bind_error

end Operation

/-! ## Published events -/

/-- The event that is published at a moment. -/
def Moment.published? : Moment → Option Audit.Event
  | ⟨.publish event, _⟩ => some event
  | _ => none

/-- The events that are published at some moments, latest first, in the order of their publication. -/
def published (moments : List Moment) : List Audit.Event :=
  moments.reverse.filterMap Moment.published?

theorem published_cons (moment : Moment) (past : List Moment) :
    published (moment :: past) = published past ++ moment.published?.toList := by
  rw [published, List.reverse_cons, List.filterMap_append, published]
  cases told : moment.published? with
  | none => rw [List.filterMap_cons_none told, List.filterMap_nil, Option.toList_none]
  | some event => rw [List.filterMap_cons_some told, List.filterMap_nil, Option.toList_some]

/-- The action publishes nothing. -/
def Action.IsSilent : Action → Prop
  | .publish _ => False
  | _ => True

theorem Moment.published?_of_silent {moment : Moment} (silent : moment.action.IsSilent) :
    moment.published? = none := by
  obtain ⟨action, result⟩ := moment
  cases action with
  | publish event => exact silent.elim
  | _ => rfl

/-- What has been published is the same after a program that publishes nothing. -/
theorem Program.Meets.silent {α : Type} {goal : List Moment → α → Prop} {program : Program α}
    {past : List Moment} {events : List Audit.Event} (same : published past = events)
    (meets : program.Meets (fun _ action => action.IsSilent) goal past) :
    program.Meets (fun _ _ => True) (fun after value => published after = events ∧ goal after value)
      past := by
  induction program generalizing past with
  | done value => exact ⟨same, meets⟩
  | perform action next ih =>
    refine ⟨trivial, fun result => ih result ?_ (meets.2 result)⟩
    rw [published_cons, Moment.published?_of_silent meets.1, same]
    exact List.append_nil events

section Quiet

variable {α β : Type}

/-- An outcome is that of a call turned down by a limit. -/
def IsExceeded (outcome : Except Failure α) : Prop :=
  ∃ key, outcome = .error (.rejected (.rateLimitExceeded key))

/-- An operation publishes nothing, and is not turned down by a limit. -/
def Quiet (operation : Operation α) : Prop :=
  ∀ past, operation.Meets (fun _ action => action.IsSilent) (fun _ outcome => ¬ IsExceeded outcome) past

/-- What has been published is the same after an operation that is quiet. -/
theorem Quiet.ends {operation : Operation α} (quiet : Quiet operation) (past : List Moment) :
    operation.Ends (fun after outcome =>
      published after = published past ∧ ¬ IsExceeded outcome) past :=
  (quiet past).silent rfl

theorem not_isExceeded_ok (value : α) : ¬ IsExceeded (.ok value) :=
  fun ⟨_, same⟩ => nomatch same

/-- A failure is the same whatever answer it stands in for. -/
theorem IsExceeded.of_error {failure : Failure}
    (exceeded : IsExceeded (.error failure : Except Failure α)) :
    IsExceeded (.error failure : Except Failure β) := by
  obtain ⟨key, same⟩ := exceeded
  exact ⟨key, congrArg Except.error (Except.error.inj same)⟩

end Quiet

/-! ## Records of limits -/

section Limits

variable {α β : Type}

/-- The event that tells that an identity has used up the budget of a key. -/
def limitEvent (context : Context) (identity : UserId) (key : String) (now : Instant) : Audit.Event :=
  eventAt now .rateLimitExceeded (some identity) context .warn ("Rate limit exceeded: " ++ key)

/-- What is published of limits before an outcome: one event about the identity if a limit of it is
exceeded, and otherwise nothing. -/
inductive LimitTrail (context : Context) (actor : Option UserId) :
    List Audit.Event → Except Failure α → Prop where
  | within {outcome : Except Failure α} (other : ¬ IsExceeded outcome) :
      LimitTrail context actor [] outcome
  | exceeded {identity : UserId} (operation : Settings.LimitedOperation) (now : Instant)
      (named : actor = some identity) :
      LimitTrail context actor [limitEvent context identity (limitKey operation identity) now]
        (.error (.rejected (.rateLimitExceeded (limitKey operation identity))))

variable {service : Service} {context : Context} {operation : Settings.LimitedOperation}
  {identity : UserId}

theorem Counts.silent {limits : Settings.RateLimits} {counting : List Moment}
    {outcome : Except Failure Unit} (counts : Counts limits operation identity counting outcome) :
    ∀ moment ∈ counting, moment.action.IsSilent := by
  intro moment member
  cases counts with
  | unlimited free => cases member
  | within limited few =>
    obtain rfl := List.mem_singleton.1 member
    trivial
  | beyond limited many =>
    obtain rfl := List.mem_singleton.1 member
    trivial
  | uncounted limited failed =>
    obtain rfl := List.mem_singleton.1 member
    trivial

end Limits

end SignOn.Engine
