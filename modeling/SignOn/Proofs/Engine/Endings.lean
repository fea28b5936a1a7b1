import SignOn.Proofs.Engine.CallContract

/-!
# How operations end

Whatever its actions give, an operation ends as its goal says (`Operation.Ends`); what it has done
by then is part of the goal.  Three things are said of most operations of the service.  Their
outcome is the last thing they record, at the level and with the message that it calls for
(`Records`).  They stop at the first call of a store that is not answered: what they return is the
failure of that call, and all that follows it are records (`Stops`).  And what has a limit counts
first, and goes no further unless the count is within the limit (`Counts`).
-/

namespace SignOn.Engine

set_option autoImplicit false

open Operation

/-! ## Endings -/

namespace Operation

variable {α β : Type}

/-- Whatever its actions give, an operation ends as the goal says. -/
abbrev Ends (goal : List Moment → Except Failure α → Prop) (operation : Operation α)
    (past : List Moment) : Prop :=
  operation.Meets (fun _ _ => True) goal past

variable {goal further : List Moment → Except Failure α → Prop} {operation : Operation α}
  {past : List Moment}

theorem Ends.mono (ends : operation.Ends goal past)
    (goals : ∀ past outcome, goal past outcome → further past outcome) :
    operation.Ends further past :=
  Meets.mono ends (fun _ _ allowed => allowed) goals

theorem Ends.and (here : operation.Ends goal past) (there : operation.Ends further past) :
    operation.Ends (fun past outcome => goal past outcome ∧ further past outcome) past := by
  rw [Ends, Meets] at here there ⊢
  generalize operation.run = program at here there ⊢
  induction program generalizing past with
  | done value => exact ⟨here, there⟩
  | perform action next ih =>
    exact ⟨trivial, fun result => ih result (here.2 result) (there.2 result)⟩

/-- An operation that performs allowed actions only ends with nothing else added to the past. -/
theorem Only.ends {allowed : Action → Prop} (only : operation.Only allowed) (past : List Moment) :
    operation.Ends (fun after _ => ∃ more, after = more ++ past ∧
      ∀ moment ∈ more, allowed moment.action) past :=
  only.meets (only_of_forall (fun _ => trivial) operation past) (fun _ _ _ => trivial)
    fun more _ inside _ => ⟨more, rfl, inside⟩

end Operation

/-! ## Replies -/

/-- What a call of a store comes to by its reply. -/
def StoreCall.outcome (call : StoreCall) : Reply call.Answer → Except Failure call.Answer
  | .answered answer => .ok answer
  | .failed error => .error (.storage error)
  | .timedOut => .error (.timeout call.name)

/-- The failure of a store, if that is what a moment is. -/
def Moment.failure? : Moment → Option Failure
  | ⟨.store _, .failed error⟩ => some (.storage error)
  | ⟨.store call, .timedOut⟩ => some (.timeout call.name)
  | _ => none

/-- The action is a call of a store. -/
def Action.AsksStore : Action → Prop
  | .store _ => True
  | _ => False

theorem Moment.failure?_eq_none {moment : Moment} (idle : ¬ moment.action.AsksStore) :
    moment.failure? = none := by
  obtain ⟨action, result⟩ := moment
  cases action with
  | store call => exact absurd trivial idle
  | _ => rfl

theorem Operation.ends_call {call : StoreCall}
    {goal : List Moment → Except Failure call.Answer → Prop} {past : List Moment} :
    (Operation.call call).Ends goal past ↔
      ∀ reply, goal (⟨.store call, reply⟩ :: past) (call.outcome reply) := by
  rw [Ends, meets_call, true_and]
  refine forall_congr' fun reply => ?_
  cases reply <;> exact Iff.rfl

/-- A reply is an answer, or the failure of its moment. -/
theorem StoreCall.outcome_cases (call : StoreCall) (reply : Reply call.Answer) :
    (∃ answer, reply = .answered answer ∧ call.outcome reply = .ok answer ∧
        (⟨.store call, reply⟩ : Moment).failure? = none) ∨
      ∃ failure, call.outcome reply = .error failure ∧
        (⟨.store call, reply⟩ : Moment).failure? = some failure := by
  cases reply with
  | answered answer => exact Or.inl ⟨answer, rfl, rfl, rfl⟩
  | failed error => exact Or.inr ⟨.storage error, rfl, rfl⟩
  | timedOut => exact Or.inr ⟨.timeout call.name, rfl, rfl⟩

/-- The failure of a store is not for its caller to expect, and all that the caller is told is that
something went wrong inside. -/
theorem Moment.isExpected_of_failure? {moment : Moment} {failure : Failure}
    (failed : moment.failure? = some failure) :
    failure.isExpected = false ∧ failure.publicCode = .internal := by
  unfold failure? at failed
  split at failed
  · obtain rfl := Option.some.inj failed
    exact ⟨rfl, rfl⟩
  · obtain rfl := Option.some.inj failed
    exact ⟨rfl, rfl⟩
  · cases failed

/-! ## Records -/

section Records

variable {α : Type}

/-- The level at which an outcome is recorded. -/
def levelOf : Except Failure α → Audit.Level
  | .ok _ => .info
  | .error failure => if failure.isExpected then .warn else .error

/-- The message with which an outcome is recorded. -/
def messageOf : Except Failure α → String
  | .ok _ => "Success"
  | .error failure => (if failure.isExpected then "Fail: " else "Error: ") ++ failure.message

/-- Some moments are the record of an outcome: the clock is read, and an event is published. -/
inductive Records (operation : Audit.Operation) (outcome : Except Failure α) : List Moment → Prop where
  | published {now : Instant} {event : Audit.Event} (kind : event.operation = operation)
      (level : event.level = levelOf outcome) (message : event.message = messageOf outcome) :
      Records operation outcome [⟨.publish event, ()⟩, .clock now]

/-- Some moments are records: nothing is asked of a store, and no identifier is drawn. -/
def AreRecords (moments : List Moment) : Prop :=
  ∀ moment ∈ moments, moment.action = .readClock ∨ ∃ event, moment.action = .publish event

variable {operation : Audit.Operation} {context : Context} {record past : List Moment}

theorem Records.areRecords {outcome : Except Failure α} (records : Records operation outcome record) :
    AreRecords record := by
  obtain ⟨_, _, _⟩ := records
  simp [AreRecords]

/-- The event that is published at an instant. -/
def eventAt (now : Instant) (operation : Audit.Operation) (actor : Option UserId) (context : Context)
    (level : Audit.Level) (message : String) : Audit.Event where
  operation := operation
  user := (actor.map UserId.text).getD Net.unknownOrigin
  message := message
  origin := Net.originText context.origin
  level := level
  timestamp := .ofInstant now

/-- The record of an outcome at an instant, under an actor, latest moment first. -/
def recordAt (now : Instant) (operation : Audit.Operation) (actor : Option UserId)
    (context : Context) (outcome : Except Failure α) : List Moment :=
  [⟨.publish (eventAt now operation actor context (levelOf outcome) (messageOf outcome)), ()⟩,
    .clock now]

theorem records_recordAt {now : Instant} {actor : Option UserId} {outcome : Except Failure α} :
    Records operation outcome (recordAt now operation actor context outcome) :=
  .published rfl rfl rfl

theorem ends_publishNow {actor : Option UserId} {level : Audit.Level} {message : String}
    {goal : List Moment → Except Failure Unit → Prop}
    (goals : ∀ now, goal ([⟨.publish (eventAt now operation actor context level message), ()⟩,
      .clock now] ++ past) (.ok ())) :
    (publishNow operation actor context level message).Ends goal past := by
  rw [publishNow, Ends, meets_bind, meets_act]
  exact ⟨trivial, fun now => ⟨trivial, fun _ => goals now⟩⟩

theorem ends_recordFailure_at (failure : Failure) {goal : List Moment → Except Failure Unit → Prop}
    (goals : ∀ now, goal (recordAt now operation context.actor context
      (.error failure : Except Failure α) ++ past) (.ok ())) :
    (recordFailure operation context failure).Ends goal past := by
  unfold recordFailure
  split
  · next expected =>
    have level : levelOf (.error failure : Except Failure α) = .warn := if_pos expected
    have message : messageOf (.error failure : Except Failure α) = "Fail: " ++ failure.message := by
      rw [messageOf, if_pos expected]
    refine ends_publishNow fun now => ?_
    rw [← level, ← message]
    exact goals now
  · next unexpected =>
    have level : levelOf (.error failure : Except Failure α) = .error := if_neg unexpected
    have message : messageOf (.error failure : Except Failure α) = "Error: " ++ failure.message := by
      rw [messageOf, if_neg unexpected]
    refine ends_publishNow fun now => ?_
    rw [← level, ← message]
    exact goals now

theorem ends_recordOutcome_at {outcome : Except Failure α}
    {goal : List Moment → Except Failure Unit → Prop}
    (goals : ∀ now, goal (recordAt now operation context.actor context outcome ++ past) (.ok ())) :
    (recordOutcome operation context outcome).Ends goal past := by
  cases outcome with
  | ok value => exact ends_publishNow goals
  | error failure => exact ends_recordFailure_at failure goals

/-- A body that is observed ends with its record. -/
theorem ends_observe_at {body : Operation α} {goal : List Moment → Except Failure α → Prop}
    (inside : body.Ends (fun past outcome => ∀ now,
      goal (recordAt now operation context.actor context outcome ++ past) outcome) past) :
    (observe operation context body).Ends goal past := by
  rw [observe, Ends, meets_bind, meets_outcome]
  refine Ends.mono inside fun past outcome ends => ?_
  dsimp only
  rw [meets_bind]
  exact ends_recordOutcome_at ends

/-- A body that is observed for its failures ends with their record, and otherwise by itself. -/
theorem ends_observeFailure_at {body : Operation α} {goal : List Moment → Except Failure α → Prop}
    (inside : body.Ends (fun past outcome =>
      (∀ value, outcome = .ok value → goal past (.ok value)) ∧
      ∀ failure, outcome = .error failure → ∀ now,
        goal (recordAt now operation context.actor context (.error failure : Except Failure α) ++ past)
          (.error failure)) past) :
    (observeFailure operation context body).Ends goal past := by
  rw [observeFailure, Ends, meets_bind, meets_outcome]
  refine Ends.mono inside fun past outcome ends => ?_
  cases outcome with
  | ok value => exact ends.1 value rfl
  | error failure =>
    dsimp only
    rw [meets_bind]
    exact ends_recordFailure_at failure (ends.2 failure rfl)

theorem ends_observe {body : Operation α} {goal : List Moment → Except Failure α → Prop}
    (inside : body.Ends (fun past outcome => ∀ record, Records operation outcome record →
      goal (record ++ past) outcome) past) :
    (observe operation context body).Ends goal past :=
  ends_observe_at (Ends.mono inside fun _ _ ends _ => ends _ records_recordAt)

theorem ends_observeFailure {body : Operation α} {goal : List Moment → Except Failure α → Prop}
    (inside : body.Ends (fun past outcome =>
      (∀ value, outcome = .ok value → goal past (.ok value)) ∧
      ∀ failure, outcome = .error failure → ∀ record,
        Records operation (.error failure : Except Failure α) record →
          goal (record ++ past) (.error failure)) past) :
    (observeFailure operation context body).Ends goal past :=
  ends_observeFailure_at (Ends.mono inside fun _ _ ends =>
    ⟨ends.1, fun failure failed _ => ends.2 failure failed _ records_recordAt⟩)

end Records

/-! ## Stopping at the first failure -/

/-- Every call of a store that was made was answered. -/
def AllAnswered (past : List Moment) : Prop :=
  ∀ moment ∈ past, moment.failure? = none

/-- Either every call of a store was answered; or one failed, with the outcome for its failure, all
calls before it were answered, and after it nothing happened but records. -/
inductive Stops {α : Type} (past : List Moment) : Except Failure α → Prop where
  | answered {outcome : Except Failure α} (all : AllAnswered past) : Stops past outcome
  | stopped {later earlier : List Moment} {moment : Moment} {failure : Failure}
      (split : past = later ++ moment :: earlier) (records : AreRecords later)
      (failed : moment.failure? = some failure) (all : AllAnswered earlier) :
      Stops past (.error failure)

theorem AreRecords.allAnswered {moments : List Moment} (records : AreRecords moments) :
    AllAnswered moments := by
  intro moment member
  apply Moment.failure?_eq_none
  rcases records moment member with same | ⟨event, same⟩ <;> rw [same] <;> exact id

theorem AllAnswered.append {newer older : List Moment} (here : AllAnswered newer)
    (there : AllAnswered older) : AllAnswered (newer ++ older) :=
  List.forall_mem_append.2 ⟨here, there⟩

theorem AllAnswered.cons {moment : Moment} {past : List Moment} (here : moment.failure? = none)
    (there : AllAnswered past) : AllAnswered (moment :: past) :=
  List.forall_mem_cons.2 ⟨here, there⟩

theorem Stops.records {α : Type} {past record : List Moment} {outcome : Except Failure α}
    (stops : Stops past outcome) (records : AreRecords record) : Stops (record ++ past) outcome := by
  cases stops with
  | answered all => exact .answered (records.allAnswered.append all)
  | @stopped later earlier moment failure split recordsLater failed all =>
    have longer : record ++ past = (record ++ later) ++ moment :: earlier := by
      rw [split, List.append_assoc]
    exact .stopped longer (List.forall_mem_append.2 ⟨records, recordsLater⟩) failed all

/-- The outcome of a stopped operation is what any failing moment of it says. -/
theorem Stops.outcome_eq {α : Type} {past : List Moment} {outcome : Except Failure α}
    (stops : Stops past outcome) {moment : Moment} (member : moment ∈ past) {failure : Failure}
    (failed : moment.failure? = some failure) : outcome = .error failure := by
  have answered {moments : List Moment} (all : AllAnswered moments) : moment ∉ moments := by
    intro inside
    rw [all moment inside] at failed
    cases failed
  cases stops with
  | answered all => exact absurd member (answered all)
  | stopped split records first all =>
    rw [split] at member
    rcases List.mem_append.1 member with later | here
    · exact absurd later (answered records.allAnswered)
    · rcases List.mem_cons.1 here with rfl | earlier
      · rw [Option.some.inj (failed.symm.trans first)]
      · exact absurd earlier (answered all)

/-- An operation stops at the first call of a store that is not answered. -/
def Stopping {α : Type} (operation : Operation α) : Prop :=
  ∀ past, AllAnswered past → operation.Ends Stops past

section Stopping

variable {α β : Type}

theorem stopping_pure (value : α) : Stopping (pure value : Operation α) :=
  fun _ all => .answered all

theorem stopping_ofOutcome (outcome : Except Failure α) : Stopping (ofOutcome outcome) :=
  fun _ all => .answered all

theorem stopping_ofVerdict (verdict : Except Rejection α) : Stopping (ofVerdict verdict) :=
  fun _ all => .answered all

theorem stopping_reject (reason : Rejection) : Stopping (reject reason : Operation α) :=
  fun _ all => .answered all

theorem stopping_act {action : Action} (idle : ¬ action.AsksStore) : Stopping (act action) :=
  fun _ all => ⟨trivial, fun _ => .answered (all.cons (Moment.failure?_eq_none idle))⟩

theorem stopping_call (call : StoreCall) : Stopping (Operation.call call) := by
  intro past all
  refine ends_call.2 fun reply => ?_
  rcases call.outcome_cases reply with ⟨answer, _, _, answered⟩ | ⟨failure, outcome, failed⟩
  · exact .answered (all.cons answered)
  · rw [outcome]
    exact .stopped (List.nil_append _).symm (List.forall_mem_nil _) failed all

theorem stopping_bind {operation : Operation α} {follow : α → Operation β}
    (first : Stopping operation) (second : ∀ value, Stopping (follow value)) :
    Stopping (operation >>= follow) := by
  intro past all
  rw [Ends, meets_bind]
  refine Ends.mono (first past all) fun past outcome stops => ?_
  cases stops with
  | @answered outcome all =>
    cases outcome with
    | ok value => exact second value past all
    | error failure => exact .answered all
  | stopped split records failed all => exact .stopped split records failed all

variable {operation : Audit.Operation} {context : Context}

theorem stopping_observe {body : Operation α} (inside : Stopping body) :
    Stopping (observe operation context body) := by
  intro past all
  refine ends_observe (Ends.mono (inside past all) fun past outcome stops record records => ?_)
  exact stops.records records.areRecords

theorem stopping_observeFailure {body : Operation α} (inside : Stopping body) :
    Stopping (observeFailure operation context body) := by
  intro past all
  refine ends_observeFailure (Ends.mono (inside past all) fun past outcome stops => ⟨?_, ?_⟩)
  · rintro value rfl
    exact stops
  · rintro failure rfl record records
    exact stops.records records.areRecords

end Stopping

/-! ## Where an operation succeeds -/

namespace Operation

variable {α β : Type} {goal : List Moment → β → Prop} {past : List Moment}

/-- An operation assures a goal that holds wherever it succeeds. -/
abbrev Assures (goal : List Moment → α → Prop) (operation : Operation α) (past : List Moment) : Prop :=
  operation.Ends (fun past outcome => ∀ value, outcome = .ok value → goal past value) past

/-- Where a sequence succeeds, so does its second operation, after anything that the first did. -/
theorem assures_bind {operation : Operation α} {follow : α → Operation β}
    (next : ∀ more value, (follow value).Assures goal (more ++ past)) :
    (operation >>= follow).Assures goal past := by
  rw [Assures, Ends, meets_bind]
  refine Ends.mono ((only_of_forall (fun _ => trivial) operation).ends past) ?_
  rintro _ outcome ⟨more, rfl, _⟩
  cases outcome with
  | error failure => exact nofun
  | ok value => exact next more value

/-- Where what follows a call of a store succeeds, the call was answered. -/
theorem assures_call {call : StoreCall} {follow : call.Answer → Operation β}
    (next : ∀ answer, (follow answer).Assures goal (.answered call answer :: past)) :
    (Operation.call call >>= follow).Assures goal past := by
  rw [Assures, Ends, meets_bind]
  refine ends_call.2 fun reply => ?_
  cases reply with
  | answered answer => exact next answer
  | failed error => exact nofun
  | timedOut => exact nofun

/-- Where what follows a verdict on the time succeeds, the verdict was favourable. -/
theorem assures_verdict {verdict : Instant → Except Rejection α} {follow : α → Operation β}
    (next : ∀ now value, verdict now = .ok value →
      (follow value).Assures goal (.clock now :: past)) :
    ((do
      let now ← act .readClock
      ofVerdict (verdict now)) >>= follow).Assures goal past := by
  rw [Assures, Ends, meets_bind, meets_bind]
  refine (meets_act _).2 ⟨trivial, fun now => ?_⟩
  dsimp only
  rw [meets_ofVerdict]
  cases told : verdict now with
  | error rejection => exact nofun
  | ok value => exact next now value told

/-- A goal that outlives records is assured by a body that is observed. -/
theorem assures_observe {kind : Audit.Operation} {context : Context} {body : Operation β}
    (kept : ∀ record past value, goal past value → goal (record ++ past) value)
    (inside : body.Assures goal past) : (observe kind context body).Assures goal past := by
  refine ends_observe (Ends.mono inside ?_)
  intro past outcome holds record _ value succeeded
  exact kept record past value (holds value succeeded)

/-- Where what follows an operation that is observed for its failures succeeds, nothing was
recorded of that. -/
theorem assures_observeFailure_bind {kind : Audit.Operation} {context : Context} {body : Operation α}
    {follow : α → Operation β} (inside : (body >>= follow).Assures goal past) :
    (observeFailure kind context body >>= follow).Assures goal past := by
  rw [Assures, Ends, meets_bind] at inside ⊢
  refine ends_observeFailure (Ends.mono inside fun past outcome ends => ⟨?_, ?_⟩)
  · rintro value rfl
    exact ends
  · rintro failure rfl record _
    exact nofun

end Operation

/-! ## Counting first -/

section Counting

open Settings (LimitedOperation RateLimits)
open Service (windowKey)

/-- What the check of a limit does, latest first, and what it comes to. -/
inductive Counts (limits : RateLimits) (operation : LimitedOperation) (identity : UserId) :
    List Moment → Except Failure Unit → Prop where
  | unlimited (free : limits.limitOf operation = none) : Counts limits operation identity [] (.ok ())
  | within {limit : Settings.RateLimit} {count : Nat}
      (limited : limits.limitOf operation = some limit) (few : count ≤ limit.limit) :
      Counts limits operation identity
        [.answered (.count (windowKey operation identity) limit.window) count] (.ok ())
  | beyond {limit : Settings.RateLimit} {count : Nat}
      (limited : limits.limitOf operation = some limit) (many : limit.limit < count) :
      Counts limits operation identity
        [.answered (.count (windowKey operation identity) limit.window) count]
        (.error (.rejected (.rateLimitExceeded (limitKey operation identity))))
  | uncounted {limit : Settings.RateLimit} {reply : Reply Nat} {failure : Failure}
      (limited : limits.limitOf operation = some limit)
      (failed : Moment.failure?
        ⟨.store (.count (windowKey operation identity) limit.window), reply⟩ = some failure) :
      Counts limits operation identity
        [⟨.store (.count (windowKey operation identity) limit.window), reply⟩] (.error failure)

variable {limits : RateLimits} {service : Service} {context : Context}
  {operation : LimitedOperation} {identity : UserId} {past counting : List Moment}
  {outcome : Except Failure Unit}

theorem ends_checkLimit :
    (checkLimit limits operation identity).Ends (fun after outcome =>
      ∃ counting, Counts limits operation identity counting outcome ∧
        after = counting ++ past) past := by
  unfold checkLimit
  cases limited : limits.limitOf operation with
  | none => exact ⟨[], .unlimited limited, rfl⟩
  | some limit =>
    dsimp only
    rw [allow, Ends, meets_bind, meets_bind]
    refine ends_call.2 fun reply => ?_
    rcases StoreCall.outcome_cases _ reply with
      ⟨count, rfl, outcome, _⟩ | ⟨failure, outcome, failed⟩
    · rw [outcome]
      dsimp only
      rw [meets_pure]
      by_cases few : count ≤ limit.limit
      · rw [decide_eq_true few]
        exact ⟨_, .within limited few, rfl⟩
      · rw [decide_eq_false few]
        exact ⟨_, .beyond limited (Nat.lt_of_not_le few), rfl⟩
    · rw [outcome]
      exact ⟨_, .uncounted limited failed, rfl⟩

/-- A limit is enforced by counting, with records of what is beyond it. -/
theorem ends_enforce :
    (service.enforce context operation identity).Ends (fun after outcome =>
      ∃ records counting, AreRecords records ∧
        Counts service.limits operation identity counting outcome ∧
        after = records ++ (counting ++ past)) past := by
  rw [Service.enforce, Ends, meets_bind, meets_outcome]
  refine Ends.mono ends_checkLimit ?_
  rintro _ outcome ⟨counting, counts, rfl⟩
  dsimp only
  split
  · rw [meets_bind]
    refine ends_publishNow fun now => ?_
    exact ⟨_, counting, by simp [AreRecords], counts, rfl⟩
  · exact ⟨[], counting, List.forall_mem_nil _, counts, rfl⟩

/-- A count that failed is what the check of the limit comes to. -/
theorem Counts.outcome_eq (counts : Counts limits operation identity counting outcome)
    {moment : Moment} (member : moment ∈ counting) {failure : Failure}
    (failed : moment.failure? = some failure) : outcome = .error failure := by
  cases counts with
  | unlimited free => cases member
  | within limited few =>
    obtain rfl := List.mem_singleton.1 member
    cases failed
  | beyond limited many =>
    obtain rfl := List.mem_singleton.1 member
    cases failed
  | uncounted limited first =>
    obtain rfl := List.mem_singleton.1 member
    rw [Option.some.inj (failed.symm.trans first)]

theorem Counts.stops (counts : Counts limits operation identity counting outcome)
    (all : AllAnswered past) : Stops (counting ++ past) outcome := by
  cases counts with
  | unlimited free => exact .answered all
  | within limited few => exact .answered (all.cons rfl)
  | beyond limited many => exact .answered (all.cons rfl)
  | uncounted limited failed =>
    exact .stopped (List.nil_append _).symm (List.forall_mem_nil _) failed all

theorem stopping_enforce : Stopping (service.enforce context operation identity) := by
  intro past all
  refine Ends.mono ends_enforce ?_
  rintro _ outcome ⟨records, counting, areRecords, counts, rfl⟩
  exact (counts.stops all).records areRecords

end Counting

end SignOn.Engine
