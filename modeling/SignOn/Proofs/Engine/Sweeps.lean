import SignOn.Proofs.Engine.Agreement
import SignOn.Proofs.Engine.Crowd

/-!
# Sweeps go unnoticed

What an action gets from a world, and what it makes of it, depends on what shows in the stores alone
(`World.Alike.perform`), and removing lapsed entries changes nothing that shows.  So calls that take
turns on one world, in any order and with waits in between, come to the same whether or not the
stores are purged between two turns (`Crowd.takeTurns_filter`).
-/

namespace SignOn.Engine

set_option autoImplicit false

open Store

/-! ## Worlds in which the same shows -/

namespace World

/-- Another world differs at most in entries that have lapsed. -/
inductive Alike (world : World) : World → Prop where
  | other {keyValue : KeyValue} {sessions : Sessions}
      (marks : KeyValue.lapsing.shown world.clock world.keyValue.get? =
        KeyValue.lapsing.shown world.clock keyValue.get?)
      (signIns : Sessions.lapsing.shown world.clock world.sessions.get? =
        Sessions.lapsing.shown world.clock sessions.get?) :
      Alike world { world with keyValue := keyValue, sessions := sessions }

theorem Alike.refl (world : World) : world.Alike world := .other rfl rfl

variable {first second : World}

theorem Alike.events_eq (alike : first.Alike second) : second.events = first.events := by
  obtain ⟨_, _⟩ := alike
  rfl

theorem Alike.askKeyValue (alike : first.Alike second) (request : KeyValue.Request) :
    (first.askKeyValue request).1 = (second.askKeyValue request).1 ∧
      (first.askKeyValue request).2.Alike (second.askKeyValue request).2 := by
  obtain @⟨keyValue, sessions, marks, signIns⟩ := alike
  refine answer_agree (.other marks signIns) (Lapsing.perform_agree marks request) ?_
  intro store kept shows
  exact .other shows signIns

theorem Alike.askSessions (alike : first.Alike second) (request : Sessions.Request) :
    (first.askSessions request).1 = (second.askSessions request).1 ∧
      (first.askSessions request).2.Alike (second.askSessions request).2 := by
  obtain @⟨keyValue, sessions, marks, signIns⟩ := alike
  refine answer_agree (.other marks signIns) (Lapsing.perform_agree signIns request) ?_
  intro store kept shows
  exact .other marks shows

/-- An action gives the same in alike worlds, and leaves them alike. -/
theorem Alike.perform (alike : first.Alike second) (action : Action) :
    (first.perform action).1 = (second.perform action).1 ∧
      (first.perform action).2.Alike (second.perform action).2 := by
  cases action with
  | store call =>
    cases call with
    | count key window => exact alike.askKeyValue (.count key window)
    | mark key text lifetime => exact alike.askKeyValue (.write key text lifetime)
    | isMarked key => exact alike.askKeyValue (.isPresent key)
    | readSession owner => exact alike.askSessions (.read owner)
    | writeSession owner value lifetime => exact alike.askSessions (.write owner value lifetime)
    | deleteSession owner => exact alike.askSessions (.delete owner)
    | replaceSession owner expected value lifetime =>
      exact alike.askSessions (.replace owner expected value lifetime)
    | findUser provider account | saveUser user =>
      obtain ⟨marks, signIns⟩ := alike
      exact ⟨rfl, .other marks signIns⟩
  | readClock | drawTokenId | publish event | askProvider provider code =>
    obtain ⟨marks, signIns⟩ := alike
    exact ⟨rfl, .other marks signIns⟩

theorem Alike.wait (alike : first.Alike second) (time : Duration) :
    (first.waitUntil (time.after first.clock)).Alike
      (second.waitUntil (time.after second.clock)) := by
  have ordered := first.clock.le_after time
  obtain ⟨marks, signIns⟩ := alike
  exact .other (Reference.shown_later ordered marks) (Reference.shown_later ordered signIns)

/-- The world without the counters and marks that have lapsed. -/
def purgeKeyValue (world : World) : World :=
  { world with keyValue := world.keyValue.purge world.clock }

/-- The world without the sessions that have lapsed. -/
def purgeSessions (world : World) : World :=
  { world with sessions := world.sessions.purge world.clock }

theorem Alike.purgeKeyValue (alike : first.Alike second) : first.Alike second.purgeKeyValue := by
  obtain @⟨keyValue, sessions, marks, signIns⟩ := alike
  exact .other (marks.trans (Lapsing.shown_purge first.clock keyValue).symm) signIns

theorem Alike.purgeSessions (alike : first.Alike second) : first.Alike second.purgeSessions := by
  obtain @⟨keyValue, sessions, marks, signIns⟩ := alike
  exact .other marks (signIns.trans (Lapsing.shown_purge first.clock sessions).symm)

end World

/-! ## Calls that take turns -/

/-- What happens to a crowd next: a call does its next action, time passes, or the lapsed entries of
a store are removed. -/
inductive Turn (ι : Type) where
  | act (who : ι)
  | wait (time : Duration)
  | purgeKeyValue
  | purgeSessions

/-- The turn removes no entries. -/
def Turn.isUse {ι : Type} : Turn ι → Bool
  | .purgeKeyValue | .purgeSessions => false
  | _ => true

namespace Crowd

variable {ι : Type} [DecidableEq ι] {calls : ι → Call}

/-- A call does its next action, if it has one left. -/
def act (who : ι) (crowd : Crowd calls) : Crowd calls :=
  match crowd.rest who with
  | some (.perform action next) =>
      match crowd.world.perform action with
      | (.ok result, after) =>
          ⟨after, Function.update crowd.rest who (some (next result)),
            (who, ⟨action, result⟩) :: crowd.history⟩
      | (.error _, after) => ⟨after, Function.update crowd.rest who none, crowd.history⟩
  | _ => crowd

/-- The crowd after a turn. -/
def takeTurn (crowd : Crowd calls) : Turn ι → Crowd calls
  | .act who => crowd.act who
  | .wait time =>
      { crowd with world := crowd.world.waitUntil (time.after crowd.world.clock) }
  | .purgeKeyValue => { crowd with world := crowd.world.purgeKeyValue }
  | .purgeSessions => { crowd with world := crowd.world.purgeSessions }

/-- The crowd after some turns, the first of which comes first. -/
def takeTurns (crowd : Crowd calls) (turns : List (Turn ι)) : Crowd calls :=
  turns.foldl takeTurn crowd

/-- Two crowds differ at most in entries that have lapsed. -/
structure Alike (first second : Crowd calls) : Prop where
  world : first.world.Alike second.world
  rest : first.rest = second.rest
  history : first.history = second.history

variable {first second : Crowd calls}

theorem Alike.act (alike : first.Alike second) (who : ι) :
    (first.act who).Alike (second.act who) := by
  obtain ⟨world, rest, history⟩ := alike
  unfold Crowd.act
  rw [← rest]
  split
  · next action next left =>
    obtain ⟨same, after⟩ := world.perform action
    generalize first.world.perform action = done, second.world.perform action = redone
      at same after
    obtain ⟨result, after₁⟩ := done
    obtain ⟨_, after₂⟩ := redone
    obtain rfl := same
    cases result with
    | ok result => exact ⟨after, rfl, congrArg (List.cons _) history⟩
    | error calendarEnd => exact ⟨after, rfl, history⟩
  · exact ⟨world, rest, history⟩

theorem Alike.takeTurn (alike : first.Alike second) {turn : Turn ι} (use : turn.isUse = true) :
    (first.takeTurn turn).Alike (second.takeTurn turn) := by
  cases turn with
  | act who => exact alike.act who
  | wait time => exact ⟨alike.world.wait time, alike.rest, alike.history⟩
  | purgeKeyValue | purgeSessions => cases use

/-- A purge makes no difference. -/
theorem Alike.purge (alike : first.Alike second) {turn : Turn ι} (purge : turn.isUse = false) :
    first.Alike (second.takeTurn turn) := by
  cases turn with
  | act who | wait time => cases purge
  | purgeKeyValue => exact ⟨alike.world.purgeKeyValue, alike.rest, alike.history⟩
  | purgeSessions => exact ⟨alike.world.purgeSessions, alike.rest, alike.history⟩

/-- Leaving out the purges leaves what becomes of a crowd. -/
theorem Alike.takeTurns (alike : first.Alike second) (turns : List (Turn ι)) :
    (first.takeTurns (turns.filter Turn.isUse)).Alike (second.takeTurns turns) := by
  induction turns generalizing first second with
  | nil => exact alike
  | cons turn turns ih =>
    cases use : turn.isUse with
    | true =>
      rw [List.filter_cons_of_pos use]
      exact ih (alike.takeTurn use)
    | false =>
      rw [List.filter_cons_of_neg (by rw [use]; exact Bool.false_ne_true)]
      exact ih (alike.purge use)

/-- Two crowds have come to the same: what every call has left or has come to, everything that was
done with its result, and the audit trail. -/
structure ComesToSame (first second : Crowd calls) : Prop where
  rest : first.rest = second.rest
  history : first.history = second.history
  events : first.world.events = second.world.events

/-- **Eviction goes unnoticed.**  Both stores answer every request as if no entry were removed for
having lapsed, whenever they are purged, and calls that take turns on one world come to the same,
action by action, whether or not the stores are purged in between. -/
theorem evictsUnnoticed_takeTurns (service : Service) (calls : ι → Call) (along : ι → List Bool)
    (world : World) (turns : List (Turn ι)) :
    KeyValue.lapsing.EvictsUnnoticed ∧ Sessions.lapsing.EvictsUnnoticed ∧
      ComesToSame ((initial service calls along world).takeTurns turns)
        ((initial service calls along world).takeTurns (turns.filter Turn.isUse)) := by
  refine ⟨KeyValue.lapsing.evictsUnnoticed, Sessions.lapsing.evictsUnnoticed, ?_⟩
  have start : (initial service calls along world).Alike (initial service calls along world) :=
    ⟨.refl world, rfl, rfl⟩
  obtain ⟨worlds, rest, history⟩ := start.takeTurns turns
  exact ⟨rest.symm, history.symm, worlds.events_eq⟩

end Crowd

end SignOn.Engine
