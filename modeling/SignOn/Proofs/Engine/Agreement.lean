import SignOn.Proofs.Engine.Contract
import SignOn.Proofs.Store.Locality

/-!
# Running on states that agree

Two states may differ and yet be the same for a program.  If they agree for every action that it may
perform, they agree for the whole program (`Program.run_agree`).  What an action does to a world is
a request to one of its stores, so worlds agree for the action if the stores agree for the request
(`World.answer_agree`).
-/

namespace SignOn.Engine

set_option autoImplicit false

open Store

/-- On states for which every allowed action gives the same, and which stay so, a program gives the
same. -/
theorem Program.run_agree {σ α : Type} {handler : Handler σ} {allowed : Action → Prop}
    {Related : σ → σ → Prop}
    (agree : ∀ action first second, allowed action → Related first second →
      (handler action first).1 = (handler action second).1 ∧
        Related (handler action first).2 (handler action second).2)
    {program : Program α} (only : program.Only allowed) {first second : σ}
    (related : Related first second) :
    (program.run handler first).1 = (program.run handler second).1 ∧
      Related (program.run handler first).2 (program.run handler second).2 := by
  have meets := only []
  clear only
  generalize ([] : List Moment) = past at meets
  induction program generalizing past first second with
  | done value => exact ⟨rfl, related⟩
  | perform action next ih =>
    obtain ⟨same, still⟩ := agree action first second meets.1 related
    rw [run, run]
    generalize handler action first = here, handler action second = there at same still
    obtain ⟨result, firstAfter⟩ := here
    obtain ⟨_, secondAfter⟩ := there
    obtain rfl := same
    cases result with
    | error calendarEnd => exact ⟨rfl, still⟩
    | ok result => exact ih result still _ (meets.2 result)

/-! ## Requests in a world -/

namespace World

/-- Makes a request to the store of counters and marks. -/
def askKeyValue (world : World) (request : KeyValue.Request) :
    Except CalendarEnd (Reply request.Answer) × World :=
  world.answer (fun store => { world with keyValue := store })
    (KeyValue.perform world.clock request world.keyValue)

/-- Makes a request to the session store. -/
def askSessions (world : World) (request : Sessions.Request) :
    Except CalendarEnd (Reply request.Answer) × World :=
  world.answer (fun store => { world with sessions := store })
    (Sessions.perform world.clock request world.sessions)

/-- Outcomes of a store that agree come to the same in worlds that are related, and leave related
worlds. -/
theorem answer_agree {ν α : Type} {Related : World → World → Prop} {Kept : ν → ν → Prop}
    {first second : World} (related : Related first second)
    {outcome expected : Except Fault (α × ν)} (agree : Agree Kept outcome expected)
    {change other : ν → World} (changes : ∀ store kept, Kept store kept →
      Related (change store) (other kept)) :
    (first.answer change outcome).1 = (second.answer other expected).1 ∧
      Related (first.answer change outcome).2 (second.answer other expected).2 := by
  cases agree with
  | answered kept => exact ⟨rfl, changes _ _ kept⟩
  | refused => exact ⟨rfl, related⟩

end World

end SignOn.Engine
