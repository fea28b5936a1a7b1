import SignOn.Engine.World

/-!
# Programs side by side

Several programs run on one state in turns.  Each runs until an action that does not answer at
once; then the next one has its turn.  In the next round every program that waits carries out the
action it waits for and runs on.
-/

namespace SignOn.Engine

set_option autoImplicit false

/-- How far a program has come: it waits with what it still has to do, or it has an outcome. -/
inductive Progress (α : Type) where
  | waiting (rest : Program α)
  | finished (outcome : Except CalendarEnd α)

/-- Runs a program until an action that does not answer at once.  A program that has waited carries
out its first action in any case. -/
def Program.turn {σ α : Type} (handler : Handler σ) (pauses : Action → Bool) :
    Program α → Bool → σ → Progress α × σ
  | .done value, _, state => (.finished (.ok value), state)
  | .perform action next, hasWaited, state =>
      if pauses action && !hasWaited then (.waiting (.perform action next), state)
      else
        match handler action state with
        | (.ok result, state) => (next result).turn handler pauses false state
        | (.error calendarEnd, state) => (.finished (.error calendarEnd), state)

/-- Gives every program that waits its turn, one after another. -/
def round {σ α : Type} (handler : Handler σ) (pauses : Action → Bool) (hasWaited : Bool) :
    List (Progress α) → σ → List (Progress α) × σ
  | [], state => ([], state)
  | .waiting rest :: others, state =>
      let (progress, state) := rest.turn handler pauses hasWaited state
      let (others, state) := round handler pauses hasWaited others state
      (progress :: others, state)
  | .finished outcome :: others, state =>
      let (others, state) := round handler pauses hasWaited others state
      (.finished outcome :: others, state)

/-- Runs every program that still waits to its end, one after another. -/
def finishAll {σ α : Type} (handler : Handler σ) :
    List (Progress α) → σ → List (Except CalendarEnd α) × σ
  | [], state => ([], state)
  | .waiting rest :: others, state =>
      let (outcome, state) := rest.run handler state
      let (others, state) := finishAll handler others state
      (outcome :: others, state)
  | .finished outcome :: others, state =>
      let (others, state) := finishAll handler others state
      (outcome :: others, state)

/-- Repeats rounds in which every program that waits is resumed. -/
def rounds {σ α : Type} (handler : Handler σ) (pauses : Action → Bool) :
    Nat → List (Progress α) → σ → List (Progress α) × σ
  | 0, programs, state => (programs, state)
  | count + 1, programs, state =>
      let (programs, state) := round handler pauses true programs state
      rounds handler pauses count programs state

/-- Runs programs side by side.  After the first turns, at most the given number of rounds is made;
what then still waits runs to its end. -/
def runTogether {σ α : Type} (handler : Handler σ) (pauses : Action → Bool) (count : Nat)
    (programs : List (Program α)) (state : σ) : List (Except CalendarEnd α) × σ :=
  let (started, state) := round handler pauses false (programs.map .waiting) state
  let (programs, state) := rounds handler pauses count started state
  finishAll handler programs state

end SignOn.Engine
