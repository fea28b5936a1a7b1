import SignOn.Engine.Program
import SignOn.Store.KeyValue
import SignOn.Store.Sessions
import SignOn.Store.Users

/-!
# Running programs in memory

A world holds everything that the actions of a program touch: a clock, the stores, the audit trail,
a supply of identifiers and the answers of the providers.  A handler carries out single actions on
some state, and `run` carries out a whole program with it.  An action may break off because the
calendar ends; then nothing after it is carried out, and what was done before stays done.
-/

namespace SignOn.Engine

set_option autoImplicit false

/-! ## Handlers -/

/-- The way in which an action breaks off: an entry would lapse after the end of the calendar. -/
structure CalendarEnd where
deriving DecidableEq, Repr

/-- A way to carry out actions on a state. -/
abbrev Handler (σ : Type) :=
  (action : Action) → σ → Except CalendarEnd action.Result × σ

/-- Carries out a program. -/
def Program.run {σ α : Type} (handler : Handler σ) : Program α → σ → Except CalendarEnd α × σ
  | .done value, state => (.ok value, state)
  | .perform action next, state =>
      match handler action state with
      | (.ok result, state) => (next result).run handler state
      | (.error calendarEnd, state) => (.error calendarEnd, state)

/-! ## Worlds -/

/-- Everything that the actions of a program touch. -/
structure World where
  clock : Instant
  keyValue : Store.KeyValue := .empty
  sessions : Store.Sessions := .empty
  users : Store.Users := .empty
  /-- The audit trail, oldest event first. -/
  events : List Audit.Event := []
  /-- The identifiers in the order in which they are drawn. -/
  tokenIds : Nat → String
  /-- How many identifiers have been drawn. -/
  drawn : Nat := 0
  /-- What the providers say about an authorization code. -/
  providerAnswer : Provider → String → Except ProviderError Json

namespace World

/-- The reply of a store that gives no answer. -/
def replyOfFault {α : Type} : Store.Fault → Except CalendarEnd (Reply α)
  | .refused error => .ok (.failed error)
  | .calendarEnd => .error ⟨⟩

/-- The outcome of a store operation that answers and changes the store. -/
def answer {ν α : Type} (world : World) (change : ν → World) :
    Except Store.Fault (α × ν) → Except CalendarEnd (Reply α) × World
  | .ok (value, store) => (.ok (.answered value), change store)
  | .error fault => (replyOfFault fault, world)

/-- Carries out a call of a store at the instant that the clock shows. -/
def performCall (world : World) :
    (call : StoreCall) → Except CalendarEnd (Reply call.Answer) × World
  | .count key window =>
      world.answer (fun store => { world with keyValue := store })
        (world.keyValue.count world.clock key window)
  | .mark key text lifetime =>
      world.answer (fun store => { world with keyValue := store })
        ((world.keyValue.write world.clock key text lifetime).map fun store => ((), store))
  | .isMarked key =>
      world.answer (fun store => { world with keyValue := store })
        (.ok (world.keyValue.isPresent world.clock key))
  | .readSession owner =>
      world.answer (fun store => { world with sessions := store })
        (.ok (world.sessions.read world.clock owner))
  | .writeSession owner value lifetime =>
      world.answer (fun store => { world with sessions := store })
        ((world.sessions.write world.clock owner value lifetime).map fun store => ((), store))
  | .deleteSession owner =>
      world.answer (fun store => { world with sessions := store })
        (.ok ((), world.sessions.erase owner))
  | .replaceSession owner expected value lifetime =>
      world.answer (fun store => { world with sessions := store })
        (world.sessions.replace world.clock owner expected value lifetime)
  | .findUser provider account =>
      (.ok (.answered (world.users.find? provider account)), world)
  | .saveUser user =>
      (.ok (.answered ()), { world with users := world.users.save user })

/-- Carries out an action. -/
def perform : Handler World
  | .store call, world => world.performCall call
  | .readClock, world => (.ok world.clock, world)
  | .drawTokenId, world =>
      (.ok (world.tokenIds world.drawn), { world with drawn := world.drawn + 1 })
  | .publish event, world => (.ok (), { world with events := world.events ++ [event] })
  | .askProvider provider code, world => (.ok (world.providerAnswer provider code), world)

/-- The world with its clock moved by a number of milliseconds. -/
def advance (world : World) (milliseconds : Int) : World :=
  { world with clock := ⟨world.clock.nanoseconds + milliseconds * 1000000⟩ }

/-- The events of one kind. -/
def eventsOf (world : World) (operation : Audit.Operation) : List Audit.Event :=
  world.events.filter fun event => event.operation = operation

/-! ## Sweeps -/

/-- The world after a sweep, which removes everything that has lapsed. -/
def sweep (world : World) : World :=
  { world with
    keyValue := world.keyValue.purge world.clock
    sessions := world.sessions.purge world.clock }

/-- The world after a sweeper has run for a time in which the clock of the stores stands still.  It
sweeps whenever an interval has passed, for the first time after one interval; a sweep that would
fall on the very end of the time does not take place. -/
def runSweeper (interval runtime : Duration) (world : World) : World :=
  if runtime ≤ interval then world else world.sweep

end World

end SignOn.Engine
