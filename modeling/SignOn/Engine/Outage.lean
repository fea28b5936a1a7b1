import SignOn.Engine.World

/-!
# Disturbed stores

Stores can be out of order: calls of some kinds may fail, never answer, answer late, or give way to
other callers first.  A late call is carried out when its time has come, unless the engine has given
up waiting for it by then.  The waiting time has nothing to do with the clock of the stores.
-/

namespace SignOn.Engine

set_option autoImplicit false

/-- The kinds of store call. -/
inductive CallKind where
  | count
  | mark
  | isMarked
  | readSession
  | writeSession
  | deleteSession
  | replaceSession
  | findUser
  | saveUser
deriving DecidableEq, Repr

/-- The kind of a call. -/
def StoreCall.kind : StoreCall → CallKind
  | .count _ _ => .count
  | .mark _ _ _ => .mark
  | .isMarked _ => .isMarked
  | .readSession _ => .readSession
  | .writeSession _ _ _ => .writeSession
  | .deleteSession _ => .deleteSession
  | .replaceSession _ _ _ _ => .replaceSession
  | .findUser _ _ => .findUser
  | .saveUser _ => .saveUser

/-- What is wrong with the calls of a kind. -/
inductive Disturbance where
  /-- They fail and do nothing. -/
  | fails (error : StoreError)
  /-- They never answer. -/
  | hangs
  /-- They answer after so many milliseconds. -/
  | slow (milliseconds : Nat)
  /-- Replacing a session answers that the value was another one. -/
  | denies
  /-- They let others go first. -/
  | yields
deriving DecidableEq, Repr

/-- What is wrong with the stores, by kind of call. -/
abbrev Outage := CallKind → Option Disturbance

namespace Outage

/-- Nothing is wrong. -/
def none : Outage := fun _ => .none

/-- Whether a call that is denied has a way to say so. -/
def denied? (call : StoreCall) : Option (Reply call.Answer) :=
  match call with
  | .replaceSession _ _ _ _ => some (.answered false)
  | _ => .none

/-- Carries out a call of a disturbed store, for which the engine waits so many milliseconds. -/
def performCall (outage : Outage) (patience : Nat) (world : World) (call : StoreCall) :
    Except CalendarEnd (Reply call.Answer) × World :=
  match outage call.kind with
  | some (.fails error) => (.ok (.failed error), world)
  | some .hangs => (.ok .timedOut, world)
  | some (.slow milliseconds) =>
      if patience < milliseconds then (.ok .timedOut, world) else world.performCall call
  | some .denies =>
      match denied? call with
      | some reply => (.ok reply, world)
      | .none => world.performCall call
  | some .yields | .none => world.performCall call

/-- Carries out an action while stores are disturbed. -/
def perform (outage : Outage) (patience : Nat) : Handler World
  | .store call, world => outage.performCall patience world call
  | action, world => world.perform action

/-- Whether an action does not answer at once. -/
def pauses (outage : Outage) : Action → Bool
  | .store call =>
      match outage call.kind with
      | some .hangs | some .yields => true
      | some (.slow milliseconds) => 0 < milliseconds
      | _ => false
  | _ => false

end Outage

end SignOn.Engine
