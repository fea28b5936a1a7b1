import SignOn.Audit.Event
import SignOn.Credential.Codec
import SignOn.Profile
import SignOn.Session

/-!
# Programs of the engine

What the engine does is described as a program: a sequence of actions on the world around it, where
each action depends on the results of those before.  A program says nothing about how an action is
carried out.  So one and the same program can be run on stores in memory, on stores that fail or
hang, or one action at a time beside other programs.
-/

namespace SignOn.Engine

set_option autoImplicit false

/-! ## Calls of the stores -/

/-- What a program can ask of a store. -/
inductive StoreCall where
  /-- Counts once at a key, whose first count opens a window. -/
  | count (key : String) (window : Duration)
  /-- Puts a mark at a key. -/
  | mark (key text : String) (lifetime : Duration)
  | isMarked (key : String)
  | readSession (owner : UserId)
  | writeSession (owner : UserId) (value : String) (lifetime : Duration)
  | deleteSession (owner : UserId)
  /-- Replaces a session that holds the expected value. -/
  | replaceSession (owner : UserId) (expected value : String) (lifetime : Duration)
  | findUser (provider : Provider) (account : String)
  | saveUser (user : User)
deriving DecidableEq, Repr

namespace StoreCall

/-- What a store answers to a call. -/
@[reducible] def Answer : StoreCall → Type
  | .count _ _ => Nat
  | .mark _ _ _ => Unit
  | .isMarked _ => Bool
  | .readSession _ => Option Session
  | .writeSession _ _ _ => Unit
  | .deleteSession _ => Unit
  | .replaceSession _ _ _ _ => Bool
  | .findUser _ _ => Option User
  | .saveUser _ => Unit

/-- The name of a call in the failure that says it took too long. -/
def name : StoreCall → String
  | .count _ _ => "rate_limit.incr"
  | .mark _ _ _ => "revocation.set"
  | .isMarked _ => "revocation.exists"
  | .readSession _ => "sessions.get"
  | .writeSession _ _ _ => "sessions.put"
  | .deleteSession _ => "sessions.delete"
  | .replaceSession _ _ _ _ => "sessions.replace"
  | .findUser _ _ => "users.find_by_provider_id"
  | .saveUser _ => "users.save"

end StoreCall

/-- What becomes of a store call. -/
inductive Reply (α : Type) where
  | answered (answer : α)
  | failed (error : StoreError)
  | timedOut
deriving DecidableEq, Repr

/-! ## Actions -/

/-- What a program can do. -/
inductive Action where
  | store (call : StoreCall)
  | readClock
  /-- Draws an identifier for a credential that was never drawn before. -/
  | drawTokenId
  | publish (event : Audit.Event)
  /-- Has a provider exchange an authorization code for what it says about the user. -/
  | askProvider (provider : Provider) (code : String)

/-- What an action gives. -/
@[reducible] def Action.Result : Action → Type
  | .store call => Reply call.Answer
  | .readClock => Instant
  | .drawTokenId => String
  | .publish _ => Unit
  | .askProvider _ _ => Except ProviderError Json

/-! ## Programs -/

/-- A program: it is done, or it performs an action and goes on with its result. -/
inductive Program (α : Type) where
  | done (value : α)
  | perform (action : Action) (next : action.Result → Program α)

namespace Program

/-- One program after another. -/
def bind {α β : Type} : Program α → (α → Program β) → Program β
  | .done value, follow => follow value
  | .perform action next, follow => .perform action fun result => (next result).bind follow

instance : Monad Program where
  pure := .done
  bind := bind

/-- A single action. -/
def act (action : Action) : Program action.Result :=
  .perform action .done

end Program

/-- A program that may end in a failure. -/
abbrev Operation (α : Type) := ExceptT Failure Program α

namespace Operation

/-- A single action, which by itself is no failure. -/
def act (action : Action) : Operation action.Result :=
  ExceptT.lift (Program.act action)

/-- The operation that has the given outcome. -/
def ofOutcome {α : Type} (outcome : Except Failure α) : Operation α :=
  ExceptT.mk (.done outcome)

/-- The operation that has the given outcome, which is a rejection if it is none. -/
def ofVerdict {α : Type} (verdict : Except Rejection α) : Operation α :=
  ofOutcome (verdict.mapError .rejected)

/-- The operation that is rejected. -/
def reject {α : Type} (reason : Rejection) : Operation α :=
  ofOutcome (.error (.rejected reason))

/-- A call of a store; an error of the store and a call that takes too long are failures. -/
def call (storeCall : StoreCall) : Operation storeCall.Answer := do
  match ← act (.store storeCall) with
  | .answered answer => ofOutcome (.ok answer)
  | .failed error => ofOutcome (.error (.storage error))
  | .timedOut => ofOutcome (.error (.timeout storeCall.name))

/-- The outcome of an operation, whether or not it is a failure. -/
def outcome {α : Type} (operation : Operation α) : Operation (Except Failure α) :=
  ExceptT.lift operation.run

end Operation

end SignOn.Engine
