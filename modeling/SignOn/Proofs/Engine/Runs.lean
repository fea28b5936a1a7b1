import SignOn.Proofs.Engine.Effects
import SignOn.Proofs.Engine.Frames
import SignOn.Proofs.Json.Integer

/-!
# Runs

A run starts on empty stores and makes calls of the service one after another, sweeps the stores
and waits, in any order.  The clock never goes back and stays within the calendar.  What a run has
done is kept as a list of deeds, latest first: each is a call with the world it started from and
its outcome.  A call that breaks off is a deed like any other, and the run goes on from the world
it left.

Time passes between calls only: all that a call does, and every clock reading it takes, falls on the
instant at which it was made (`Call.clock_after`).
-/

namespace SignOn.Engine

set_option autoImplicit false

open Operation

/-! ## Calls -/

/-- A call of the service, with what it is given. -/
inductive Call where
  | login (context : Context) (identity : UserId)
  | providerLogin (context : Context) (callback : Callback)
  | reissue (context : Context) (presented : String)
  | logout (context : Context) (token : Option String)
  | authorize (context : Context) (token : String)

namespace Call

/-- What a call gives when it succeeds. -/
@[reducible] def Answer : Call → Type
  | .login _ _ => TokenPair
  | .providerLogin _ _ => User × TokenPair
  | .reissue _ _ => TokenPair
  | .logout _ _ => Unit
  | .authorize _ _ => UserId

/-- What a call has the service do. -/
def operation (service : Service) : (call : Call) → Operation call.Answer
  | .login context identity => service.login context identity
  | .providerLogin context callback => service.providerLogin context callback
  | .reissue context presented => service.reissue context presented
  | .logout context token => service.logout context token
  | .authorize context token => service.authorize context token

end Call

/-- A call that was made, with the world it started from and its outcome. -/
structure Deed where
  call : Call
  before : World
  outcome : Except CalendarEnd (Except Failure call.Answer)

/-- The deed that a call is in a world. -/
def Call.deed (service : Service) (call : Call) (world : World) : Deed :=
  ⟨call, world, ((call.operation service).on world).1⟩

/-- The world after a call. -/
def Call.after (service : Service) (call : Call) (world : World) : World :=
  ((call.operation service).on world).2

theorem Call.clock_after (service : Service) (call : Call) (world : World) :
    (call.after service world).clock = world.clock :=
  clock_of_on rfl

/-! ## Runs -/

/-- A world at the start of a run: its stores are empty, and its clock shows an instant of the
calendar. -/
structure World.IsFresh (world : World) : Prop where
  keyValue : world.keyValue = .empty
  sessions : world.sessions = .empty
  users : world.users = .empty
  clock : world.clock.isRepresentable = true

/-- The world at a later time. -/
def World.waitUntil (world : World) (later : Instant) : World :=
  { world with clock := later }

/-- A run of a service leads from a fresh world to a world by the given deeds, latest first.  Time
stands still inside a call, so the expiry of what a call stores is counted from the very instant at
which the call was made; bounds on expiries rest on this. -/
inductive Run (service : Service) : List Deed → World → Prop where
  | fresh {world : World} (start : world.IsFresh) : Run service [] world
  | call {past : List Deed} {world : World} (run : Run service past world) (call : Call) :
      Run service (call.deed service world :: past) (call.after service world)
  | sweep {past : List Deed} {world : World} (run : Run service past world) :
      Run service past world.sweep
  | wait {past : List Deed} {world : World} (run : Run service past world) {later : Instant}
      (ordered : world.clock ≤ later) (within : later.isRepresentable = true) :
      Run service past (world.waitUntil later)

/-- The clock of a run stays within the calendar. -/
theorem Run.isRepresentable {service : Service} {past : List Deed} {world : World}
    (run : Run service past world) : world.clock.isRepresentable = true := by
  induction run with
  | fresh start => exact start.clock
  | call run call ih => rwa [Call.clock_after]
  | sweep run ih => exact ih
  | wait run ordered within ih => exact within

/-! ## A small service -/

namespace Sample

/-- A service with the usual lifetimes and limits. -/
def service : Service where
  codec := ⟨List.replicate 32 0, .ofSeconds 1800, .ofSeconds 1209600, by decide⟩
  limits := .standard

/-- A fresh world that numbers its identifiers. -/
def world : World where
  clock := .ofSeconds 1700000000
  tokenIds := fun count => String.ofList (Text.digits count)
  providerAnswer := fun provider _ => .error (.notConfigured provider)

def identity : UserId := ⟨"dana@example.org", .google⟩

/-- A caller of whom nothing is known. -/
def nobody : Context := ⟨none, none⟩

/-- A caller who is signed in. -/
def somebody : Context := ⟨some identity, none⟩

/-- The pair that the first login hands out. -/
def pair : TokenPair := service.pairIn identity world

/-- The world after a first login. -/
def loggedIn : World := (Call.login nobody identity).after service world

theorem isFresh_world : world.IsFresh := ⟨rfl, rfl, rfl, by decide⟩

theorem injective_tokenIds : Function.Injective world.tokenIds := by
  intro first second same
  have digits := congrArg String.toList same
  change (String.ofList (Text.digits first)).toList = (String.ofList (Text.digits second)).toList
    at digits
  rw [String.toList_ofList, String.toList_ofList] at digits
  rw [← Text.valueOfDigits_digits first, digits, Text.valueOfDigits_digits]

/-- The run that consists of a first login. -/
theorem run_login : Run service [(Call.login nobody identity).deed service world] loggedIn :=
  (Run.fresh isFresh_world).call _

end Sample

end SignOn.Engine
