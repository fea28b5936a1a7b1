import Mathlib.Data.Fintype.Basic
import SignOn.Proofs.Engine.Resolvers

/-!
# Resolvers in a serial order

Callbacks that are resolved one after another take turns (`Resolvers.Serially`).  Resolvers that work
side by side come to the same, in some order, if all that have ended can take their turns in it, each
at the instant at which it has read the clock, with the same outcomes and the same records
(`Resolvers.Serialises`).

The order is that in which they have ended.  For a resolver that saves a record ends with that, and
if it has not been disturbed since its lookup, it would find the same again
(`Resolvers.Reached.find?_of_undisturbed`).
-/

namespace SignOn.Engine

set_option autoImplicit false

open Operation Store

namespace Resolvers

open Crowd (own own_cons_self own_cons_of_ne mem_own)

/-! ## One after another -/

section Serially

variable {ι : Type} {callbacks : ι → Callback} {start : World}

/-- A callback that is resolved at an instant, and what that comes to. -/
structure Resolution (ι : Type) where
  who : ι
  now : Instant
  outcome : Except Failure User

/-- Callbacks are resolved one after another, latest first. -/
inductive Serially (callbacks : ι → Callback) (start : World) : List (Resolution ι) → World → Prop where
  | start : Serially callbacks start [] start
  | turn {turns : List (Resolution ι)} {world after : World} {turn : Resolution ι}
      (serially : Serially callbacks start turns world)
      (resolved : Arrival.resolveIn ⟨turn.now, callbacks turn.who⟩ world =
        (.ok turn.outcome, after)) :
      Serially callbacks start (turn :: turns) after

variable {turns : List (Resolution ι)} {world : World} {who : ι} {now : Instant}

theorem Serially.refused {reason : Rejection} (serially : Serially callbacks start turns world)
    (unfit : recordOf (callbacks who) now
      (world.users.find? (callbacks who).provider (callbacks who).account) = .error reason) :
    Serially callbacks start (⟨who, now, .error (.rejected reason)⟩ :: turns)
      { world with clock := now } := by
  refine serially.turn ?_
  have unresolved : resolvedRecord (callbacks who) { world with clock := now } = .error reason :=
    unfit
  rw [Arrival.resolveIn, on_resolve, unresolved]

theorem Serially.saved {user : User} (serially : Serially callbacks start turns world)
    (fit : recordOf (callbacks who) now
      (world.users.find? (callbacks who).provider (callbacks who).account) = .ok user) :
    Serially callbacks start (⟨who, now, .ok user⟩ :: turns)
      { world with clock := now, users := world.users.save user } := by
  refine serially.turn ?_
  have resolved : resolvedRecord (callbacks who) { world with clock := now } = .ok user := fit
  rw [Arrival.resolveIn, on_resolve, resolved]

/-- A resolver that has nothing to do has a callback that cannot be read. -/
theorem unread_of_done {callback : Callback} {outcome : Except Failure User}
    (ended : (resolve callback).run = .done outcome) :
    ∃ reason, outcome = .error (.rejected reason) ∧
      ∀ now existing, recordOf callback now existing = .error reason := by
  have meets := meets_resolve callback
  rw [Operation.Meets, ended] at meets
  cases meets with
  | unreadable unread => exact ⟨_, rfl, unread⟩
  | unanswered failed => exact absurd (List.forall_mem_nil _) failed

/-- Resolvers that have nothing to do can take their turns in any order. -/
theorem exists_serially_unread (callbacks : ι → Callback) (start : World) {whos : List ι}
    (once : whos.Nodup) :
    ∃ turns world, (turns.map Resolution.who).Nodup ∧
      (∀ who, who ∈ turns.map Resolution.who ↔
        who ∈ whos ∧ ∃ outcome, (resolve (callbacks who)).run = .done outcome) ∧
      (∀ turn ∈ turns, (resolve (callbacks turn.who)).run = .done turn.outcome) ∧
      Serially callbacks start turns world ∧ world.users = start.users := by
  induction whos with
  | nil =>
    refine ⟨[], start, List.nodup_nil, fun who => ?_, List.forall_mem_nil _, .start, rfl⟩
    exact iff_of_false List.not_mem_nil fun both => List.not_mem_nil both.1
  | cons who whos ih =>
    obtain ⟨new, once⟩ := List.nodup_cons.1 once
    obtain ⟨turns, world, distinct, ended, outcomes, serially, same⟩ := ih once
    cases left : (resolve (callbacks who)).run with
    | perform action next =>
      refine ⟨turns, world, distinct, fun other => ?_, outcomes, serially, same⟩
      rw [ended, List.mem_cons]
      refine and_congr_left fun ⟨outcome, done⟩ => (or_iff_right ?_).symm
      rintro rfl
      cases left.symm.trans done
    | done outcome =>
      obtain ⟨reason, rfl, unread⟩ := unread_of_done left
      refine ⟨⟨who, start.clock, _⟩ :: turns, _, ?_, fun other => ?_, ?_, serially.refused (unread _ _),
        same⟩
      · exact List.nodup_cons.2 ⟨fun member => new ((ended who).1 member).1, distinct⟩
      · rw [List.map_cons, List.mem_cons, ended, List.mem_cons]
        constructor
        · rintro (rfl | ⟨member, done⟩)
          · exact ⟨Or.inl rfl, _, left⟩
          · exact ⟨Or.inr member, done⟩
        · rintro ⟨rfl | member, done⟩
          · exact Or.inl rfl
          · exact Or.inr ⟨member, done⟩
      · exact List.forall_mem_cons.2 ⟨left, outcomes⟩

/-- Resolvers have come to what their callbacks come to one after another: all that have ended take
their turns in some order, each at the instant at which it has read the clock, with the outcomes and
the records that there are. -/
structure Serialises (callbacks : ι → Callback) (start : World) (resolvers : Resolvers ι)
    (turns : List (Resolution ι)) : Prop where
  once : (turns.map Resolution.who).Nodup
  ended : ∀ who, who ∈ turns.map Resolution.who ↔ ∃ outcome, resolvers.rest who = .done outcome
  outcome : ∀ turn ∈ turns, resolvers.rest turn.who = .done turn.outcome
  clock : ∀ turn ∈ turns, ∀ now, (turn.who, .clock now) ∈ resolvers.history → now = turn.now
  users : ∃ world, Serially callbacks start turns world ∧ world.users = resolvers.world.users

theorem exists_serialises_initial [Fintype ι] (callbacks : ι → Callback) (start : World) :
    ∃ turns, Serialises callbacks start (initial callbacks start) turns := by
  obtain ⟨turns, world, distinct, ended, outcomes, serially, same⟩ :=
    exists_serially_unread callbacks start (Finset.nodup_toList Finset.univ)
  refine ⟨turns, distinct, fun who => ?_, outcomes, fun _ _ _ told => ?_, world, serially, same⟩
  · rw [ended, Finset.mem_toList, and_iff_right (Finset.mem_univ who)]
    rfl
  · cases told

theorem Serialises.absent {resolvers : Resolvers ι}
    (serialises : Serialises callbacks start resolvers turns)
    (underWay : ∀ outcome, resolvers.rest who ≠ .done outcome) {turn : Resolution ι}
    (member : turn ∈ turns) : turn.who ≠ who := by
  rintro rfl
  exact underWay _ (serialises.outcome turn member)

end Serially

variable {ι : Type} [DecidableEq ι] {callbacks : ι → Callback} {start : World}
  {resolvers : Resolvers ι}

/-! ## What a resolver has found -/

theorem Reached.inverse (inverse : start.users.Inverse) (reached : Reached callbacks start resolvers) :
    resolvers.world.users.Inverse := by
  induction reached with
  | refl => exact inverse
  | tail reached step ih =>
    cases Reached.move reached step with
    | wait ordered => exact ih
    | @act who moment world left underWay acts =>
      dsimp only [after]
      cases saves : moment.saved? with
      | none => rwa [acts.users_of_none saves]
      | some user =>
        rw [acts.users_of_some saves]
        exact ih.save user

/-- Where the saves since a lookup spare what it has found, it would find that again. -/
theorem Reached.find?_eq (inverse : start.users.Inverse)
    (reached : Reached callbacks start resolvers) {who : ι} {now : Instant} {existing : Option User}
    (did : own who resolvers.history = [.answered (lookup (callbacks who)) existing, .clock now])
    (spared : ∀ record ∈ saved (since Moment.isLookup who resolvers.history),
      Users.Spares record (callbacks who).provider (callbacks who).account existing) :
    resolvers.world.users.find? (callbacks who).provider (callbacks who).account = existing := by
  induction reached with
  | refl => cases did
  | @tail resolvers next reached step ih =>
    cases Reached.move reached step with
    | wait ordered => exact ih did spared
    | @act other moment world left underWay acts =>
      dsimp only [after] at did spared ⊢
      by_cases same : other = who
      · -- the lookup itself is the latest that the resolver has done
        subst same
        rw [own_cons_self] at did
        generalize own other resolvers.history = past at acts did
        cases acts with
        | reads => cases did
        | finds => cases did; rfl
        | refuses unfit => cases did; rfl
        | saves fit => cases did
      · rw [own_cons_of_ne same] at did
        rw [since_cons_of_ne same] at spared
        have found := ih did fun record member => spared record (mem_saved_cons.2 (Or.inr member))
        cases saves : moment.saved? with
        | none => rwa [acts.users_of_none saves]
        | some user =>
          have spares := spared user (mem_saved_cons.2 (Or.inl saves))
          rw [acts.users_of_some saves]
          rw [← found] at spares ⊢
          exact (Reached.inverse inverse reached).find?_save_of_spares spares

/-- What a resolver saves without having been disturbed is made of what it would find now. -/
theorem Reached.find?_of_undisturbed (inverse : start.users.Inverse)
    (reached : Reached callbacks start resolvers) {who : ι} {moment : Moment} {now : Instant}
    {existing : Option User} {user : User}
    (undisturbed : Undisturbed ((who, moment) :: resolvers.history))
    (saves : moment.saved? = some user)
    (did : own who resolvers.history = [.answered (lookup (callbacks who)) existing, .clock now]) :
    resolvers.world.users.find? (callbacks who).provider (callbacks who).account = existing := by
  have looked : (who, .answered (lookup (callbacks who)) existing) ∈ resolvers.history := by
    rw [← mem_own, did]
    exact List.mem_cons_self
  have saved := Option.isSome_of_eq_some saves
  exact reached.find?_eq inverse did (undisturbed.1 saved _ _ existing looked)

/-! ## The order of those that have ended -/

section Order

variable {turns : List (Resolution ι)} {world : World} {who : ι} {now : Instant}

/-- What is known of those that have ended does not depend on what another resolver does next. -/
theorem Serialises.stays {moment : Moment} {left : Program (Except Failure User)}
    (serialises : Serialises callbacks start resolvers turns)
    (underWay : ∀ outcome, resolvers.rest who ≠ .done outcome) {turn : Resolution ι}
    (member : turn ∈ turns) :
    (resolvers.after who moment world left).rest turn.who = .done turn.outcome ∧
      ∀ now, (turn.who, .clock now) ∈ (resolvers.after who moment world left).history →
        now = turn.now := by
  have absent := serialises.absent underWay member
  refine ⟨(Function.update_of_ne absent _ _).trans (serialises.outcome turn member), ?_⟩
  intro now told
  rcases List.mem_cons.1 told with same | earlier
  · exact absurd (congrArg Prod.fst same) absent
  · exact serialises.clock turn member now earlier

/-- The order of those that have ended stays the same while another resolver goes on, unless that
changes the records. -/
theorem Serialises.goesOn {moment : Moment} {left : Program (Except Failure User)}
    (serialises : Serialises callbacks start resolvers turns)
    (underWay : ∀ outcome, resolvers.rest who ≠ .done outcome)
    (unended : ∀ outcome, left ≠ .done outcome) (users : world.users = resolvers.world.users) :
    Serialises callbacks start (resolvers.after who moment world left) turns := by
  refine ⟨serialises.once, fun other => ?_, fun turn member => (serialises.stays underWay member).1,
    fun turn member => (serialises.stays underWay member).2, ?_⟩
  · rw [serialises.ended]
    dsimp only [after]
    by_cases same : other = who
    · subst same
      rw [Function.update_self]
      exact iff_of_false (fun ⟨outcome, ended⟩ => underWay outcome ended)
        fun ⟨outcome, ended⟩ => unended outcome ended
    · rw [Function.update_of_ne same]
  · obtain ⟨world, serially, same⟩ := serialises.users
    exact ⟨world, serially, same.trans users.symm⟩

/-- A resolver that ends takes its turn after all that have ended before. -/
theorem Serialises.ends {moment : Moment} {outcome : Except Failure User} {present : World}
    (serialises : Serialises callbacks start resolvers turns)
    (underWay : ∀ outcome, resolvers.rest who ≠ .done outcome)
    (read : ∀ other, .clock other ∈ moment :: own who resolvers.history → other = now)
    (serially : Serially callbacks start (⟨who, now, outcome⟩ :: turns) present)
    (users : present.users = world.users) :
    Serialises callbacks start (resolvers.after who moment world (.done outcome))
      (⟨who, now, outcome⟩ :: turns) := by
  refine ⟨?_, fun other => ?_, ?_, ?_, present, serially, users⟩
  · refine List.nodup_cons.2 ⟨fun member => ?_, serialises.once⟩
    obtain ⟨turn, member, same⟩ := List.mem_map.1 member
    exact serialises.absent underWay member same
  · rw [List.map_cons, List.mem_cons, serialises.ended]
    dsimp only [after]
    by_cases same : other = who
    · subst same
      rw [Function.update_self]
      exact iff_of_true (Or.inl rfl) ⟨outcome, rfl⟩
    · rw [Function.update_of_ne same, or_iff_right same]
  · exact List.forall_mem_cons.2 ⟨Function.update_self ..,
      fun turn member => (serialises.stays underWay member).1⟩
  · refine List.forall_mem_cons.2 ⟨fun other told => read other ?_,
      fun turn member => (serialises.stays underWay member).2⟩
    rwa [← own_cons_self, mem_own]

/-- As long as no resolver is disturbed, those that have ended take their turns in the order in which
they have ended. -/
theorem Reached.exists_serialises [Fintype ι] (inverse : start.users.Inverse)
    (reached : Reached callbacks start resolvers) (undisturbed : Undisturbed resolvers.history) :
    ∃ turns, Serialises callbacks start resolvers turns := by
  induction reached with
  | refl => exact exists_serialises_initial callbacks start
  | @tail resolvers next reached step ih =>
    cases Reached.move reached step with
    | wait ordered =>
      obtain ⟨turns, serialises⟩ := ih undisturbed
      exact ⟨turns, { serialises with }⟩
    | @act who moment world left underWay acts =>
      obtain ⟨turns, serialises⟩ := ih undisturbed.2
      obtain ⟨past, serially, same⟩ := serialises.users
      generalize did : own who resolvers.history = done at acts
      cases acts with
      | reads => exact ⟨turns, serialises.goesOn underWay nofun rfl⟩
      | finds => exact ⟨turns, serialises.goesOn underWay nofun rfl⟩
      | @refuses now reason unfit =>
        rw [← same] at unfit
        refine ⟨_, serialises.ends underWay ?_ (serially.refused unfit) same⟩
        rw [did]
        simp
      | @saves now existing user fit =>
        have found := Reached.find?_of_undisturbed inverse reached undisturbed rfl did
        rw [← found, ← same] at fit
        refine ⟨_, serialises.ends underWay ?_ (serially.saved fit) (congrArg (Users.save user) same)⟩
        rw [did]
        simp

end Order

end Resolvers

end SignOn.Engine
