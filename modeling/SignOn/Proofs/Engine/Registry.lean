import Mathlib.Data.List.Dedup
import Mathlib.Data.List.Perm.Subperm
import SignOn.Proofs.Engine.Access
import SignOn.Proofs.Engine.Keyspace

/-!
# The registry of revoked credentials

The marks in a store are a registry of what has been revoked.  In every run it holds just the marks
that it needs (`Run.registry`).  Each mark is that of a text which a logout was given and which is
signed with the secret of the service, and lapses at the very instant at which that text expires:
the time that was left at the logout is added to the instant at which the mark is put, so no part of
a second is lost or gained.  A logout with a text that does not verify leaves all marks as they are.
So a sweep leaves no more marks than there are revoked texts that have not yet expired.
-/

namespace SignOn.Engine

set_option autoImplicit false

open Operation Settings Service

/-! ## Marks in a store -/

theorem windowKeyStart_ne_markKeyStart (text rest : String) :
    windowKeyStart ++ text ≠ markKeyStart ++ rest := by
  intro same
  have second := congrArg (fun key : String => key.toList[1]?) same
  simp [windowKeyStart, markKeyStart, String.toList_append] at second

/-- What is in its place at a key of marks is a mark at the key of a text. -/
theorem InPlace.exists_markKey {rest : String} {entry : Store.Entry}
    (inPlace : InPlace (markKeyStart ++ rest) entry) :
    ∃ token, markKeyStart ++ rest = markKey token := by
  cases inPlace with
  | counter window _ _ => exact absurd window.symm (windowKeyStart_ne_markKeyStart _ _)
  | mark marks _ => exact ⟨_, marks⟩

/-- The marks that a store holds, with their keys. -/
def marksIn (store : Store.KeyValue) : List (String × Store.Entry) :=
  store.entries.filter fun entry => markKeyStart.toList.isPrefixOf entry.1.toList

theorem exists_rest_of_mem_marksIn {store : Store.KeyValue} {held : String × Store.Entry}
    (member : held ∈ marksIn store) :
    ∃ rest, held.1 = markKeyStart ++ rest ∧ store.get? held.1 = some held.2 := by
  obtain ⟨inside, marks⟩ := List.mem_filter.1 member
  obtain ⟨rest, split⟩ := List.isPrefixOf_iff_prefix.1 marks
  refine ⟨String.ofList rest, ?_, Store.Table.get?_of_mem inside⟩
  apply String.toList_injective
  rw [String.toList_append, String.toList_ofList, split]

/-! ## A logout with a text that does not verify -/

/-- The action touches no mark. -/
def Action.LeavesMarks : Action → Prop
  | .store (.count key _) => ∃ text, key = windowKeyStart ++ text
  | .store (.mark _ _ _) | .store (.isMarked _) => False
  | _ => True

theorem routine_leavesMarks : Routine Action.LeavesMarks :=
  ⟨trivial, trivial, fun _ => trivial, fun _ _ => ⟨_, rfl⟩⟩

theorem World.get?_perform_of_leavesMarks {action : Action} (leaves : action.LeavesMarks)
    (rest : String) (world : World) :
    (world.perform action).2.keyValue.get? (markKeyStart ++ rest) =
      world.keyValue.get? (markKeyStart ++ rest) := by
  cases action with
  | readClock | drawTokenId | publish event | askProvider provider code => rfl
  | store call =>
    cases call with
    | readSession _ | deleteSession _ | findUser _ _ | saveUser _ => rfl
    | mark _ _ _ | isMarked _ => exact leaves.elim
    | writeSession _ _ _ | replaceSession _ _ _ _ =>
      rw [World.perform, World.performCall, World.answer_keeps World.keyValue]
      intro store
      rfl
    | count key window =>
      obtain ⟨text, rfl⟩ := leaves
      rw [World.perform, World.performCall]
      cases counted : world.keyValue.count world.clock (windowKeyStart ++ text) window with
      | error fault => rfl
      | ok result =>
        exact Store.KeyValue.get?_count counted (windowKeyStart_ne_markKeyStart text rest).symm

/-- Ending a session leaves all marks as they are, if what it is given does not verify. -/
theorem get?_endSession_of_unverified {service : Service} {context : Context} {token : String}
    {world after : World} {outcome : Except CalendarEnd (Except Failure Unit)}
    (within : world.clock.isRepresentable = true)
    (unverified : ∀ claims, service.codec.verify world.clock token ≠ .ok claims)
    (ran : (service.endSession context (some token)).on world = (outcome, after)) (rest : String) :
    after.keyValue.get? (markKeyStart ++ rest) = world.keyValue.get? (markKeyStart ++ rest) := by
  have leaves {world after : World} {outcome : Except CalendarEnd (Except Failure Unit)}
      {identity : UserId}
      (enforced : (service.enforce context .logout identity).on world = (outcome, after)) :
      after.keyValue.get? (markKeyStart ++ rest) = world.keyValue.get? (markKeyStart ++ rest) :=
    part_of_on (fun world => world.keyValue.get? (markKeyStart ++ rest))
      (fun leaves => World.get?_perform_of_leavesMarks leaves rest)
      (only_enforce routine_leavesMarks) enforced
  unfold endSession at ran
  cases actor : context.actor with
  | none =>
    rw [actor] at ran
    obtain ⟨rfl, rfl⟩ := Prod.mk.inj ran
    rfl
  | some identity =>
    rw [actor] at ran
    dsimp only at ran
    rcases on_bind_cases ran with ⟨_, middle, enforced, ran⟩ | ⟨_, stopped, _, _⟩
    · have clock := clock_of_on enforced
      have deleted : (Operation.outcome (call (.deleteSession identity))).on middle =
          (.ok (.ok (.ok ())), { middle with sessions := middle.sessions.erase identity }) := rfl
      rw [on_bind_ok deleted] at ran
      obtain ⟨inner, revoking⟩ : ∃ inner, (revoke service.codec token).on
          { middle with sessions := middle.sessions.erase identity } = (inner, after) := by
        rcases on_bind_cases ran with ⟨value, last, ended, ran⟩ | ⟨_, stopped, _, _⟩
        · obtain ⟨_, rfl⟩ := Prod.mk.inj ran
          exact on_of_on_outcome ended
        · exact on_of_on_outcome stopped
      rw [← leaves enforced]
      rcases revoke_cases revoking (by rw [clock]; exact within) with
        ⟨claims, carries, _, before, _⟩ | ⟨same, _⟩
      · change middle.clock < expiryOf claims at before
        rw [clock] at before
        exact absurd (Codec.verify_eq_ok_iff.2 ⟨carries, Instant.seconds_lt_iff.2 before⟩)
          (unverified claims)
      · rw [same]
    · exact leaves stopped

/-! ## Marks in every run -/

section Run

variable {service : Service} {past : List Deed} {world : World}

/-- What is held at the key of a text is the mark of a text that was revoked. -/
theorem Run.exists_revoked (run : Run service past world) :
    ∀ (token : String) (entry : Store.Entry), world.keyValue.get? (markKey token) = some entry →
      ∃ text ∈ revokedTexts service past, ∃ claims, service.codec.Carries text claims ∧
        markKey text = markKey token ∧ entry = markOf claims := by
  have was {token : String} {entry : Store.Entry} {before after : World}
      (kept : KeepsKey (markKey token) before after)
      (found : after.keyValue.get? (markKey token) = some entry) :
      before.keyValue.get? (markKey token) = some entry := by
    rcases kept with same | same
    · rw [← same, found]
    · rw [same] at found
      exact (Store.KeyValue.liveAt_eq_some_iff.1 found).1
  induction run with
  | fresh start =>
    intro token entry found
    rw [start.keyValue, Store.Table.get?_empty] at found
    cases found
  | @call past world run call ih =>
    intro token entry found
    have earlier (found : world.keyValue.get? (markKey token) = some entry) :
        ∃ text ∈ revokedTexts service (call.deed service world :: past), ∃ claims,
          service.codec.Carries text claims ∧ markKey text = markKey token ∧
            entry = markOf claims := by
      obtain ⟨text, revoked, rest⟩ := ih token entry found
      obtain ⟨former, inside, given⟩ := List.mem_filterMap.1 revoked
      exact ⟨text, List.mem_filterMap.2 ⟨former, List.mem_cons_of_mem _ inside, given⟩, rest⟩
    have effect : (call.deed service world).MarkEffect service (call.after service world) :=
      call.markEffect run.isRepresentable
    cases effect with
    | @marks text claims revoked carries marked kept =>
      by_cases same : markKey token = markKey text
      · rw [same, marked] at found
        exact ⟨text, List.mem_filterMap.2 ⟨_, List.mem_cons_self, revoked⟩, claims, carries,
          same.symm, (Option.some.inj found).symm⟩
      · exact earlier (was (kept token same) found)
    | keeps _ kept => exact earlier (was (kept token) found)
  | sweep run ih =>
    intro token entry found
    exact ih token entry (was (Or.inr Store.KeyValue.get?_purge) found)
  | wait run ordered within ih => exact ih

/-- The texts that a run has revoked, each once, as far as they still verify. -/
def unexpiredTexts (service : Service) (past : List Deed) (now : Instant) : List String :=
  (revokedTexts service past).dedup.filter fun text => (service.codec.verify now text).isOk

/-- The registry of a run holds the marks that it needs, and no others. -/
structure Registry (service : Service) (past : List Deed) (world : World) : Prop where
  /-- What is at a key of marks is the mark of a text, without blanks around it, that a logout was
  given and that is signed with the secret of the service; it lapses just as that text expires. -/
  entries : ∀ rest entry, world.keyValue.get? (markKeyStart ++ rest) = some entry →
    ∃ text ∈ revokedTexts service past, ∃ claims, service.codec.Carries text claims ∧
      Text.trim text = text ∧ markKeyStart ++ rest = markKey text ∧
      entry = ⟨.text markText, Instant.ofSeconds claims.expiresAt⟩
  /-- A text that was revoked has its mark until it expires, if it has a hash of its own. -/
  held : ∀ text ∈ revokedTexts service past, ∀ claims, service.codec.Carries text claims →
    (Instant.ofSeconds claims.expiresAt).isRepresentable = true →
    (∀ other ∈ revokedTexts service past, markKey other = markKey text → other = text) →
    world.clock < Instant.ofSeconds claims.expiresAt →
    world.keyValue.get? (markKey text) =
      some ⟨.text markText, Instant.ofSeconds claims.expiresAt⟩
  /-- A logout with a text that does not verify changes nothing at any key of marks. -/
  logouts : ∀ context token, (∀ claims, service.codec.verify world.clock token ≠ .ok claims) →
    ∀ rest,
      ((Call.logout context (some token)).after service world).keyValue.get? (markKeyStart ++ rest) =
        world.keyValue.get? (markKeyStart ++ rest)
  /-- After a sweep, there are no more marks than revoked texts that have not expired. -/
  swept : (marksIn world.sweep.keyValue).length ≤ (unexpiredTexts service past world.clock).length

/-- **The registry of a run holds exactly the marks that it needs.** -/
theorem Run.registry (run : Run service past world) : Registry service past world where
  entries := by
    intro rest entry found
    obtain ⟨token, key⟩ := (run.sharedStore.inPlace _ _ found).exists_markKey
    rw [key] at found
    obtain ⟨text, revoked, claims, carries, same, marks⟩ := run.exists_revoked token entry found
    exact ⟨text, revoked, claims, carries, trim_of_mem_revokedTexts revoked, key.trans same.symm,
      marks⟩
  held := by
    intro text revoked claims carries dated alone before
    rcases (run.markedFor text).marked revoked claims carries dated alone with there | ⟨_, lapsed⟩
    · exact there
    · exact absurd before (Instant.not_lt.2 lapsed)
  logouts := by
    intro context token unverified rest
    obtain ⟨events, observed⟩ : ∃ events, (service.logout context (some token)).on world =
        (_, { ((service.endSession context (some token)).on world).2 with events := events }) :=
      on_observe (service.endSession context (some token))
    have left : (Call.logout context (some token)).after service world =
        { ((service.endSession context (some token)).on world).2 with events := events } :=
      congrArg Prod.snd observed
    rw [left]
    exact get?_endSession_of_unverified run.isRepresentable unverified rfl rest
  swept := by
    have distinct : ((marksIn world.sweep.keyValue).map Prod.fst).Nodup :=
      Store.Table.nodup_filter _ world.sweep.keyValue.distinct
    have covered : (marksIn world.sweep.keyValue).map Prod.fst ⊆
        (unexpiredTexts service past world.clock).map markKey := by
      intro key member
      obtain ⟨⟨_, entry⟩, inside, rfl⟩ := List.mem_map.1 member
      obtain ⟨rest, starts, found⟩ := exists_rest_of_mem_marksIn inside
      obtain ⟨token, same⟩ : ∃ token, markKeyStart ++ rest = markKey token := by
        rw [starts] at found
        exact (run.sweep.sharedStore.inPlace _ _ found).exists_markKey
      rw [starts, same] at found
      obtain ⟨text, revoked, claims, carries, marks, rfl⟩ :=
        run.sweep.exists_revoked token entry found
      rw [World.sweep, Store.KeyValue.get?_purge, Store.KeyValue.liveAt_eq_some_iff] at found
      have verified : service.codec.verify world.clock text = .ok claims :=
        Codec.verify_eq_ok_iff.2 ⟨carries, Instant.seconds_lt_iff.2 found.2⟩
      refine List.mem_map.2 ⟨text, List.mem_filter.2 ⟨List.mem_dedup.2 revoked, ?_⟩, ?_⟩
      · rw [verified]
        rfl
      · rw [marks, ← same, ← starts]
    have fewer := (List.subperm_of_subset distinct covered).length_le
    rwa [List.length_map, List.length_map] at fewer

/-- The registry after a login and a logout with the credential that it handed out. -/
theorem Run.registry_afterLogout :
    let last := (Call.logout Sample.somebody (some Sample.pair.accessToken)).after Sample.service
      Sample.loggedIn
    ∃ past, Run Sample.service past last ∧ Registry Sample.service past last := by
  intro last
  have run := Sample.run_login.call (.logout Sample.somebody (some Sample.pair.accessToken))
  exact ⟨_, run, run.registry⟩

end Run

end SignOn.Engine
