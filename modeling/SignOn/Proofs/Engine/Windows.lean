import SignOn.Proofs.Engine.Conduct
import SignOn.Proofs.Engine.Runs

/-!
# Windows and marks keep apart

Counters and marks live in one store under keys with different starts.  So what is held at the key
of a window is a counter in every run (`Run.holdsCounters`), and a call whose window ends within
the calendar is always counted.
-/

namespace SignOn.Engine

set_option autoImplicit false

open Operation Settings Service

/-! ## Keys -/

theorem windowKeyStart_ne_markKey (text token : String) : windowKeyStart ++ text ≠ markKey token := by
  intro same
  have second := congrArg (fun key : String => key.toList[1]?) same
  simp [windowKeyStart, markKey, markKeyStart, String.toList_append] at second

/-! ## Counters in every run -/

/-- What is held at the key of a window is a counter. -/
def HoldsCounters (world : World) : Prop :=
  ∀ text entry, world.keyValue.get? (windowKeyStart ++ text) = some entry →
    ∃ count, entry.content = .counter count

/-- Texts are put at the keys of marks only. -/
def Action.MarksCredentials : Action → Prop
  | .store (.mark key _ _) => ∃ token, key = markKey token
  | _ => True

theorem routine_marksCredentials : Routine Action.MarksCredentials :=
  ⟨trivial, trivial, fun _ => trivial, fun _ _ => trivial⟩

theorem Call.only_marksCredentials (service : Service) (call : Call) :
    (call.operation service).Only Action.MarksCredentials := by
  have routine := routine_marksCredentials
  cases call with
  | login context identity => exact only_login routine fun _ => trivial
  | providerLogin context callback =>
    exact only_providerLogin routine (fun _ _ => trivial) (fun _ => trivial) fun _ _ => trivial
  | reissue context presented => exact only_reissue routine (fun _ => trivial) fun _ _ => trivial
  | logout context token =>
    exact only_logout routine (fun _ _ => trivial) fun text _ _ => ⟨text, rfl⟩
  | authorize context token => exact only_authorize routine trivial

theorem HoldsCounters.of_keyValue {before after : World} (holds : HoldsCounters before)
    (same : after.keyValue = before.keyValue) : HoldsCounters after := by
  intro text entry found
  rw [same] at found
  exact holds text entry found

theorem HoldsCounters.perform {world : World} (holds : HoldsCounters world) {action : Action}
    (marks : action.MarksCredentials) : HoldsCounters (world.perform action).2 := by
  cases action with
  | readClock | drawTokenId | publish event | askProvider provider code =>
    exact holds.of_keyValue rfl
  | store call =>
    cases call with
    | readSession _ | deleteSession _ | findUser _ _ | saveUser _ => exact holds.of_keyValue rfl
    | writeSession _ _ _ | replaceSession _ _ _ _ =>
      apply holds.of_keyValue
      apply World.answer_keeps World.keyValue
      intro store
      rfl
    | count key window =>
      intro text entry found
      rw [World.perform, World.performCall] at found
      cases counted : world.keyValue.count world.clock key window with
      | error fault =>
        rw [counted] at found
        exact holds text entry found
      | ok result =>
        obtain ⟨count, counters⟩ := result
        rw [counted] at found
        by_cases same : windowKeyStart ++ text = key
        · obtain ⟨expiresAt, held⟩ := Store.KeyValue.get?_count_self counted
          rw [← same] at held
          obtain rfl := Option.some.inj (held.symm.trans found)
          exact ⟨count, rfl⟩
        · exact holds text entry ((Store.KeyValue.get?_count counted same).symm.trans found)
    | mark key label lifetime =>
      obtain ⟨token, rfl⟩ := marks
      intro text entry found
      rw [World.perform, World.performCall, Store.KeyValue.write] at found
      cases fits : Store.expiry world.clock lifetime with
      | error fault =>
        rw [fits] at found
        exact holds text entry found
      | ok expiresAt =>
        rw [fits] at found
        have other := Store.Table.get?_insert_of_ne world.keyValue
          (⟨.text label, expiresAt⟩ : Store.Entry) (windowKeyStart_ne_markKey text token)
        exact holds text entry (other.symm.trans found)
    | isMarked key =>
      intro text entry found
      change (world.keyValue.isPresent world.clock key).2.get? (windowKeyStart ++ text) = _ at found
      rw [Store.KeyValue.get?_isPresent] at found
      split at found
      · next same =>
        rw [← same] at found
        exact holds text entry (Store.KeyValue.liveAt_eq_some_iff.1 found).1
      · exact holds text entry found

theorem Call.holdsCounters_after (service : Service) (call : Call) {world : World}
    (holds : HoldsCounters world) : HoldsCounters (call.after service world) := by
  refine Program.run_related (fun before after => HoldsCounters before → HoldsCounters after)
    (fun _ holds => holds) ?_ ?_ (call.only_marksCredentials service) world holds
  · intro first second third here there holds
    exact there (here holds)
  · intro action world marks holds
    exact holds.perform marks

variable {service : Service} {past : List Deed} {world : World}

theorem Run.holdsCounters (run : Run service past world) : HoldsCounters world := by
  induction run with
  | fresh start =>
    intro text entry found
    rw [start.keyValue, Store.Table.get?_empty] at found
    cases found
  | call run call ih => exact call.holdsCounters_after service ih
  | sweep run ih =>
    intro text entry found
    rw [World.sweep, Store.KeyValue.get?_purge] at found
    exact ih text entry (Store.KeyValue.liveAt_eq_some_iff.1 found).1
  | wait run ordered within ih => exact ih.of_keyValue rfl

/-! ## What a limited call comes to -/

/-- The rate windows, and the lifetime of refresh credentials, lead from an instant to instants of
the calendar. -/
structure Service.FitsAt (service : Service) (now : Instant) : Prop where
  refresh : (service.codec.refreshLifetime.after now).isRepresentable = true
  windows : ∀ operation limit, service.limits.limitOf operation = some limit →
    (limit.window.after now).isRepresentable = true

/-- A call that its budget does not admit is beyond its limit, and is told so. -/
theorem HoldsCounters.on_enforce_refused (holds : HoldsCounters world)
    (within : world.clock.isRepresentable = true) (fits : service.FitsAt world.clock)
    (context : Context) {operation : LimitedOperation} {identity : UserId}
    (refused : service.admits operation identity world = false) :
    ∃ counters event, (service.enforce context operation identity).on world =
      (.ok (.error (.rejected (.rateLimitExceeded (limitKey operation identity)))),
        { world with keyValue := counters }.record event) := by
  unfold admits at refused
  split at refused
  · cases refused
  · next limit limited =>
    have window := Store.expiry_of_isRepresentable within (fits.windows operation limit limited)
    have noText : ∀ text expiresAt, world.keyValue.get? (windowKey operation identity) ≠
        some ⟨.text text, expiresAt⟩ := by
      intro text expiresAt found
      obtain ⟨count, counter⟩ := holds _ _ found
      cases counter
    obtain ⟨count, counters, counted⟩ := Store.KeyValue.exists_count window noText
    rw [counted] at refused
    obtain ⟨event, exceeded⟩ := on_enforce_exceeded context limited counted
      (of_decide_eq_false refused)
    exact ⟨counters, event, exceeded⟩

end SignOn.Engine
