import SignOn.Proofs.Engine.SessionEffects
import SignOn.Proofs.Engine.Windows

/-!
# The marks of revoked credentials

A logout that its budget admits revokes the credential it is given, without the blanks around it
(`Deed.revoked`).  Where that text carries claims that have not expired, the logout puts a mark that
lapses with the very second of their expiry; it puts no other, and no other call puts any.  The mark
stays until that second, whatever else the run does (`Run.markedFor`).
-/

namespace SignOn.Engine

set_option autoImplicit false

open Operation Settings Service

/-! ## Entries that are kept -/

/-- What a world holds at a key is what another held there, unless that had lapsed. -/
def KeepsKey (key : String) (before after : World) : Prop :=
  after.keyValue.get? key = before.keyValue.get? key ∨
    after.keyValue.get? key = before.keyValue.liveAt before.clock key

theorem keepsKey_of_eq {key : String} {before after : World}
    (same : after.keyValue = before.keyValue) : KeepsKey key before after :=
  Or.inl (by rw [same])

/-- What is kept is shown as it was. -/
theorem KeepsKey.liveAt {key : String} {before after : World} (kept : KeepsKey key before after) :
    after.keyValue.liveAt before.clock key = before.keyValue.liveAt before.clock key := by
  rw [Store.KeyValue.liveAt]
  rcases kept with same | same
  · rw [same, Store.KeyValue.liveAt]
  · rw [same, Store.KeyValue.liveAt, Option.filter_filter]
    simp

theorem KeepsKey.trans {key : String} {first second third : World}
    (here : KeepsKey key first second) (clock : second.clock = first.clock)
    (there : KeepsKey key second third) :
    KeepsKey key first third := by
  have live : second.keyValue.liveAt second.clock key = first.keyValue.liveAt first.clock key := by
    rw [clock, here.liveAt]
  rcases there with same | same
  · rw [KeepsKey, same]
    exact here
  · exact Or.inr (same.trans live)

theorem absent_of_kept {key : String} {before after : World} (kept : KeepsKey key before after)
    (absent : before.keyValue.get? key = none) : after.keyValue.get? key = none := by
  rcases kept with same | same
  · exact same.trans absent
  · rw [same, Store.KeyValue.liveAt, absent]
    rfl

/-- The action puts nothing at a key. -/
def Action.SparesKey (key : String) : Action → Prop
  | .store (.mark other _ _) | .store (.count other _) => key ≠ other
  | _ => True

theorem keepsKey_perform {key : String} {action : Action} (spares : action.SparesKey key)
    (world : World) : KeepsKey key world (world.perform action).2 := by
  cases action with
  | readClock | drawTokenId | publish event | askProvider provider code =>
    exact keepsKey_of_eq rfl
  | store call =>
    cases call with
    | readSession _ | deleteSession _ | findUser _ _ | saveUser _ => exact keepsKey_of_eq rfl
    | writeSession _ _ _ | replaceSession _ _ _ _ =>
      apply keepsKey_of_eq
      apply World.answer_keeps World.keyValue
      intro store
      rfl
    | count other window =>
      rw [World.perform, World.performCall]
      cases counted : world.keyValue.count world.clock other window with
      | error fault => exact keepsKey_of_eq rfl
      | ok result =>
        obtain ⟨count, counters⟩ := result
        exact Or.inl (Store.KeyValue.get?_count counted spares)
    | mark other text lifetime =>
      rw [World.perform, World.performCall, Store.KeyValue.write]
      cases Store.expiry world.clock lifetime with
      | error fault => exact keepsKey_of_eq rfl
      | ok expiresAt => exact Or.inl (Store.Table.get?_insert_of_ne _ _ spares)
    | isMarked other =>
      change KeepsKey _ _ { world with keyValue := (world.keyValue.isPresent world.clock other).2 }
      rw [KeepsKey, Store.KeyValue.get?_isPresent]
      by_cases same : key = other
      · exact Or.inr (by rw [if_pos same, same])
      · exact Or.inl (by rw [if_neg same])

theorem keepsKey_of_spares {α : Type} {operation : Operation α} {key : String}
    (spares : operation.Only (Action.SparesKey key)) {world after : World}
    {outcome : Except CalendarEnd (Except Failure α)}
    (ran : operation.on world = (outcome, after)) : KeepsKey key world after := by
  have kept : (operation.on world).2.clock = world.clock ∧
      KeepsKey key world (operation.on world).2 := by
    refine Program.run_related
      (fun before after => after.clock = before.clock ∧ KeepsKey key before after)
      (fun _ => ⟨rfl, keepsKey_of_eq rfl⟩) ?_ ?_ spares world
    · intro first second third here there
      exact ⟨there.1.trans here.1, here.2.trans here.1 there.2⟩
    · intro action world allowed
      exact ⟨world.perform_clock action, keepsKey_perform allowed world⟩
  rw [ran] at kept
  exact kept.2

/-- Once a reissue has been counted, it puts nothing at any key. -/
theorem Service.keepsKey_reissue {service : Service} {context : Context} {presented : String}
    {claims : Claims} {world counted : World}
    (verified : service.codec.verifyKind world.clock presented .refresh = .ok claims)
    (enforced : (service.enforce (context.withActor claims.userId) .reissue claims.userId).on world =
      (.ok (.ok ()), counted)) (key : String) :
    KeepsKey key counted ((service.reissue context presented).on world).2 := by
  have spares : (do
      let found ← Operation.call (.readSession claims.userId)
      service.rotateFrom claims.userId (Text.trim presented) found).Only (Action.SparesKey key) :=
    only_bind (only_call trivial) (only_rotateFrom trivial trivial fun _ => trivial)
  have kept : KeepsKey key counted (Operation.on _ counted).2 :=
    keepsKey_of_spares spares Prod.mk.eta.symm
  obtain ⟨events, rotated⟩ := on_reissue_verified context verified
  rw [rotated, rotate_eq, on_bind_ok enforced]
  exact kept

/-- The action puts no mark. -/
def Action.MarksNothing : Action → Prop
  | .store (.mark _ _ _) => False
  | .store (.count key _) => ∃ text, key = windowKeyStart ++ text
  | _ => True

theorem routine_marksNothing : Routine Action.MarksNothing :=
  ⟨trivial, trivial, fun _ => trivial, fun _ _ => ⟨_, rfl⟩⟩

/-- Counting is no harm to a mark. -/
theorem Action.MarksNothing.sparesKey {action : Action} (nothing : action.MarksNothing)
    (token : String) : action.SparesKey (markKey token) := by
  cases action with
  | store call =>
    cases call with
    | mark _ _ _ => exact nothing.elim
    | count key window =>
      obtain ⟨text, rfl⟩ := nothing
      exact (windowKeyStart_ne_markKey text token).symm
    | _ => trivial
  | _ => trivial

theorem keepsKey_of_on {α : Type} {operation : Operation α}
    (nothing : operation.Only Action.MarksNothing) {world after : World}
    {outcome : Except CalendarEnd (Except Failure α)}
    (ran : operation.on world = (outcome, after)) (token : String) :
    KeepsKey (markKey token) world after := by
  refine keepsKey_of_spares (fun past => ?_) ran
  exact (nothing past).mono (fun _ _ allowed => allowed.sparesKey token) fun _ _ _ => trivial

/-! ## Revoking -/

/-- The instant at which claims expire. -/
def expiryOf (claims : Claims) : Instant :=
  Instant.ofSeconds claims.expiresAt

/-- The mark of a credential with some claims. -/
def markOf (claims : Claims) : Store.Entry :=
  ⟨.text markText, expiryOf claims⟩

/-- A mark for the time that is left until an instant of the calendar lapses at that instant. -/
theorem on_mark {key text : String} {world : World} {lapse : Instant}
    (within : world.clock.isRepresentable = true) (dated : lapse.isRepresentable = true)
    (before : world.clock < lapse) :
    (call (.mark key text ⟨(lapse.nanoseconds - world.clock.nanoseconds).toNat⟩)).on world =
      (.ok (.ok ()),
        { world with keyValue := world.keyValue.insert key ⟨.text text, lapse⟩ }) := by
  have ends := Instant.after_toNat_sub (Int.le_of_lt before)
  have fits := Store.expiry_of_isRepresentable within (ends ▸ dated)
  rw [ends] at fits
  apply on_call_answered
  rw [World.performCall, Store.KeyValue.write, fits]
  rfl

/-- Of a text that carries claims, the time until they expire remains. -/
theorem remaining_of_carries {codec : Codec} {now : Instant} {token : String} {claims : Claims}
    (carries : codec.Carries token claims) (dated : (expiryOf claims).isRepresentable = true) :
    codec.remaining now token = .ok ((expiryOf claims).nanoseconds - now.nanoseconds) :=
  Codec.remaining_eq_ok_iff.2 ⟨claims, carries, dated, rfl⟩

/-- Revoking puts a mark for the time that remains, if any does. -/
theorem on_revoke_of_remaining {codec : Codec} {token : String} {world : World} {left : Int}
    (remains : codec.remaining world.clock token = .ok left) :
    (revoke codec token).on world =
      if left ≤ 0 then (.ok (.ok ()), world)
      else (call (.mark (markKey token) markText ⟨left.toNat⟩)).on world := by
  have told : (ofVerdict (codec.remaining world.clock token)).on world =
      (.ok (.ok left), world) := by
    rw [on_ofVerdict, remains]
    rfl
  rw [revoke, on_bind_ok (on_readClock world), on_bind_ok told]
  split
  · rfl
  · rfl

/-- A text of which no time that remains can be told is not revoked. -/
theorem on_revoke_of_error {codec : Codec} {token : String} {world : World} {rejection : Rejection}
    (untold : codec.remaining world.clock token = .error rejection) :
    (revoke codec token).on world = (.ok (.error (.rejected rejection)), world) := by
  have failed : (ofVerdict (codec.remaining world.clock token)).on world =
      (.ok (.error (.rejected rejection)), world) := by
    rw [on_ofVerdict, untold]
    rfl
  rw [revoke, on_bind_ok (on_readClock world), on_bind_error failed]

/-- The mark of a text that carries unexpired claims lapses as they expire. -/
theorem on_revoke {codec : Codec} {token : String} {claims : Claims} {world : World}
    (carries : codec.Carries token claims) (within : world.clock.isRepresentable = true)
    (dated : (expiryOf claims).isRepresentable = true) (before : world.clock < expiryOf claims) :
    (revoke codec token).on world = (.ok (.ok ()),
      { world with keyValue := world.keyValue.insert (markKey token) (markOf claims) }) := by
  have live : ¬ (expiryOf claims).nanoseconds - world.clock.nanoseconds ≤ 0 := by
    rw [Instant.lt_def] at before
    omega
  rw [on_revoke_of_remaining (remaining_of_carries carries dated), if_neg live]
  exact on_mark within dated before

/-- Revoking puts a mark for a text that carries unexpired claims, which lapses as they expire; for
any other text it does nothing. -/
theorem revoke_cases {codec : Codec} {token : String} {world after : World}
    {outcome : Except CalendarEnd (Except Failure Unit)}
    (ran : (revoke codec token).on world = (outcome, after))
    (within : world.clock.isRepresentable = true) :
    (∃ claims, codec.Carries token claims ∧ (expiryOf claims).isRepresentable = true ∧
      world.clock < expiryOf claims ∧
      after.keyValue = world.keyValue.insert (markKey token) (markOf claims)) ∨
    after.keyValue = world.keyValue ∧
      ∀ claims, codec.Carries token claims → (expiryOf claims).isRepresentable = true →
        expiryOf claims ≤ world.clock := by
  by_cases marks : ∃ claims, codec.Carries token claims ∧
      (expiryOf claims).isRepresentable = true ∧ world.clock < expiryOf claims
  · obtain ⟨claims, carries, dated, before⟩ := marks
    rw [on_revoke carries within dated before] at ran
    obtain ⟨_, rfl⟩ := Prod.mk.inj ran
    exact Or.inl ⟨claims, carries, dated, before, rfl⟩
  · have lapsed : ∀ claims, codec.Carries token claims → (expiryOf claims).isRepresentable = true →
        expiryOf claims ≤ world.clock := fun claims carries dated =>
      Instant.not_lt.1 fun before => marks ⟨claims, carries, dated, before⟩
    refine Or.inr ⟨?_, lapsed⟩
    cases left : codec.remaining world.clock token with
    | error rejection =>
      rw [on_revoke_of_error left] at ran
      obtain ⟨_, rfl⟩ := Prod.mk.inj ran
      rfl
    | ok remaining =>
      obtain ⟨claims, carries, dated, rfl⟩ := Codec.remaining_eq_ok_iff.1 left
      have spent : (expiryOf claims).nanoseconds - world.clock.nanoseconds ≤ 0 :=
        Int.sub_nonpos_of_le (lapsed claims carries dated)
      rw [on_revoke_of_remaining (remaining_of_carries carries dated), if_pos spent] at ran
      obtain ⟨_, rfl⟩ := Prod.mk.inj ran
      rfl

/-! ## Deeds and marks -/

/-- The text that a deed revokes: what a logout was given, without the blanks around it, if the
budget of the actor admits the logout. -/
def Deed.revoked (service : Service) (deed : Deed) : Option String :=
  match deed.call with
  | .logout _ token =>
      if (deed.loggedOut service).isSome then token.map Text.trim else none
  | _ => none

/-- The texts that a run has revoked. -/
def revokedTexts (service : Service) (past : List Deed) : List String :=
  past.filterMap (Deed.revoked service)

/-- What a deed does to the marks. -/
inductive Deed.MarkEffect (service : Service) (deed : Deed) (after : World) : Prop where
  | marks {text : String} {claims : Claims} (revoked : deed.revoked service = some text)
      (carries : service.codec.Carries text claims)
      (marked : after.keyValue.get? (markKey text) = some (markOf claims))
      (kept : ∀ other, markKey other ≠ markKey text → KeepsKey (markKey other) deed.before after)
  | keeps (spent : ∀ text, deed.revoked service = some text →
        ∀ claims, service.codec.Carries text claims → (expiryOf claims).isRepresentable = true →
          expiryOf claims ≤ deed.before.clock)
      (kept : ∀ other, KeepsKey (markKey other) deed.before after)

theorem Deed.MarkEffect.of_keyValue {service : Service} {deed : Deed} {after last : World}
    (effect : deed.MarkEffect service after) (same : last.keyValue = after.keyValue) :
    deed.MarkEffect service last := by
  cases effect with
  | marks revoked carries marked kept =>
    refine .marks revoked carries (by rw [same, marked]) ?_
    intro other differs
    rw [KeepsKey, same]
    exact kept other differs
  | keeps spent kept =>
    refine .keeps spent ?_
    intro other
    rw [KeepsKey, same]
    exact kept other

theorem markKey_trim (token : String) : markKey (Text.trim token) = markKey token := by
  rw [markKey, Text.trim_trim, markKey]

namespace Call

variable {service : Service} {context : Context} {world after : World}

theorem markEffect_of_only {call : Call} {outcome : Except CalendarEnd (Except Failure call.Answer)}
    (ran : (call.operation service).on world = (outcome, after))
    (nothing : (call.operation service).Only Action.MarksNothing)
    (unrevoked : (⟨call, world, outcome⟩ : Deed).revoked service = none) :
    Deed.MarkEffect service ⟨call, world, outcome⟩ after := by
  refine .keeps ?_ (keepsKey_of_on nothing ran)
  intro text revoked
  rw [unrevoked] at revoked
  cases revoked

/-- Ending a session revokes what it is given if the budget of the actor admits it. -/
theorem endSession_marks {token : Option String}
    {outcome result : Except CalendarEnd (Except Failure Unit)}
    (ran : (service.endSession context token).on world = (outcome, after))
    (within : world.clock.isRepresentable = true) :
    Deed.MarkEffect service ⟨.logout context token, world, result⟩ after := by
  have routine := routine_marksNothing
  cases actor : context.actor with
  | none =>
    unfold endSession at ran
    rw [actor] at ran
    obtain ⟨rfl, rfl⟩ := Prod.mk.inj ran
    refine .keeps ?_ fun _ => keepsKey_of_eq rfl
    simp [Deed.revoked, Deed.loggedOut, actor]
  | some identity =>
    unfold endSession at ran
    rw [actor] at ran
    dsimp only at ran
    cases admitted : service.admits .logout identity world with
    | false =>
      have refused := on_enforce_of_not_admits context admitted
      have kept : ∀ other, KeepsKey (markKey other) world after := by
        rcases on_bind_cases ran with ⟨_, middle, enforced, _⟩ | ⟨_, stopped, _, _⟩
        · rw [enforced] at refused
          exact absurd rfl refused
        · exact keepsKey_of_on (only_enforce routine) stopped
      refine .keeps ?_ kept
      simp [Deed.revoked, Deed.loggedOut, actor, Option.filter, admitted]
    | true =>
      have revoked : (⟨.logout context token, world, result⟩ : Deed).revoked service =
          token.map Text.trim := by
        simp [Deed.revoked, Deed.loggedOut, actor, Option.filter, admitted]
      obtain ⟨counters, enforced⟩ := on_enforce_of_admits context admitted
      have counted := keepsKey_of_on (only_enforce routine) enforced
      have deleted : (Operation.outcome (call (.deleteSession identity))).on
          { world with keyValue := counters } =
          (.ok (.ok (.ok ())), { world with
            keyValue := counters
            sessions := world.sessions.erase identity }) := rfl
      rw [on_bind_ok enforced, on_bind_ok deleted] at ran
      cases token with
      | none =>
        obtain ⟨rfl, rfl⟩ := Prod.mk.inj ran
        refine .keeps ?_ counted
        intro text same
        rw [revoked] at same
        cases same
      | some given =>
        obtain ⟨inner, revoking⟩ : ∃ inner, (revoke service.codec given).on
            { world with
              keyValue := counters
              sessions := world.sessions.erase identity } = (inner, after) := by
          rcases on_bind_cases ran with ⟨value, middle, ended, ran⟩ | ⟨_, stopped, _, _⟩
          · obtain ⟨_, rfl⟩ := Prod.mk.inj ran
            exact on_of_on_outcome ended
          · exact on_of_on_outcome stopped
        rcases revoke_cases revoking within with
          ⟨claims, carries, dated, before, marked⟩ | ⟨same, spent⟩
        · refine .marks revoked (Codec.carries_trim.2 carries) ?_ ?_
          · rw [marked, markKey_trim, Store.Table.get?_insert_self]
          · intro other differs
            rw [markKey_trim] at differs
            refine (counted other).trans rfl (Or.inl ?_)
            rw [marked, Store.Table.get?_insert_of_ne _ _ differs]
        · refine .keeps ?_ ?_
          · intro text same claims carries dated
            rw [revoked] at same
            obtain rfl := Option.some.inj same
            exact spent claims (Codec.carries_trim.1 carries) dated
          · intro other
            exact (counted other).trans rfl (keepsKey_of_eq same)

/-- What every call does to the marks, in every world of the calendar. -/
theorem markEffect (call : Call) (within : world.clock.isRepresentable = true) :
    (call.deed service world).MarkEffect service (call.after service world) := by
  have routine := routine_marksNothing
  cases call with
  | login context identity =>
    exact markEffect_of_only Prod.mk.eta.symm (only_login routine fun _ => trivial) rfl
  | providerLogin context callback =>
    exact markEffect_of_only Prod.mk.eta.symm
      (only_providerLogin routine (fun _ _ => trivial) (fun _ => trivial) fun _ _ => trivial) rfl
  | reissue context presented =>
    exact markEffect_of_only Prod.mk.eta.symm
      (only_reissue routine (fun _ => trivial) fun _ _ => trivial) rfl
  | authorize context token =>
    exact markEffect_of_only Prod.mk.eta.symm (only_authorize routine trivial) rfl
  | logout context token =>
    obtain ⟨events, observed⟩ : ∃ events, (service.logout context token).on world =
        (_, { ((service.endSession context token).on world).2 with events := events }) :=
      on_observe (service.endSession context token)
    cases ran : (service.endSession context token).on world with
    | mk outcome last =>
      rw [ran] at observed
      have left : (Call.logout context token).after service world = { last with events := events } :=
        congrArg Prod.snd observed
      rw [left]
      exact (endSession_marks ran within).of_keyValue rfl

end Call

/-! ## Marks in every run -/

section Run

variable {service : Service} {past : List Deed} {world after : World} {text : String}

/-- What a run holds at the key of a text: nothing as long as no text of that key is revoked, and
once the text is revoked and carries claims, its mark until they expire. -/
structure MarkedFor (service : Service) (past : List Deed) (text : String) (world : World) :
    Prop where
  unmarked : (∀ other ∈ revokedTexts service past, markKey other ≠ markKey text) →
    world.keyValue.get? (markKey text) = none
  marked : text ∈ revokedTexts service past → ∀ claims, service.codec.Carries text claims →
    (expiryOf claims).isRepresentable = true →
    (∀ other ∈ revokedTexts service past, markKey other = markKey text → other = text) →
    Store.IsThereUntil (world.keyValue.get? (markKey text)) (markOf claims) (expiryOf claims)
      world.clock

theorem MarkedFor.of_kept (holds : MarkedFor service past text world)
    (kept : KeepsKey (markKey text) world after) (later : world.clock ≤ after.clock) :
    MarkedFor service past text after where
  unmarked others := absent_of_kept kept (holds.unmarked others)
  marked revoked claims carries dated alone :=
    (holds.marked revoked claims carries dated alone).of_kept decide_eq_true_iff kept later

/-- What a call leaves at the key of a text. -/
theorem MarkedFor.deed {deed : Deed} (holds : MarkedFor service past text deed.before)
    (clock : after.clock = deed.before.clock) (effect : deed.MarkEffect service after) :
    MarkedFor service (deed :: past) text after := by
  have later : deed.before.clock ≤ after.clock := by
    rw [clock]
    exact Int.le_refl _
  have earlier {other : String} (member : other ∈ revokedTexts service past) :
      other ∈ revokedTexts service (deed :: past) := by
    rw [revokedTexts, List.mem_filterMap] at member ⊢
    obtain ⟨former, inside, revoked⟩ := member
    exact ⟨former, List.mem_cons_of_mem _ inside, revoked⟩
  have latest {other : String} (revoked : deed.revoked service = some other) :
      other ∈ revokedTexts service (deed :: past) :=
    List.mem_filterMap.2 ⟨deed, List.mem_cons_self, revoked⟩
  cases effect with
  | @marks given claims revoked carries marked kept =>
    refine ⟨?_, ?_⟩
    · intro others
      refine absent_of_kept (kept text fun same => others given (latest revoked) same.symm) ?_
      exact holds.unmarked fun other member => others other (earlier member)
    · intro member others otherwise dated alone
      by_cases same : markKey given = markKey text
      · obtain rfl := alone given (latest revoked) same
        obtain rfl := carries.unique otherwise
        exact Or.inl marked
      · have kept := kept text fun equal => same equal.symm
        refine (holds.marked ?_ others otherwise dated ?_).of_kept decide_eq_true_iff kept later
        · rw [revokedTexts, List.filterMap_cons, revoked] at member
          rcases List.mem_cons.1 member with rfl | member
          · exact absurd rfl same
          · exact member
        · intro other inside
          exact alone other (earlier inside)
  | keeps spent kept =>
    refine ⟨?_, ?_⟩
    · intro others
      exact absent_of_kept (kept text)
        (holds.unmarked fun other member => others other (earlier member))
    · intro member claims carries dated alone
      by_cases before : text ∈ revokedTexts service past
      · refine (holds.marked before claims carries dated ?_).of_kept decide_eq_true_iff (kept text)
          later
        intro other inside
        exact alone other (earlier inside)
      · -- The text is revoked by this deed only, when its claims had expired.
        have revoked : deed.revoked service = some text := by
          rw [revokedTexts, List.mem_filterMap] at member before
          obtain ⟨former, inside, revoked⟩ := member
          rcases List.mem_cons.1 inside with rfl | inside
          · exact revoked
          · exact absurd ⟨former, inside, revoked⟩ before
        refine Or.inr ⟨absent_of_kept (kept text) (holds.unmarked ?_), ?_⟩
        · intro other inside same
          exact before (alone other (earlier inside) same ▸ inside)
        · exact Int.le_trans (spent text revoked claims carries dated) later

/-- In every run the store holds, at the key of a text, what the revocations of the run say. -/
theorem Run.markedFor (run : Run service past world) (text : String) :
    MarkedFor service past text world := by
  induction run with
  | fresh start =>
    refine ⟨?_, ?_⟩
    · intro _
      rw [start.keyValue, Store.Table.get?_empty]
    · intro revoked
      cases revoked
  | call run call ih =>
    exact ih.deed (call.clock_after service _) (call.markEffect run.isRepresentable)
  | sweep run ih => exact ih.of_kept (Or.inr Store.KeyValue.get?_purge) (Int.le_refl _)
  | wait run ordered within ih => exact ih.of_kept (Or.inl rfl) ordered

end Run

end SignOn.Engine
