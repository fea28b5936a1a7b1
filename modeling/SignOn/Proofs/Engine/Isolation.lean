import SignOn.Proofs.Engine.Agreement
import SignOn.Proofs.Engine.LateChecks
import SignOn.Proofs.Engine.Ownership

/-!
# Identities do not interfere

What an identity meets in a world is its session and what is held at its keys.  Its own calls go by
nothing else (`InStep.perform`), and the calls of other identities leave it as it is
(`holdSame_perform`).  So the calls of an identity come to the same, and publish the same, whether or
not calls of others take place in between (`reports_filter`).

Every call has instants of its own, one for each thing that it does, and draws identifiers of its
own.  It keeps both when other calls are left out.
-/

namespace SignOn.Engine

set_option autoImplicit false

open Store Operation

/-! ## What an identity meets -/

section Meets

variable {codec : Codec} {texts : List String} {owner other : UserId}
  {first second third world : World}

/-- Two worlds hold the same for an identity. -/
structure HoldSame (codec : Codec) (texts : List String) (owner : UserId)
    (first second : World) : Prop where
  session : first.sessions.get? owner = second.sessions.get? owner
  entry : ∀ key, OwnsKey codec texts owner key →
    first.keyValue.get? key = second.keyValue.get? key

theorem HoldSame.refl (world : World) : HoldSame codec texts owner world world :=
  ⟨rfl, fun _ _ => rfl⟩

theorem HoldSame.symm (same : HoldSame codec texts owner first second) :
    HoldSame codec texts owner second first :=
  ⟨same.session.symm, fun key owns => (same.entry key owns).symm⟩

theorem HoldSame.trans (here : HoldSame codec texts owner first second)
    (there : HoldSame codec texts owner second third) : HoldSame codec texts owner first third :=
  ⟨here.session.trans there.session,
    fun key owns => (here.entry key owns).trans (there.entry key owns)⟩

/-! ### Calls of the identity -/

/-- Two worlds are the same for a call of an identity that is under way in both, and that has
published the same in both, after what was published earlier. -/
structure InStep (codec : Codec) (texts : List String) (owner : UserId)
    (earlier before : List Audit.Event) (first second : World) : Prop where
  clock : first.clock = second.clock
  tokenIds : first.tokenIds = second.tokenIds
  drawn : first.drawn = second.drawn
  holds : HoldSame codec texts owner first second
  events : ∃ published, first.events = earlier ++ published ∧ second.events = before ++ published

variable {earlier before : List Audit.Event}

theorem InStep.setClock (inStep : InStep codec texts owner earlier before first second)
    (instant : Instant) : InStep codec texts owner earlier before { first with clock := instant }
      { second with clock := instant } :=
  ⟨rfl, inStep.tokenIds, inStep.drawn, ⟨inStep.holds.session, inStep.holds.entry⟩, inStep.events⟩

theorem InStep.askKeyValue (inStep : InStep codec texts owner earlier before first second)
    (request : KeyValue.Request) (owns : OwnsKey codec texts owner request.key) :
    (first.askKeyValue request).1 = (second.askKeyValue request).1 ∧
      InStep codec texts owner earlier before (first.askKeyValue request).2
        (second.askKeyValue request).2 := by
  have agree := @KeyValue.perform_local first.clock _ _ _ (inStep.holds.entry _ owns)
  unfold World.askKeyValue
  rw [← inStep.clock]
  refine World.answer_agree inStep agree ?_
  intro store kept changed
  exact ⟨rfl, inStep.tokenIds, inStep.drawn, ⟨inStep.holds.session,
    fun key owns => changed.get?_eq (inStep.holds.entry key owns)⟩, inStep.events⟩

theorem InStep.askSessions (inStep : InStep codec texts owner earlier before first second)
    (request : Sessions.Request) (own : request.key = owner) :
    (first.askSessions request).1 = (second.askSessions request).1 ∧
      InStep codec texts owner earlier before (first.askSessions request).2
        (second.askSessions request).2 := by
  have agree := @Sessions.perform_local first.clock request _ _ (own ▸ inStep.holds.session)
  unfold World.askSessions
  rw [← inStep.clock]
  refine World.answer_agree inStep agree ?_
  intro store kept changed
  exact ⟨rfl, inStep.tokenIds, inStep.drawn,
    ⟨changed.get?_eq inStep.holds.session, inStep.holds.entry⟩, inStep.events⟩

/-- What a call of the identity does, comes to the same in both worlds. -/
theorem InStep.perform (inStep : InStep codec texts owner earlier before first second)
    {action : Action} (own : action.IsOwn codec texts owner) :
    (first.perform action).1 = (second.perform action).1 ∧
      InStep codec texts owner earlier before (first.perform action).2
        (second.perform action).2 := by
  cases action with
  | store call =>
    cases call with
    | count key window => exact inStep.askKeyValue (.count key window) own
    | mark key text lifetime => exact inStep.askKeyValue (.write key text lifetime) own
    | isMarked key => exact inStep.askKeyValue (.isPresent key) own
    | readSession other => exact inStep.askSessions (.read other) own
    | writeSession other value lifetime =>
      exact inStep.askSessions (.write other value lifetime) own
    | deleteSession other => exact inStep.askSessions (.delete other) own
    | replaceSession other expected value lifetime =>
      exact inStep.askSessions (.replace other expected value lifetime) own
    | findUser provider account | saveUser user => exact own.elim
  | askProvider provider code => exact own.elim
  | readClock => exact ⟨congrArg Except.ok inStep.clock, inStep⟩
  | drawTokenId =>
    refine ⟨?_, inStep.clock, inStep.tokenIds, congrArg (· + 1) inStep.drawn,
      ⟨inStep.holds.session, inStep.holds.entry⟩, inStep.events⟩
    rw [World.perform, World.perform, inStep.tokenIds, inStep.drawn]
  | publish event =>
    obtain ⟨published, here, there⟩ := inStep.events
    refine ⟨rfl, inStep.clock, inStep.tokenIds, inStep.drawn,
      ⟨inStep.holds.session, inStep.holds.entry⟩, published ++ [event], ?_, ?_⟩
    · rw [World.perform, here, List.append_assoc]
    · rw [World.perform, there, List.append_assoc]

/-! ### Calls of others -/

theorem holdSame_askKeyValue (request : KeyValue.Request)
    (foreign : ∀ key, OwnsKey codec texts owner key → key ≠ request.key) (world : World) :
    HoldSame codec texts owner world (world.askKeyValue request).2 := by
  unfold World.askKeyValue
  cases performed : KeyValue.perform world.clock request world.keyValue with
  | error fault => exact .refl world
  | ok done =>
    exact ⟨rfl, fun key owns => (KeyValue.get?_perform performed (foreign key owns)).symm⟩

theorem holdSame_askSessions (request : Sessions.Request) (foreign : owner ≠ request.key)
    (world : World) : HoldSame codec texts owner world (world.askSessions request).2 := by
  unfold World.askSessions
  cases performed : Sessions.perform world.clock request world.sessions with
  | error fault => exact .refl world
  | ok done => exact ⟨(Sessions.get?_perform performed foreign).symm, fun _ _ => rfl⟩

/-- What a call of another identity does, leaves everything as the identity meets it. -/
theorem holdSame_perform (apart : HashesApart texts) (differs : owner ≠ other) {action : Action}
    (foreign : action.IsOwn codec texts other) (world : World) :
    HoldSame codec texts owner world (world.perform action).2 := by
  have elsewhere {touched : String} (owned : OwnsKey codec texts other touched) :
      ∀ key, OwnsKey codec texts owner key → key ≠ touched := by
    rintro key owns rfl
    exact differs (owns.eq_of_apart owned apart)
  cases action with
  | store call =>
    cases call with
    | count key window => exact holdSame_askKeyValue (.count key window) (elsewhere foreign) world
    | mark key text lifetime =>
      exact holdSame_askKeyValue (.write key text lifetime) (elsewhere foreign) world
    | isMarked key => exact holdSame_askKeyValue (.isPresent key) (elsewhere foreign) world
    | readSession third =>
      exact holdSame_askSessions (.read third) (fun same => differs (same.trans foreign)) world
    | writeSession third value lifetime =>
      exact holdSame_askSessions (.write third value lifetime)
        (fun same => differs (same.trans foreign)) world
    | deleteSession third =>
      exact holdSame_askSessions (.delete third) (fun same => differs (same.trans foreign)) world
    | replaceSession third expected value lifetime =>
      exact holdSame_askSessions (.replace third expected value lifetime)
        (fun same => differs (same.trans foreign)) world
    | findUser provider account | saveUser user => exact foreign.elim
  | askProvider provider code => exact foreign.elim
  | readClock | drawTokenId | publish event => exact ⟨rfl, fun _ _ => rfl⟩

end Meets

/-! ## Visits -/

/-- A call that is made on behalf of an identity. -/
structure Visit where
  owner : UserId
  call : Call
  /-- The instants at which the call does one thing after another. -/
  instants : Nat → Instant
  /-- The identifiers in the order in which the call draws them. -/
  tokenIds : Nat → String

/-- What comes of a visit: the outcome of its call, and what this publishes. -/
structure Report where
  visit : Visit
  outcome : Except CalendarEnd (Except Failure visit.call.Answer)
  published : List Audit.Event

/-- Carries out an action in a world at the next of some instants, and counts it. -/
def World.performAt (instants : Nat → Instant) : Handler (World × Nat)
  | action, (world, count) =>
      let done := World.perform action { world with clock := instants count }
      (done.1, done.2, count + 1)

namespace Visit

/-- The world as a visit finds it. -/
def enter (visit : Visit) (world : World) : World :=
  { world with clock := visit.instants 0, tokenIds := visit.tokenIds, drawn := 0 }

/-- What the call of a visit comes to, with the world after it. -/
def run (service : Service) (visit : Visit) (world : World) :
    Except CalendarEnd (Except Failure visit.call.Answer) × World :=
  let done := Program.run (World.performAt visit.instants) (visit.call.operation service)
    (visit.enter world, 0)
  (done.1, done.2.1)

/-- The report of a visit to a world. -/
def report (service : Service) (visit : Visit) (world : World) : Report where
  visit := visit
  outcome := (visit.run service world).1
  published := (visit.run service world).2.events.drop world.events.length

end Visit

/-- The reports of visits one after another. -/
def reports (service : Service) : List Visit → World → List Report
  | [], _ => []
  | visit :: visits, world =>
      visit.report service world :: reports service visits (visit.run service world).2

section Visits

variable {service : Service} {texts : List String} {owner : UserId} {first second world : World}
  {visit : Visit}

/-- A visit of an identity to worlds that hold the same for it comes to the same, and leaves worlds
that do. -/
theorem Visit.report_eq (same : HoldSame service.codec texts visit.owner first second)
    (belongs : visit.call.BelongsTo service visit.owner)
    (involved : ∀ text ∈ visit.call.texts, text ∈ texts) :
    visit.report service first = visit.report service second ∧
      HoldSame service.codec texts visit.owner (visit.run service first).2
        (visit.run service second).2 := by
  let Related (here there : World × Nat) : Prop :=
    here.2 = there.2 ∧
      InStep service.codec texts visit.owner first.events second.events here.1 there.1
  have entered : Related (visit.enter first, 0) (visit.enter second, 0) :=
    ⟨rfl, rfl, rfl, rfl, ⟨same.session, same.entry⟩, [], (List.append_nil _).symm,
      (List.append_nil _).symm⟩
  have agree : ∀ action here there, Action.IsOwn service.codec texts visit.owner action →
      Related here there →
        (World.performAt visit.instants action here).1 =
            (World.performAt visit.instants action there).1 ∧
          Related (World.performAt visit.instants action here).2
            (World.performAt visit.instants action there).2 := by
    rintro action ⟨here, count⟩ ⟨there, _⟩ own ⟨rfl, inStep⟩
    obtain ⟨result, after⟩ := (inStep.setClock (visit.instants count)).perform own
    exact ⟨result, rfl, after⟩
  obtain ⟨outcome, -, after⟩ := Program.run_agree agree (Call.only_isOwn belongs involved) entered
  obtain ⟨published, here, there⟩ := after.events
  refine ⟨?_, after.holds⟩
  have outcomes : (visit.run service first).1 = (visit.run service second).1 := outcome
  have firstEvents : (visit.run service first).2.events = first.events ++ published := here
  have secondEvents : (visit.run service second).2.events = second.events ++ published := there
  rw [report, report, outcomes, firstEvents, secondEvents, List.drop_left, List.drop_left]

/-- A visit of another identity leaves everything as the identity meets it. -/
theorem Visit.holdSame_run (apart : HashesApart texts) (differs : visit.owner ≠ owner)
    (belongs : visit.call.BelongsTo service visit.owner)
    (involved : ∀ text ∈ visit.call.texts, text ∈ texts) (world : World) :
    HoldSame service.codec texts owner world (visit.run service world).2 := by
  have kept : HoldSame service.codec texts owner (visit.enter world)
      (visit.run service world).2 := by
    refine Program.run_related
      (fun before after : World × Nat => HoldSame service.codec texts owner before.1 after.1)
      (fun _ => .refl _) (fun _ _ _ here there => here.trans there) ?_
      (Call.only_isOwn belongs involved) (visit.enter world, 0)
    rintro action ⟨before, count⟩ foreign
    have changed := holdSame_perform apart differs.symm foreign
      { before with clock := visit.instants count }
    exact ⟨changed.session, changed.entry⟩
  exact ⟨kept.session, kept.entry⟩

/-- In worlds that hold the same for an identity, its reports are the same without the visits of
others. -/
theorem HoldSame.filter_reports (apart : HashesApart texts) (visits : List Visit)
    (belongs : ∀ visit ∈ visits, visit.call.BelongsTo service visit.owner)
    (involved : ∀ visit ∈ visits, ∀ text ∈ visit.call.texts, text ∈ texts)
    (same : HoldSame service.codec texts owner first second) :
    (reports service visits first).filter (fun report => report.visit.owner = owner) =
      reports service (visits.filter fun visit => visit.owner = owner) second := by
  induction visits generalizing first second with
  | nil => rfl
  | cons visit visits ih =>
    obtain ⟨owned, belongs⟩ := List.forall_mem_cons.1 belongs
    obtain ⟨textsHere, involved⟩ := List.forall_mem_cons.1 involved
    simp only [reports, List.filter_cons, Visit.report, decide_eq_true_eq]
    by_cases own : visit.owner = owner
    · subst own
      obtain ⟨told, after⟩ := Visit.report_eq same owned textsHere
      rw [if_pos rfl, if_pos rfl, reports, ih belongs involved after]
      exact congrArg (· :: _) told
    · have left := Visit.holdSame_run apart own owned textsHere first
      rw [if_neg own, if_neg own]
      exact ih belongs involved (left.symm.trans same)

/-- **Identities do not interfere.**  Leaving out all visits of others leaves what every visit of an
identity comes to, and what it publishes. -/
theorem reports_filter (service : Service) (visits : List Visit) (world : World) (owner : UserId)
    (belongs : ∀ visit ∈ visits, visit.call.BelongsTo service visit.owner)
    (apart : HashesApart (visits.flatMap fun visit => visit.call.texts)) :
    (reports service visits world).filter (fun report => report.visit.owner = owner) =
      reports service (visits.filter fun visit => visit.owner = owner) world :=
  HoldSame.filter_reports apart visits belongs
    (fun visit member _ involved => List.mem_flatMap.2 ⟨visit, member, involved⟩) (.refl world)

end Visits

namespace Sample

/-- An identity whose address spells the key under which the logins of another are counted. -/
def lookalike : UserId := ⟨limitKey .login identity, .google⟩

/-- A visit at the instant of the small world, with the identifiers of that world. -/
def visitOf (owner : UserId) (call : Call) : Visit :=
  ⟨owner, call, fun _ => world.clock, world.tokenIds⟩

def signIn (owner : UserId) : Visit := visitOf owner (.login nobody owner)

/-- A logout that revokes the credential from the first login. -/
def signOut : Visit := visitOf identity (.logout somebody (some pair.accessToken))

/-- A check of the credential from the first login. -/
def check : Visit := visitOf identity (.authorize nobody pair.accessToken)

theorem userId_of_carries_accessToken :
    ∀ claims, service.codec.Carries pair.accessToken claims → claims.userId = identity := by
  intro claims carries
  rw [carries.unique carries_accessToken]
  rfl

end Sample

/-- A visitor whose address spells a key of another makes no difference to the other. -/
theorem reports_filter_lookalike :
    (reports Sample.service [Sample.signIn Sample.identity, Sample.signIn Sample.lookalike,
        Sample.signOut, Sample.signIn Sample.lookalike, Sample.check] Sample.world).filter
      (fun report => report.visit.owner = Sample.identity) =
    reports Sample.service [Sample.signIn Sample.identity, Sample.signOut, Sample.check]
      Sample.world := by
  refine reports_filter Sample.service _ Sample.world Sample.identity ?_ ?_
  · simp only [List.forall_mem_cons]
    refine ⟨rfl, rfl, ⟨?_, ?_⟩, rfl, ?_, List.forall_mem_nil _⟩
    · intro actor acting
      exact (Option.some.inj acting).symm
    · intro text presented
      rw [← Option.some.inj presented]
      exact Sample.userId_of_carries_accessToken
    · exact Sample.userId_of_carries_accessToken
  · intro first firstMember second secondMember _
    obtain rfl : first = Sample.pair.accessToken := by
      simpa [Sample.signIn, Sample.signOut, Sample.check, Sample.visitOf, Call.texts]
        using firstMember
    obtain rfl : second = Sample.pair.accessToken := by
      simpa [Sample.signIn, Sample.signOut, Sample.check, Sample.visitOf, Call.texts]
        using secondMember
    rfl

end SignOn.Engine
