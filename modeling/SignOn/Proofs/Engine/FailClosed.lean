import SignOn.Proofs.Engine.SideBySide

/-!
# The service fails closed

Whatever the stores answer, and whether or not they do, a call fails closed (`Call.failsClosed`).
It hands out a pair only if a store has taken the refresh value of that pair, and lets somebody in
only if a store has said that the credential is not revoked (`Call.Covered`).  With a budget that
could not be counted it goes no further (`Budgeted`).  It stops at the first call of a store that
is not answered, except that both halves of a logout are tried.  And the failure of a store is never
turned into a rejection: it is recorded as an error, and its caller is told of an internal one.
-/

namespace SignOn.Engine

set_option autoImplicit false

open Operation

/-! ## Stopping -/

namespace Service

variable {service : Service} {context : Context} {identity : UserId}

theorem stopping_issue {kind : TokenKind} {lifetime : Duration} :
    Stopping (service.issue identity kind lifetime) :=
  stopping_bind (stopping_act id) fun _ => stopping_bind (stopping_act id) fun _ =>
    stopping_ofOutcome _

theorem stopping_issuePair : Stopping (service.issuePair identity) :=
  stopping_bind stopping_issue fun _ => stopping_bind stopping_issue fun _ => stopping_pure _

theorem stopping_verifyKind {raw : String} {kind : TokenKind} :
    Stopping (service.verifyKind raw kind) :=
  stopping_bind (stopping_act id) fun _ => stopping_ofVerdict _

theorem stopping_login : Stopping (service.login context identity) := by
  apply stopping_observe
  apply stopping_bind stopping_enforce
  intro _
  apply stopping_bind stopping_issuePair
  intro pair
  exact stopping_bind (stopping_call _) fun _ => stopping_pure pair

theorem stopping_resolve {callback : Callback} : Stopping (resolve callback) := by
  apply stopping_bind (stopping_ofVerdict _)
  intro profile
  apply stopping_bind (stopping_act id)
  intro now
  apply stopping_bind (stopping_call _)
  intro existing
  apply stopping_bind (stopping_ofVerdict _)
  intro user
  exact stopping_bind (stopping_call _) fun _ => stopping_pure user

theorem stopping_providerLogin {callback : Callback} :
    Stopping (service.providerLogin context callback) := by
  apply stopping_bind (stopping_observeFailure stopping_resolve)
  intro user
  exact stopping_bind stopping_login fun _ => stopping_pure _

theorem stopping_swap {presented : String} : Stopping (service.swap identity presented) := by
  apply stopping_bind stopping_issuePair
  intro pair
  apply stopping_bind (stopping_call _)
  intro replaced
  split
  · exact stopping_pure pair
  · exact stopping_reject _

theorem stopping_rotate {presented : String} :
    Stopping (service.rotate context identity presented) := by
  rw [rotate_eq]
  apply stopping_bind stopping_enforce
  intro _
  apply stopping_bind (stopping_call _)
  intro found
  unfold rotateFrom
  split
  · exact stopping_reject _
  · split
    · exact stopping_swap
    · exact stopping_reject _

theorem stopping_reissue {presented : String} : Stopping (service.reissue context presented) := by
  apply stopping_bind (stopping_observeFailure stopping_verifyKind)
  intro claims
  exact stopping_observe stopping_rotate

theorem stopping_checkAccess {token : String} : Stopping (service.checkAccess token) := by
  apply stopping_bind stopping_verifyKind
  intro claims
  apply stopping_bind (stopping_call _)
  intro revoked
  split
  · exact stopping_reject _
  · exact stopping_pure _

/-- The record of an access check is kept under the identity that it establishes. -/
def accessActor (context : Context) : Except Failure UserId → Option UserId
  | .ok identity => some identity
  | .error _ => context.actor

/-- An access check ends with its record. -/
theorem ends_authorize_at {token : String} {past : List Moment}
    {goal : List Moment → Except Failure UserId → Prop}
    (inside : (service.checkAccess token).Ends (fun past outcome => ∀ now,
      goal (recordAt now .accessCheck (accessActor context outcome) context outcome ++ past)
        outcome) past) :
    (service.authorize context token).Ends goal past := by
  rw [authorize, Ends, meets_bind, meets_outcome]
  refine Ends.mono inside fun past outcome ends => ?_
  cases outcome with
  | ok identity =>
    dsimp only
    rw [meets_bind]
    exact ends_recordOutcome_at ends
  | error failure =>
    dsimp only
    rw [meets_bind]
    exact ends_recordFailure_at failure ends

theorem ends_authorize {token : String} {past : List Moment}
    {goal : List Moment → Except Failure UserId → Prop}
    (inside : (service.checkAccess token).Ends (fun past outcome =>
      ∀ record, Records .accessCheck outcome record → goal (record ++ past) outcome) past) :
    (service.authorize context token).Ends goal past :=
  ends_authorize_at (Ends.mono inside fun _ _ ends _ => ends _ records_recordAt)

theorem stopping_authorize {token : String} : Stopping (service.authorize context token) := by
  intro past all
  refine ends_authorize (Ends.mono (stopping_checkAccess past all) ?_)
  intro past outcome stops record records
  exact stops.records records.areRecords

end Service

/-! ## What covers a success -/

namespace Service

variable (service : Service) (past : List Moment)

/-- A store has taken a value as the refresh value of an identity, for the lifetime of such
values. -/
def HasStored (identity : UserId) (value : String) : Prop :=
  .answered (.writeSession identity value service.codec.refreshLifetime) () ∈ past

/-- A store has put a value in the place of one that was verified, for the lifetime of such
values. -/
def HasReplaced (presented value : String) : Prop :=
  ∃ identity, service.HasVerified past identity presented ∧
    .answered (.replaceSession identity presented value service.codec.refreshLifetime) true ∈ past

/-- A credential was verified as one of an identity, and a store has said that it is not
revoked. -/
def HasChecked (token : String) (identity : UserId) : Prop :=
  ∃ now claims, .clock now ∈ past ∧ service.codec.verifyKind now token .access = .ok claims ∧
    claims.userId = identity ∧ .answered (.isMarked (markKey token)) false ∈ past

end Service

/-- What a store has said where a call succeeds with an answer.  What a logout has tried is told by
how it ends. -/
def Call.Covered (service : Service) : (call : Call) → List Moment → call.Answer → Prop
  | .login _ identity, past, pair => service.HasStored past identity pair.refreshToken
  | .providerLogin _ _, past, answer => service.HasStored past answer.1.id answer.2.refreshToken
  | .reissue _ presented, past, pair =>
      service.HasReplaced past (Text.trim presented) pair.refreshToken
  | .logout _ _, _, _ => True
  | .authorize _ token, past, identity => service.HasChecked past token identity

namespace Service

variable {service : Service} {context : Context} {identity : UserId} {past : List Moment}

theorem HasReplaced.append {presented value : String}
    (replaced : service.HasReplaced past presented value) (more : List Moment) :
    service.HasReplaced (more ++ past) presented value := by
  obtain ⟨identity, verified, member⟩ := replaced
  exact ⟨identity, verified.append more, List.mem_append_right more member⟩

theorem HasChecked.append {token : String} (checked : service.HasChecked past token identity)
    (more : List Moment) : service.HasChecked (more ++ past) token identity := by
  obtain ⟨now, claims, read, verified, named, member⟩ := checked
  exact ⟨now, claims, List.mem_append_right more read, verified, named,
    List.mem_append_right more member⟩

theorem covered_login : (service.login context identity).Assures
    (fun past pair => service.HasStored past identity pair.refreshToken) past := by
  refine assures_observe (fun record _ _ stored => List.mem_append_right record stored) ?_
  apply assures_bind
  intro counting _
  apply assures_bind
  intro issuing pair
  apply assures_call
  rintro _ _ ⟨rfl⟩
  exact List.mem_cons_self

theorem covered_providerLogin {callback : Callback} :
    (service.providerLogin context callback).Assures
      (fun past answer => service.HasStored past answer.1.id answer.2.refreshToken) past := by
  apply assures_bind
  intro resolving user
  rw [Assures, Ends, meets_bind]
  refine Ends.mono covered_login fun past outcome stored => ?_
  cases outcome with
  | error failure =>
    intro answer succeeded
    cases succeeded
  | ok pair =>
    rintro _ ⟨rfl⟩
    exact stored pair rfl

theorem covered_swap {presented : String} (verified : service.HasVerified past identity presented) :
    (service.swap identity presented).Assures
      (fun past pair => service.HasReplaced past presented pair.refreshToken) past := by
  apply assures_bind
  intro issuing pair
  apply assures_call
  intro replaced
  cases replaced with
  | false => exact nofun
  | true =>
    rintro _ ⟨rfl⟩
    exact ⟨identity, (verified.append issuing).append [_], List.mem_cons_self⟩

theorem covered_rotate {presented : String} (verified : service.HasVerified past identity presented) :
    (service.rotate context identity presented).Assures
      (fun past pair => service.HasReplaced past presented pair.refreshToken) past := by
  rw [rotate_eq]
  apply assures_bind
  intro counting _
  apply assures_call
  intro found
  have verified := (verified.append counting).append [.answered (.readSession identity) found]
  unfold rotateFrom
  split
  · exact nofun
  · split
    · exact covered_swap verified
    · exact nofun

theorem covered_reissue {presented : String} :
    (service.reissue context presented).Assures
      (fun past pair => service.HasReplaced past (Text.trim presented) pair.refreshToken) past := by
  apply assures_observeFailure_bind
  apply assures_verdict
  intro now claims accepted
  refine assures_observe (fun record _ _ replaced => replaced.append record) ?_
  exact covered_rotate ⟨now, claims, List.mem_cons_self, accepted, rfl⟩

theorem covered_checkAccess {token : String} :
    (service.checkAccess token).Assures
      (fun past identity => service.HasChecked past token identity) past := by
  apply assures_verdict
  intro now claims accepted
  apply assures_call
  intro revoked
  cases revoked with
  | true => exact nofun
  | false =>
    rintro _ ⟨rfl⟩
    exact ⟨now, claims, List.mem_cons_of_mem _ List.mem_cons_self, accepted, rfl,
      List.mem_cons_self⟩

theorem covered_authorize {token : String} :
    (service.authorize context token).Assures
      (fun past identity => service.HasChecked past token identity) past := by
  refine ends_authorize (Ends.mono covered_checkAccess ?_)
  intro past outcome checked record _ identity succeeded
  exact (checked identity succeeded).append record

end Service

/-! ## Budgets that could not be counted -/

/-- The action counts a call. -/
def Action.CountsCall : Action → Prop
  | .store (.count _ _) => True
  | _ => False

/-- The action is a step about sessions, revocations or the issuing of credentials. -/
def Action.IsSensitive : Action → Prop
  | .drawTokenId => True
  | .store (.readSession _) | .store (.writeSession _ _ _) | .store (.deleteSession _)
  | .store (.replaceSession _ _ _ _) => True
  | .store (.mark _ _ _) | .store (.isMarked _) => True
  | _ => False

/-- Where a call could not be counted, no sensitive step was taken. -/
def Budgeted (past : List Moment) : Prop :=
  (∃ moment ∈ past, moment.action.CountsCall ∧ moment.failure? ≠ none) →
    ∀ moment ∈ past, ¬ moment.action.IsSensitive

/-- Nothing has been counted and no sensitive step been taken so far. -/
def Untouched (past : List Moment) : Prop :=
  ∀ moment ∈ past, ¬ moment.action.CountsCall ∧ ¬ moment.action.IsSensitive

theorem AreRecords.untouched {moments : List Moment} (records : AreRecords moments) :
    Untouched moments := by
  intro moment member
  rcases records moment member with same | ⟨event, same⟩ <;> rw [same] <;> exact ⟨id, id⟩

theorem Untouched.append {newer older : List Moment} (here : Untouched newer)
    (there : Untouched older) : Untouched (newer ++ older) :=
  List.forall_mem_append.2 ⟨here, there⟩

theorem Untouched.budgeted {past : List Moment} (untouched : Untouched past) : Budgeted past :=
  fun _ moment member => (untouched moment member).2

theorem Budgeted.records {past record : List Moment} (budgeted : Budgeted past)
    (records : AreRecords record) : Budgeted (record ++ past) := by
  rintro ⟨moment, member, counts, failed⟩
  have earlier : moment ∈ past := by
    rcases List.mem_append.1 member with newer | older
    · exact absurd counts (records.untouched moment newer).1
    · exact older
  refine List.forall_mem_append.2 ⟨fun other newer => (records.untouched other newer).2, ?_⟩
  exact budgeted ⟨moment, earlier, counts, failed⟩

section Budget

variable {limits : Settings.RateLimits} {operation : Settings.LimitedOperation}
  {identity : UserId} {counting past : List Moment} {outcome : Except Failure Unit}

theorem Counts.not_isSensitive (counts : Counts limits operation identity counting outcome) :
    ∀ moment ∈ counting, ¬ moment.action.IsSensitive := by
  cases counts with
  | unlimited free => exact List.forall_mem_nil _
  | within _ _ | beyond _ _ | uncounted _ _ => exact List.forall_mem_singleton.2 id

/-- Where a limit lets a call go on, no count of it has failed. -/
theorem Counts.allAnswered (counts : Counts limits operation identity counting (.ok ())) :
    AllAnswered counting := by
  intro moment member
  by_contra failed
  obtain ⟨failure, failed⟩ := Option.ne_none_iff_exists'.1 failed
  cases counts.outcome_eq member failed

variable {service : Service} {context : Context} {α : Type} {follow : Unit → Operation α}

/-- What enforces a limit first, and then counts nothing, keeps to its budget. -/
theorem budgeted_enforce_bind (untouched : Untouched past)
    (rest : (follow ()).Only fun action => ¬ action.CountsCall) :
    (service.enforce context operation identity >>= follow).Ends
      (fun past _ => Budgeted past) past := by
  rw [Ends, meets_bind]
  refine Ends.mono ends_enforce ?_
  rintro _ outcome ⟨records, counting, areRecords, counts, rfl⟩
  cases outcome with
  | error failure =>
    intro _
    refine List.forall_mem_append.2 ⟨fun moment member => (areRecords.untouched moment member).2, ?_⟩
    exact List.forall_mem_append.2
      ⟨counts.not_isSensitive, fun moment member => (untouched moment member).2⟩
  | ok _ =>
    refine Ends.mono (rest.ends _) ?_
    rintro _ outcome ⟨more, rfl, uncounting⟩ ⟨moment, member, isCount, failed⟩
    simp only [List.mem_append] at member
    rcases member with further | record | counted | before
    · exact absurd isCount (uncounting moment further)
    · exact absurd isCount (areRecords.untouched moment record).1
    · exact absurd (counts.allAnswered moment counted) failed
    · exact absurd isCount (untouched moment before).1

end Budget

namespace Service

variable {service : Service} {context : Context} {identity : UserId} {past : List Moment}

theorem budgeted_login (untouched : Untouched past) :
    (service.login context identity).Ends (fun past _ => Budgeted past) past := by
  refine ends_observe (Ends.mono (budgeted_enforce_bind untouched ?_)
    fun past outcome budgeted record records => budgeted.records records.areRecords)
  apply only_bind (only_issuePair id id)
  intro pair
  exact only_bind (only_call id) fun _ => only_pure pair

theorem budgeted_providerLogin {callback : Callback} :
    (service.providerLogin context callback).Ends (fun past _ => Budgeted past) [] := by
  rw [providerLogin, Ends, meets_bind]
  have only : (resolve callback).Only fun action =>
      ¬ action.CountsCall ∧ ¬ action.IsSensitive := by
    apply only_bind (only_ofVerdict _)
    intro profile
    apply only_bind (only_act ⟨id, id⟩)
    intro now
    apply only_bind (only_call ⟨id, id⟩)
    intro existing
    apply only_bind (only_ofVerdict _)
    intro user
    exact only_bind (only_call ⟨id, id⟩) fun _ => only_pure user
  refine ends_observeFailure (Ends.mono (only.ends []) ?_)
  rintro _ outcome ⟨resolving, rfl, untouched⟩
  rw [List.append_nil]
  refine ⟨?_, ?_⟩
  · rintro user rfl
    dsimp only
    rw [meets_bind]
    refine Ends.mono (budgeted_login untouched) fun past outcome budgeted => ?_
    cases outcome <;> exact budgeted
  · rintro failure rfl record records
    exact (Untouched.budgeted untouched).records records.areRecords

theorem budgeted_rotate {presented : String} (untouched : Untouched past) :
    (service.rotate context identity presented).Ends (fun past _ => Budgeted past) past := by
  rw [rotate_eq]
  apply budgeted_enforce_bind untouched
  exact only_bind (only_call id) (only_rotateFrom id id fun _ => id)

theorem budgeted_reissue {presented : String} :
    (service.reissue context presented).Ends (fun past _ => Budgeted past) [] := by
  rw [reissue, Ends, meets_bind]
  have only : (service.verifyKind (Text.trim presented) .refresh).Only fun action =>
      ¬ action.CountsCall ∧ ¬ action.IsSensitive :=
    only_bind (only_act ⟨id, id⟩) fun _ => only_ofVerdict _
  refine ends_observeFailure (Ends.mono (only.ends []) ?_)
  rintro _ outcome ⟨verifying, rfl, untouched⟩
  rw [List.append_nil]
  refine ⟨?_, ?_⟩
  · rintro claims rfl
    refine ends_observe (Ends.mono (budgeted_rotate untouched) ?_)
    intro past outcome budgeted record records
    exact budgeted.records records.areRecords
  · rintro failure rfl record records
    exact (Untouched.budgeted untouched).records records.areRecords

/-- An access check counts nothing at all. -/
theorem budgeted_authorize {token : String} :
    (service.authorize context token).Ends (fun past _ => Budgeted past) [] := by
  have only : (service.checkAccess token).Only fun action => ¬ action.CountsCall := by
    apply only_bind (only_bind (only_act id) fun _ => only_ofVerdict _)
    intro claims
    apply only_bind (only_call id)
    intro revoked
    split
    · exact only_reject _
    · exact only_pure _
  refine ends_authorize (Ends.mono (only.ends []) ?_)
  rintro _ outcome ⟨checking, rfl, uncounting⟩ record records
  rw [List.append_nil]
  refine Budgeted.records ?_ records.areRecords
  rintro ⟨moment, member, counts, _⟩
  exact absurd counts (uncounting moment member)

end Service

/-! ## How logouts end -/

section Logouts

variable {service : Service} {codec : Codec} {context : Context} {token : Option String}
  {past revoking : List Moment} {outcome : Except Failure Unit} {moment : Moment}
  {failure : Failure}

theorem StoreCall.outcome_of_failure? {call : StoreCall} {reply : Reply call.Answer}
    (failed : Moment.failure? ⟨.store call, reply⟩ = some failure) :
    call.outcome reply = .error failure := by
  rcases call.outcome_cases reply with ⟨_, _, _, answered⟩ | ⟨other, outcome, same⟩
  · rw [answered] at failed
    cases failed
  · rw [outcome, Option.some.inj (same.symm.trans failed)]

theorem Revokes.outcome_eq (revokes : Revokes codec token revoking outcome)
    (member : moment ∈ revoking) (failed : moment.failure? = some failure) :
    outcome = .error failure := by
  cases revokes with
  | nothing => cases member
  | unreadable read =>
    obtain rfl := List.mem_singleton.1 member
    cases failed
  | spent read ended =>
    obtain rfl := List.mem_singleton.1 member
    cases failed
  | marks read live reply =>
    rcases List.mem_cons.1 member with rfl | earlier
    · exact StoreCall.outcome_of_failure? failed
    · obtain rfl := List.mem_singleton.1 earlier
      cases failed

theorem Revokes.uncounting (revokes : Revokes codec token revoking outcome) :
    ∀ moment ∈ revoking, ¬ moment.action.CountsCall := by
  cases revokes with
  | nothing => exact List.forall_mem_nil _
  | unreadable read => exact List.forall_mem_singleton.2 id
  | spent read ended => exact List.forall_mem_singleton.2 id
  | marks read live reply => exact List.forall_mem_cons.2 ⟨id, List.forall_mem_singleton.2 id⟩

/-- Where a store fails a logout, the logout ends in a failure of a store. -/
theorem LogoutEnds.exists_failure (ends : LogoutEnds service context token past outcome)
    (member : moment ∈ past) (failed : moment.failure? = some failure) :
    ∃ other ∈ past, ∃ reported, other.failure? = some reported ∧ outcome = .error reported := by
  have unrecorded {records : List Moment} (areRecords : AreRecords records) : moment ∉ records := by
    intro inside
    rw [areRecords.allAnswered moment inside] at failed
    cases failed
  cases ends with
  | nobody absent areRecords => exact absurd member (unrecorded areRecords)
  | @halted identity records counting halting actor areRecords counts did =>
    refine ⟨moment, member, failure, failed, ?_⟩
    rw [did] at member
    rcases List.mem_append.1 member with record | counted
    · exact absurd record (unrecorded areRecords)
    · exact counts.outcome_eq counted failed
  | @tried identity records counting revoking reply revoked actor areRecords counts revokes did =>
    have inside {other : Moment} (member : other ∈ (⟨.store (.deleteSession identity), reply⟩ ::
        (revoking ++ counting) : List Moment)) : other ∈ past :=
      did.mem_iff.2 (List.mem_append_right records member)
    rcases StoreCall.outcome_cases (.deleteSession identity) reply with
      ⟨_, _, deleted, answered⟩ | ⟨undeleted, deleted, first⟩
    · -- The session was deleted, so the failure is that of the other half.
      refine ⟨moment, member, failure, failed, ?_⟩
      rw [deleted]
      rcases List.mem_append.1 (did.mem_iff.1 member) with record | here
      · exact absurd record (unrecorded areRecords)
      · rcases List.mem_cons.1 here with rfl | here
        · rw [answered] at failed
          cases failed
        · rcases List.mem_append.1 here with revoked | counted
          · exact revokes.outcome_eq revoked failed
          · cases counts.outcome_eq counted failed
    · exact ⟨_, inside List.mem_cons_self, undeleted, first, by rw [deleted]; rfl⟩

theorem LogoutEnds.budgeted (ends : LogoutEnds service context token past outcome) :
    Budgeted past := by
  cases ends with
  | nobody absent areRecords => exact areRecords.untouched.budgeted
  | @halted identity records counting halting actor areRecords counts did =>
    rw [did]
    intro _
    exact List.forall_mem_append.2
      ⟨fun moment member => (areRecords.untouched moment member).2, counts.not_isSensitive⟩
  | @tried identity records counting revoking reply revoked actor areRecords counts revokes did =>
    rintro ⟨moment, member, isCount, failed⟩
    have member := did.mem_iff.1 member
    simp only [List.mem_append, List.mem_cons] at member
    rcases member with record | rfl | revoked | counted
    · exact absurd isCount (areRecords.untouched moment record).1
    · exact isCount.elim
    · exact absurd isCount (revokes.uncounting moment revoked)
    · exact absurd (counts.allAnswered moment counted) failed

theorem Service.ends_logoutAlong (turns : List Bool) :
    (service.logoutAlong turns context token).Ends (LogoutEnds service context token) [] :=
  ends_observe (Ends.mono (ends_endSessionAlong turns)
    fun _ _ ends _ records => ends.records records.areRecords)

end Logouts

/-! ## The last record -/

/-- The outcome of an audited operation is the last thing recorded. -/
def Recorded {α : Type} (kind : Audit.Operation) (past : List Moment) (outcome : Except Failure α) :
    Prop :=
  ∃ record earlier, Records kind outcome record ∧ past = record ++ earlier

section Recorded

variable {α : Type} {kind : Audit.Operation} {service : Service} {context : Context}
  {past : List Moment}

theorem recorded_observe (body : Operation α) :
    (observe kind context body).Ends (Recorded kind) past :=
  ends_observe (Ends.mono (only_of_forall (fun _ => trivial) body past)
    fun past _ _ record records => ⟨record, past, records, rfl⟩)

/-- An outcome is recorded like any other that differs only in the answer of a success. -/
theorem Recorded.map {β : Type} {outcome : Except Failure α} (recorded : Recorded kind past outcome)
    (answer : α → β) : Recorded kind past (outcome.map answer) := by
  obtain ⟨record, earlier, ⟨same, level, message⟩, rfl⟩ := recorded
  refine ⟨_, earlier, ?_, rfl⟩
  cases outcome <;> exact ⟨same, level, message⟩

/-- What is recorded only where it fails, and goes on otherwise, is recorded if its end is. -/
theorem recorded_observeFailure_bind {β : Type} (body : Operation α) {follow : α → Operation β}
    (next : ∀ past value, (follow value).Ends (Recorded kind) past) :
    (observeFailure kind context body >>= follow).Ends (Recorded kind) past := by
  rw [Ends, meets_bind]
  refine ends_observeFailure (Ends.mono (only_of_forall (fun _ => trivial) body past)
    fun past outcome _ => ⟨?_, ?_⟩)
  · rintro value rfl
    exact next past value
  · rintro failure rfl record ⟨same, level, message⟩
    exact ⟨_, past, ⟨same, level, message⟩, rfl⟩

theorem recorded_providerLogin {callback : Callback} :
    (service.providerLogin context callback).Ends (Recorded .login) past := by
  refine recorded_observeFailure_bind _ fun past user => ?_
  rw [Ends, meets_bind]
  refine Ends.mono (recorded_observe _) fun past outcome recorded => ?_
  have mapped := recorded.map fun pair => (user, pair)
  cases outcome <;> exact mapped

theorem recorded_authorize {token : String} :
    (service.authorize context token).Ends (Recorded .accessCheck) past :=
  Service.ends_authorize (Ends.mono (only_of_forall (fun _ => trivial) _ past)
    fun past _ _ record records => ⟨record, past, records, rfl⟩)

end Recorded

/-! ## Failing closed -/

namespace Call

/-- The operation under which a call is audited. -/
def audited : Call → Audit.Operation
  | .login _ _ | .providerLogin _ _ => .login
  | .reissue _ _ => .tokenReissue
  | .logout _ _ => .logout
  | .authorize _ _ => .accessCheck

/-- How a call ends: a logout as logouts end, any other by stopping at the first failure of a
store. -/
def StopsOrTries (service : Service) :
    (call : Call) → List Moment → Except Failure call.Answer → Prop
  | .logout context token, past, outcome => LogoutEnds service context token past outcome
  | _, past, outcome => Stops past outcome

/-- A call that has done some things, latest first, has failed closed with an outcome. -/
structure FailsClosed (service : Service) (call : Call) (past : List Moment)
    (outcome : Except Failure call.Answer) : Prop where
  /-- A success is covered by what a store has said. -/
  covered : ∀ answer, outcome = .ok answer → call.Covered service past answer
  /-- Without a count there is no step about sessions, revocations or credentials. -/
  budgeted : Budgeted past
  /-- Nothing is asked of a store after the first failure of one, halves of a logout apart, and the
  failure is the outcome. -/
  ends : call.StopsOrTries service past outcome
  /-- The failure of a store is no rejection, and says nothing to the caller. -/
  unexpected : ∀ moment ∈ past, moment.failure? ≠ none → ∃ failure, outcome = .error failure ∧
    failure.isExpected = false ∧ failure.publicCode = .internal ∧ levelOf outcome = .error
  /-- The outcome is recorded last, and at its level. -/
  recorded : Recorded call.audited past outcome

theorem exists_unexpected {α : Type} {outcome : Except Failure α} {moment : Moment}
    {failure : Failure} (failed : moment.failure? = some failure) (same : outcome = .error failure) :
    ∃ failure, outcome = .error failure ∧ failure.isExpected = false ∧
      failure.publicCode = .internal ∧ levelOf outcome = .error := by
  obtain ⟨unexpected, internal⟩ := Moment.isExpected_of_failure? failed
  refine ⟨failure, same, unexpected, internal, ?_⟩
  rw [same, levelOf, if_neg (by rw [unexpected]; exact Bool.false_ne_true)]

/-- Where a call stops, the failure of a store is what it comes to. -/
theorem failsClosed_of_stops {service : Service} {call : Call} {past : List Moment}
    {outcome : Except Failure call.Answer} (stops : Stops past outcome)
    (covered : ∀ answer, outcome = .ok answer → call.Covered service past answer)
    (budgeted : Budgeted past) (ends : call.StopsOrTries service past outcome)
    (recorded : Recorded call.audited past outcome) : call.FailsClosed service past outcome := by
  refine ⟨covered, budgeted, ends, fun moment member failed => ?_, recorded⟩
  obtain ⟨failure, failed⟩ := Option.ne_none_iff_exists'.1 failed
  exact exists_unexpected failed (stops.outcome_eq member failed)

theorem allAnswered_nil : AllAnswered [] :=
  List.forall_mem_nil _

/-- **Every call fails closed**, whatever its actions give. -/
theorem failsClosed (service : Service) (turns : List Bool) (call : Call) :
    (call.along service turns).Ends (call.FailsClosed service) [] := by
  cases call with
  | login context identity =>
    refine Ends.mono ((Service.stopping_login [] allAnswered_nil).and (Service.covered_login.and
      ((Service.budgeted_login (List.forall_mem_nil _)).and (recorded_observe _)))) ?_
    rintro past outcome ⟨stops, covered, budgeted, recorded⟩
    exact failsClosed_of_stops stops covered budgeted stops recorded
  | providerLogin context callback =>
    refine Ends.mono ((Service.stopping_providerLogin [] allAnswered_nil).and
      (Service.covered_providerLogin.and
        (Service.budgeted_providerLogin.and recorded_providerLogin))) ?_
    rintro past outcome ⟨stops, covered, budgeted, recorded⟩
    exact failsClosed_of_stops stops covered budgeted stops recorded
  | reissue context presented =>
    refine Ends.mono ((Service.stopping_reissue [] allAnswered_nil).and
      (Service.covered_reissue.and (Service.budgeted_reissue.and
        (recorded_observeFailure_bind _ fun _ _ => recorded_observe _)))) ?_
    rintro past outcome ⟨stops, covered, budgeted, recorded⟩
    exact failsClosed_of_stops stops covered budgeted stops recorded
  | authorize context token =>
    refine Ends.mono ((Service.stopping_authorize [] allAnswered_nil).and
      (Service.covered_authorize.and (Service.budgeted_authorize.and recorded_authorize))) ?_
    rintro past outcome ⟨stops, covered, budgeted, recorded⟩
    exact failsClosed_of_stops stops covered budgeted stops recorded
  | logout context token =>
    refine Ends.mono ((Service.ends_logoutAlong turns).and (recorded_observe _)) ?_
    rintro past outcome ⟨ends, recorded⟩
    refine ⟨fun _ _ => trivial, ends.budgeted, ends, fun moment member failed => ?_, recorded⟩
    obtain ⟨failure, failed⟩ := Option.ne_none_iff_exists'.1 failed
    obtain ⟨other, _, reported, first, same⟩ := ends.exists_failure member failed
    exact exists_unexpected first same

end Call

end SignOn.Engine
