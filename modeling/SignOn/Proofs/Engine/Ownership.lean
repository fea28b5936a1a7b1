import SignOn.Proofs.Engine.Access

/-!
# What belongs to an identity

All identities share one store of counters and marks, under keys that are put together from texts.
A key belongs to an identity if it is that of one of its windows, or of the mark of a credential
with its claims (`OwnsKey`).  No key belongs to two identities, whatever their addresses are, unless
two credentials have one hash (`OwnsKey.eq_of_apart`).

A call belongs to the identity that it logs in or out, and which is named by the credential that it
presents (`Call.BelongsTo`).  It touches nothing but what belongs to that identity
(`Call.only_isOwn`).
-/

namespace SignOn.Engine

set_option autoImplicit false

open Operation Service
open Settings (LimitedOperation)

/-! ## Keys -/

/-- A text tells where a first part without a character ends that follows it. -/
theorem eq_of_append_cons {mark : Char} {first second rest other : List Char}
    (same : first ++ mark :: rest = second ++ mark :: other) (here : mark ∉ first)
    (there : mark ∉ second) : first = second ∧ rest = other := by
  induction first generalizing second with
  | nil =>
    cases second with
    | nil => exact ⟨rfl, (List.cons.inj same).2⟩
    | cons character _ => exact absurd (List.cons.inj same).1 (List.ne_of_not_mem_cons there)
  | cons character first ih =>
    cases second with
    | nil => exact absurd (List.cons.inj same).1.symm (List.ne_of_not_mem_cons here)
    | cons otherCharacter second =>
      obtain ⟨rfl, further⟩ := List.cons.inj same
      obtain ⟨rfl, rfl⟩ := ih further (List.not_mem_of_not_mem_cons here)
        (List.not_mem_of_not_mem_cons there)
      exact ⟨rfl, rfl⟩

/-- The key of a window names the operation and the identity that the window is for. -/
theorem eq_of_limitKey {operation other : LimitedOperation} {identity owner : UserId}
    (same : limitKey operation identity = limitKey other owner) :
    operation = other ∧ identity = owner := by
  have named : Function.Injective LimitedOperation.name := by
    intro operation other
    cases operation <;> cases other <;> decide
  have unmarked (operation : LimitedOperation) : ':' ∉ operation.name.toList := by
    cases operation <;> decide
  have plain (provider : Provider) : ':' ∉ provider.name.toList := by
    cases provider <;> decide
  have written (operation : LimitedOperation) (identity : UserId) :
      (limitKey operation identity).toList = operation.name.toList ++
        ':' :: (identity.provider.name.toList ++ ':' :: identity.email.toList) := by
    simp [limitKey, UserId.key, String.toList_append]
  have characters := congrArg String.toList same
  rw [written, written] at characters
  obtain ⟨operations, keys⟩ := eq_of_append_cons characters (unmarked operation) (unmarked other)
  obtain ⟨names, emails⟩ := eq_of_append_cons keys (plain _) (plain _)
  have providers : some identity.provider = some owner.provider := by
    rw [← Provider.ofName?_name, String.toList_injective names, Provider.ofName?_name]
  refine ⟨named (String.toList_injective operations), ?_⟩
  obtain ⟨email, provider⟩ := identity
  obtain ⟨otherEmail, otherProvider⟩ := owner
  rw [UserId.mk.injEq]
  exact ⟨String.toList_injective emails, Option.some.inj providers⟩

/-- No two texts, without the blanks around them, have one hash. -/
def HashesApart (texts : List String) : Prop :=
  ∀ first ∈ texts, ∀ second ∈ texts,
    Hash.sha256 (Text.utf8 (Text.trim first)) = Hash.sha256 (Text.utf8 (Text.trim second)) →
      Text.trim first = Text.trim second

/-- The key is that of a window of an identity, or of the mark of a text, among some, that carries
claims of the identity. -/
def OwnsKey (codec : Codec) (texts : List String) (owner : UserId) (key : String) : Prop :=
  (∃ operation, key = windowKeyStart ++ limitKey operation owner) ∨
    ∃ text ∈ texts, ∃ claims, codec.Carries text claims ∧ claims.userId = owner ∧
      key = markKey text

section Keys

variable {codec : Codec} {texts : List String} {owner other : UserId} {key : String}

/-- A key belongs to one identity at most. -/
theorem OwnsKey.eq_of_apart (here : OwnsKey codec texts owner key)
    (there : OwnsKey codec texts other key) (apart : HashesApart texts) : owner = other := by
  rcases here with ⟨operation, rfl⟩ | ⟨text, involved, claims, carries, rfl, rfl⟩
  · rcases there with ⟨limited, same⟩ | ⟨text, _, _, _, _, same⟩
    · exact (eq_of_limitKey ((String.append_right_inj windowKeyStart).1 same)).2
    · exact absurd same (windowKeyStart_ne_markKey _ _)
  · rcases there with ⟨limited, same⟩ | ⟨second, alsoInvolved, others, carriesToo, rfl, same⟩
    · exact absurd same.symm (windowKeyStart_ne_markKey _ _)
    · have trimmed := apart text involved second alsoInvolved (sha256_of_markKey same)
      rw [carries.unique (Codec.carries_of_trim_eq trimmed.symm carriesToo)]

end Keys

/-! ## Actions and calls -/

/-- The action touches nothing but what belongs to an identity. -/
def Action.IsOwn (codec : Codec) (texts : List String) (owner : UserId) : Action → Prop
  | .store (.count key _) | .store (.mark key _ _) | .store (.isMarked key) =>
      OwnsKey codec texts owner key
  | .store (.readSession other) | .store (.writeSession other _ _)
  | .store (.deleteSession other) | .store (.replaceSession other _ _ _) => other = owner
  | .store (.findUser _ _) | .store (.saveUser _) | .askProvider _ _ => False
  | .readClock | .drawTokenId | .publish _ => True

namespace Call

/-- The texts whose marks a call may ask for or put. -/
def texts : Call → List String
  | .logout _ (some text) => [text]
  | .authorize _ text => [text]
  | _ => []

/-- The call logs in or out no other identity than the given one, and presents no credential with the
claims of another.  A login through a provider belongs to nobody, as its identity is only known from
the provider's answer. -/
def BelongsTo (service : Service) (owner : UserId) : Call → Prop
  | .login _ identity => identity = owner
  | .providerLogin _ _ => False
  | .reissue _ presented =>
      ∀ claims, service.codec.Carries presented claims → claims.userId = owner
  | .logout context token =>
      (∀ actor, context.actor = some actor → actor = owner) ∧
        ∀ text, token = some text →
          ∀ claims, service.codec.Carries text claims → claims.userId = owner
  | .authorize _ token =>
      ∀ claims, service.codec.Carries token claims → claims.userId = owner

variable {service : Service} {owner : UserId} {texts : List String}

theorem recording_isOwn {codec : Codec} : Recording (Action.IsOwn codec texts owner) :=
  ⟨trivial, fun _ => trivial⟩

theorem only_enforce_isOwn {context : Context} {operation : LimitedOperation} :
    (service.enforce context operation owner).Only (Action.IsOwn service.codec texts owner) :=
  only_enforce_of recording_isOwn fun _ => Or.inl ⟨operation, rfl⟩

/-- Revoking a credential puts a mark only where the credential carries claims. -/
theorem only_revoke_isOwn {codec : Codec} {text : String} (involved : text ∈ texts)
    (named : ∀ claims, codec.Carries text claims → claims.userId = owner) :
    (revoke codec text).Only (Action.IsOwn codec texts owner) := by
  apply only_bind (only_act trivial)
  intro now
  apply only_bind_of (only_ofVerdict _) (yields_ofVerdict fun _ left => left)
  intro remaining left
  obtain ⟨claims, carries, _⟩ := Codec.remaining_eq_ok_iff.1 left
  split
  · exact only_pure ()
  · exact only_call (Or.inr ⟨text, involved, claims, carries, named claims carries, rfl⟩)

/-- **A call touches nothing but what belongs to its identity.** -/
theorem only_isOwn {call : Call} (belongs : call.BelongsTo service owner)
    (involved : ∀ text ∈ call.texts, text ∈ texts) :
    (call.operation service).Only (Action.IsOwn service.codec texts owner) := by
  cases call with
  | login context identity =>
    obtain rfl : identity = owner := belongs
    exact only_observe recording_isOwn
      (only_startSession trivial trivial only_enforce_isOwn fun _ => rfl)
  | providerLogin context callback => exact belongs.elim
  | reissue context presented =>
    apply only_bind_of (only_observeFailure recording_isOwn (only_verifyKind trivial))
      (yields_observeFailure (yields_verifyKind service _ .refresh))
    rintro claims ⟨now, verified⟩
    rw [Codec.verifyKind_trim, Codec.verifyKind_eq_ok_iff, Codec.verify_eq_ok_iff] at verified
    have named : claims.userId = owner := belongs claims verified.1.1
    rw [named]
    exact only_observe recording_isOwn
      (only_rotate trivial trivial only_enforce_isOwn rfl fun _ => rfl)
  | logout context token =>
    obtain ⟨acts, named⟩ := belongs
    refine only_observe recording_isOwn (only_endSession ?_ acts ?_)
    · intro actor acting
      rw [acts actor acting]
      exact only_enforce_isOwn
    · rintro text rfl
      exact only_revoke_isOwn (involved text (List.mem_singleton_self text)) (named text rfl)
  | authorize context token =>
    have checks : (service.checkAccess token).Only (Action.IsOwn service.codec texts owner) := by
      apply only_bind_of (only_verifyKind trivial) (yields_verifyKind service token .access)
      rintro claims ⟨now, verified⟩
      rw [Codec.verifyKind_eq_ok_iff, Codec.verify_eq_ok_iff] at verified
      have carries := verified.1.1
      apply only_bind (only_call (Or.inr ⟨token, involved token (List.mem_singleton_self token),
        claims, carries, belongs claims carries, rfl⟩))
      intro revoked
      split
      · exact only_reject _
      · exact only_pure _
    apply only_bind (only_outcome checks)
    intro outcome
    rcases outcome with failure | identity
    · exact only_bind (only_recordFailure recording_isOwn) fun _ => only_ofOutcome _
    · exact only_bind (only_recordOutcome recording_isOwn) fun _ => only_ofOutcome _

end Call

end SignOn.Engine
