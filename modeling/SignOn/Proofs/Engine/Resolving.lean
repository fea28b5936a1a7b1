import SignOn.Engine.Resolver
import SignOn.Proofs.Engine.Running
import SignOn.Proofs.Store.Accounts

/-!
# Records through later logins

A login at a provider saves at most one record, that of the identity it is resolved to
(`on_resolve`), and removes none, because its account is either that identity's own or nobody's
(`byId_get?_resolve`).  So a stored identity stays stored through any logins.

The record of an identity is refreshed by a login whose account is known, and then it keeps when it
was created and every text that is not sent again.  It is created anew by a login with the address
of the identity and an account that is not known (`Arrival.Renews`), and then it keeps nothing.  As
long as no such login arrives, the record continues (`resolveAll_continues`).
-/

namespace SignOn

set_option autoImplicit false

/-! ## What a payload can say -/

namespace Profile

theorem allBlank_of_present {sent : Option String} {text : String}
    (found : present sent = some text) : Text.allBlank text = false := by
  have kept := (Option.filter_eq_some_iff.1 found).2
  rwa [Bool.not_eq_true'] at kept

/-- The texts that a provider sends about a user are not blank. -/
theorem allBlank_of_ofPayload {provider : Provider} {payload : Json} {profile : Profile}
    {text : String} (parsed : ofPayload provider payload = .ok profile)
    (sent : profile.nickname = some text ∨ profile.verifiedIdentifier = some text) :
    Text.allBlank text = false := by
  cases provider with
  | google =>
    rw [ofPayload, ofGoogle] at parsed
    split at parsed
    · cases parsed
    · split at parsed
      · cases parsed
      · cases parsed
        rcases sent with nickname | identifier
        · exact allBlank_of_present nickname
        · cases identifier
  | kakao =>
    rw [ofPayload, ofKakao] at parsed
    split at parsed
    · cases parsed
    · split at parsed
      · cases parsed
      · cases parsed
        rcases sent with nickname | identifier
        · exact allBlank_of_present nickname
        · exact allBlank_of_present identifier

end Profile

namespace Engine

open Operation Store

/-! ## One login -/

section Login

variable {world : World} {callback : Callback} {id : UserId} {former user : User}

/-- The record that a login is resolved to in a world. -/
def resolvedRecord (callback : Callback) (world : World) : Except Rejection User :=
  match Profile.ofPayload callback.provider callback.payload with
  | .ok profile =>
      recordFor callback profile world.clock
        (world.users.find? callback.provider callback.account)
  | .error reason => .error reason

/-- A login saves the record that it is resolved to, and does nothing else. -/
theorem on_resolve (callback : Callback) (world : World) :
    (resolve callback).on world =
      match resolvedRecord callback world with
      | .ok user => (.ok (.ok user), { world with users := world.users.save user })
      | .error reason => (.ok (.error (.rejected reason)), world) := by
  unfold resolve resolvedRecord
  cases parsed : Profile.ofPayload callback.provider callback.payload with
  | error reason => exact on_bind_error (on_ofVerdict _ world)
  | ok profile =>
    have found : (call (.findUser callback.provider callback.account)).on world = _ :=
      on_call_answered rfl
    rw [on_bind_ok (on_ofVerdict _ world), on_bind_ok (on_readClock world), on_bind_ok found]
    dsimp only
    cases recordFor callback profile world.clock
        (world.users.find? callback.provider callback.account) with
    | error reason => exact on_bind_error (on_ofVerdict _ world)
    | ok user =>
      rw [on_bind_ok (on_ofVerdict _ world), on_bind_ok (on_call_answered rfl), on_pure]

theorem inverse_resolve (inverse : world.users.Inverse) (callback : Callback) :
    ((resolve callback).on world).2.users.Inverse := by
  rw [on_resolve]
  cases resolvedRecord callback world with
  | error reason => exact inverse
  | ok user => exact inverse.save user

/-- The record of a login is that of its account, refreshed, or a new one for an account that is not
known. -/
theorem resolvedRecord_cases (resolved : resolvedRecord callback world = .ok user) :
    ∃ profile, Profile.ofPayload callback.provider callback.payload = .ok profile ∧
      ((∃ former, world.users.find? callback.provider callback.account = some former ∧
          user = former.recordLogin profile.nickname profile.verifiedIdentifier world.clock) ∨
        world.users.find? callback.provider callback.account = none ∧
          ∃ email, profile.email = some email ∧
            user = User.create ⟨email, callback.provider⟩ callback.account profile.nickname
              profile.verifiedIdentifier world.clock) := by
  unfold resolvedRecord at resolved
  split at resolved
  · next profile parsed =>
    refine ⟨profile, parsed, ?_⟩
    cases known : world.users.find? callback.provider callback.account with
    | some former =>
      rw [known] at resolved
      exact Or.inl ⟨former, rfl, (Except.ok.inj resolved).symm⟩
    | none =>
      rw [known, recordFor] at resolved
      split at resolved
      · cases resolved
      · next email present => exact Or.inr ⟨rfl, email, present, (Except.ok.inj resolved).symm⟩
  · cases resolved

/-- The account of the record that a login is resolved to leads to no other identity. -/
theorem id_eq_of_resolvedRecord (inverse : world.users.Inverse)
    (resolved : resolvedRecord callback world = .ok user)
    (leads : world.users.byAccount.get? (Users.accountOf user) = some id) : id = user.id := by
  obtain ⟨profile, _, ⟨former, known, rfl⟩ | ⟨unknown, email, _, rfl⟩⟩ :=
    resolvedRecord_cases resolved
  · have owned := (inverse.record (inverse.find?_eq_some_iff.1 known).1).2
    exact Option.some.inj (leads.symm.trans owned)
  · obtain ⟨owner, held, same⟩ := inverse.account leads
    obtain ⟨rfl, _⟩ := inverse.record held
    cases unknown.symm.trans (inverse.find?_eq_some_iff.2 ⟨held, same⟩)

/-- After a login the identity that it is resolved to has the record of the login, and every other
identity has the record it had. -/
theorem byId_get?_resolve (inverse : world.users.Inverse) (callback : Callback) (id : UserId) :
    ((resolve callback).on world).2.users.byId.get? id =
      match resolvedRecord callback world with
      | .ok user => if id = user.id then some user else world.users.byId.get? id
      | .error _ => world.users.byId.get? id := by
  rw [on_resolve]
  cases resolved : resolvedRecord callback world with
  | error reason => rfl
  | ok user =>
    dsimp only
    rw [inverse.get?_byId_save]
    by_cases same : id = user.id
    · rw [if_pos same, if_pos same]
    · have unowned : world.users.byAccount.get? (Users.accountOf user) ≠ some id :=
        fun leads => same (id_eq_of_resolvedRecord inverse resolved leads)
      rw [if_neg same, if_neg same, if_neg unowned]

end Login

/-! ## Logins one after another -/

/-- A login at a provider that is resolved at an instant. -/
structure Arrival where
  now : Instant
  callback : Callback

namespace Arrival

variable {arrival : Arrival} {id : UserId} {world : World} {former : User}

/-- What the provider sends for a field of the profile. -/
def sent (arrival : Arrival) (field : Profile → Option String) : Option String :=
  (Profile.ofPayload arrival.callback.provider arrival.callback.payload).toOption.bind field

/-- The login is resolved in a world. -/
def resolveIn (arrival : Arrival) (world : World) :
    Except CalendarEnd (Except Failure User) × World :=
  (resolve arrival.callback).on { world with clock := arrival.now }

/-- The login is one of an identity. -/
def SignsIn (arrival : Arrival) (id : UserId) (world : World) : Prop :=
  ∃ user, (arrival.resolveIn world).1 = .ok (.ok user) ∧ user.id = id

/-- The login creates an identity, stored or not, for an account that is not known. -/
def Renews (arrival : Arrival) (id : UserId) (world : World) : Prop :=
  world.users.find? arrival.callback.provider arrival.callback.account = none ∧
    arrival.callback.provider = id.provider ∧ arrival.sent Profile.email = some id.email

/-- What a login makes of the record of a stored identity. -/
inductive Updates (arrival : Arrival) (id : UserId) (world : World) (former : User) : User → Prop
  | unchanged : Updates arrival id world former former
  | refreshed (profile : Profile)
      (parsed : Profile.ofPayload arrival.callback.provider arrival.callback.payload = .ok profile)
      (signsIn : arrival.SignsIn id world) :
      Updates arrival id world former
        (former.recordLogin profile.nickname profile.verifiedIdentifier arrival.now)
  | renewed (current : User) (renews : arrival.Renews id world) :
      Updates arrival id world former current

/-- Every login keeps a stored identity, whose record it leaves, refreshes or creates anew. -/
theorem updates (inverse : world.users.Inverse) (arrival : Arrival)
    (held : world.users.byId.get? id = some former) :
    ∃ current, (arrival.resolveIn world).2.users.byId.get? id = some current ∧
      arrival.Updates id world former current := by
  let start : World := { world with clock := arrival.now }
  have law : (arrival.resolveIn world).2.users.byId.get? id = _ :=
    @byId_get?_resolve start inverse arrival.callback id
  cases resolved : resolvedRecord arrival.callback start with
  | error reason =>
    rw [resolved] at law
    exact ⟨former, law.trans held, .unchanged⟩
  | ok user =>
    rw [resolved] at law
    by_cases same : id = user.id
    · refine ⟨user, law.trans (if_pos same), ?_⟩
      obtain ⟨profile, parsed, ⟨owner, known, refreshed⟩ | ⟨unknown, email, present, created⟩⟩ :=
        resolvedRecord_cases resolved
      · -- the account leads to the identity, so the record found is the one held
        have found := (inverse.find?_eq_some_iff.1 known).1
        have named : owner.id = id := by rw [same, refreshed]; rfl
        obtain rfl : owner = former := Option.some.inj ((named ▸ found).symm.trans held)
        rw [refreshed]
        refine .refreshed profile parsed ⟨user, ?_, same.symm⟩
        rw [resolveIn, on_resolve, resolved]
      · subst created same
        refine .renewed _ ⟨unknown, rfl, ?_⟩
        rw [sent, parsed]
        exact present
    · exact ⟨former, (law.trans (if_neg same)).trans held, .unchanged⟩

end Arrival

/-- The world after some logins, of which the latest comes first, into a store without records. -/
def resolveAll (world : World) : List Arrival → World
  | [] => { world with users := .empty }
  | latest :: past => (latest.resolveIn (resolveAll world past)).2

theorem inverse_resolveAll (world : World) (arrivals : List Arrival) :
    (resolveAll world arrivals).users.Inverse := by
  induction arrivals with
  | nil => exact Users.inverse_empty
  | cons latest past ih =>
    let start : World := { resolveAll world past with clock := latest.now }
    exact @inverse_resolve start ih latest.callback

/-! ## Records that continue -/

section Continues

variable {world : World} {id : UserId} {past since : List Arrival} {latest : Arrival}
  {former current : User}

/-- After the past, one of some logins is a login of an identity for which the provider sends a text
for a field. -/
def HasSent (world : World) (id : UserId) (past since : List Arrival)
    (field : Profile → Option String) (text : String) : Prop :=
  ∃ later login earlier, since = later ++ login :: earlier ∧
    login.SignsIn id (resolveAll world (earlier ++ past)) ∧ login.sent field = some text

/-- After the past, one of some logins creates an identity for an account that is not known. -/
def HasRenewed (world : World) (id : UserId) (past since : List Arrival) : Prop :=
  ∃ later login earlier, since = later ++ login :: earlier ∧
    login.Renews id (resolveAll world (earlier ++ past))

/-- A field has the value it had, or a text, not blank, that a login of the identity has sent. -/
def FieldContinues (world : World) (id : UserId) (past since : List Arrival)
    (field : Profile → Option String) (former current : Option String) : Prop :=
  current = former ∨ ∃ text, current = some text ∧ Text.allBlank text = false ∧
    HasSent world id past since field text

/-- After the past, the record of an identity keeps through some logins when it was created, and
loses no text except to a later one. -/
structure Continues (world : World) (id : UserId) (past since : List Arrival)
    (former current : User) : Prop where
  createdAt : current.createdAt = former.createdAt
  displayName : FieldContinues world id past since Profile.nickname former.displayName
    current.displayName
  verifiedIdentifier : FieldContinues world id past since Profile.verifiedIdentifier
    former.verifiedIdentifier current.verifiedIdentifier

theorem HasSent.cons {field : Profile → Option String} {text : String}
    (sent : HasSent world id past since field text) :
    HasSent world id past (latest :: since) field text := by
  obtain ⟨later, login, earlier, rfl, sends⟩ := sent
  exact ⟨latest :: later, login, earlier, rfl, sends⟩

theorem HasRenewed.cons (renewed : HasRenewed world id past since) :
    HasRenewed world id past (latest :: since) := by
  obtain ⟨later, login, earlier, rfl, renews⟩ := renewed
  exact ⟨latest :: later, login, earlier, rfl, renews⟩

theorem FieldContinues.cons {field : Profile → Option String} {before now : Option String}
    (continues : FieldContinues world id past since field before now) :
    FieldContinues world id past (latest :: since) field before now :=
  continues.imp_right fun ⟨text, holds, present, sent⟩ => ⟨text, holds, present, sent.cons⟩

/-- A text that the latest login sends takes the place of the one before. -/
theorem FieldContinues.or {field : Profile → Option String} {before now : Option String}
    (continues : FieldContinues world id past since field before now)
    (signsIn : latest.SignsIn id (resolveAll world (since ++ past)))
    (present : ∀ text, latest.sent field = some text → Text.allBlank text = false) :
    FieldContinues world id past (latest :: since) field before ((latest.sent field).or now) := by
  cases sent : latest.sent field with
  | none => exact continues.cons
  | some text =>
    exact Or.inr ⟨text, rfl, present text sent, [], latest, since, rfl, signsIn, sent⟩

/-- **A stored identity stays stored**, and unless a login creates it anew for an account that is
not known, its record keeps when it was created, and its name and verified identifier change only to
texts, not blank, that later logins of the identity send. -/
theorem resolveAll_continues (world : World) (id : UserId) (past since : List Arrival)
    (held : (resolveAll world past).users.byId.get? id = some former) :
    ∃ current, (resolveAll world (since ++ past)).users.byId.get? id = some current ∧
      (¬ HasRenewed world id past since → Continues world id past since former current) := by
  induction since with
  | nil => exact ⟨former, held, fun _ => ⟨rfl, Or.inl rfl, Or.inl rfl⟩⟩
  | cons latest since ih =>
    obtain ⟨middle, heldThen, continues⟩ := ih
    obtain ⟨current, heldNow, updates⟩ :=
      latest.updates (inverse_resolveAll world (since ++ past)) heldThen
    refine ⟨current, heldNow, fun unrenewed => ?_⟩
    have continued := continues fun renewed => unrenewed renewed.cons
    cases updates with
    | unchanged =>
      exact ⟨continued.createdAt, continued.displayName.cons, continued.verifiedIdentifier.cons⟩
    | refreshed profile parsed signsIn =>
      have sends (field : Profile → Option String) : latest.sent field = field profile := by
        rw [Arrival.sent, parsed]
        rfl
      refine ⟨continued.createdAt, ?_, ?_⟩
      · have field := continued.displayName.or signsIn fun text sent =>
          Profile.allBlank_of_ofPayload parsed (Or.inl ((sends _).symm.trans sent))
        rwa [sends] at field
      · have field := continued.verifiedIdentifier.or signsIn fun text sent =>
          Profile.allBlank_of_ofPayload parsed (Or.inr ((sends _).symm.trans sent))
        rwa [sends] at field
    | renewed current renews => exact absurd ⟨[], latest, since, rfl, renews⟩ unrenewed

end Continues

/-! ## An identity with two accounts -/

namespace Sample

def site : World where
  clock := .ofSeconds 0
  tokenIds := fun _ => ""
  providerAnswer := fun provider _ => .error (.notConfigured provider)

def member : UserId := ⟨"k@x.com", .kakao⟩

/-- What the provider says about an account of the member. -/
def payload (account : Int) (properties details : List (String × Json)) : Json :=
  .object [("id", .number (.integer account)), ("properties", .object properties),
    ("kakao_account", .object (("email", .string "k@x.com") :: details))]

/-- The first login of the member, with a name and a verified identifier. -/
def firstLogin : Arrival where
  now := .ofSeconds 1780300800
  callback := ⟨.kakao, "1", payload 1 [("nickname", .string "kim")] [("ci", .string "ci-1")]⟩

/-- A login an hour later that says no more than the account and the address. -/
def bareLogin (account : Int) : Arrival where
  now := .ofSeconds 1780304400
  callback := ⟨.kakao, String.ofList (Text.signedDigits account), payload account [] []⟩

/-- The record of the first login. -/
def firstRecord : User :=
  User.create member "1" (some "kim") (some "ci-1") firstLogin.now

end Sample

/-- A second login with the same account, which sends neither, keeps the name and the identifier. -/
theorem resolveAll_continues_sameAccount :
    ∃ current, (resolveAll Sample.site [Sample.bareLogin 1, Sample.firstLogin]).users.byId.get?
        Sample.member = some current ∧
      Continues Sample.site Sample.member [Sample.firstLogin] [Sample.bareLogin 1]
        Sample.firstRecord current := by
  have held : (resolveAll Sample.site [Sample.firstLogin]).users.byId.get? Sample.member =
      some Sample.firstRecord := rfl
  obtain ⟨current, heldNow, continues⟩ :=
    resolveAll_continues Sample.site Sample.member [Sample.firstLogin] [Sample.bareLogin 1] held
  refine ⟨current, heldNow, continues ?_⟩
  rintro ⟨later, login, earlier, split, unknown, _⟩
  obtain ⟨rfl, rfl, rfl⟩ : later = [] ∧ login = Sample.bareLogin 1 ∧ earlier = [] := by
    cases later with
    | nil =>
      obtain ⟨same, rest⟩ := List.cons.inj split
      exact ⟨rfl, same.symm, rest.symm⟩
    | cons _ _ => simp at split
  have known : (resolveAll Sample.site [Sample.firstLogin]).users.find? .kakao "1" =
      some Sample.firstRecord := rfl
  cases unknown.symm.trans known

/-- A login with the same address and another account makes a stored identity anew: the record
forgets when it was created, the name and the verified identifier. -/
theorem resolveAll_forgets_newAccount :
    Callback.ofUserinfo .kakao Sample.firstLogin.callback.payload =
      .ok Sample.firstLogin.callback ∧
    Callback.ofUserinfo .kakao (Sample.bareLogin 2).callback.payload =
      .ok (Sample.bareLogin 2).callback ∧
    (resolveAll Sample.site [Sample.firstLogin]).users.byId.get? Sample.member =
      some Sample.firstRecord ∧
    ∃ current, (resolveAll Sample.site [Sample.bareLogin 2, Sample.firstLogin]).users.byId.get?
        Sample.member = some current ∧
      current.createdAt ≠ Sample.firstRecord.createdAt ∧ current.displayName = none ∧
      current.verifiedIdentifier = none :=
  ⟨rfl, rfl, rfl, User.create Sample.member "2" none none (Sample.bareLogin 2).now, rfl, by decide,
    rfl, rfl⟩

end Engine

end SignOn
