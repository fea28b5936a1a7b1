import SignOn.Store.Users

/-!
# Records and accounts

The user store keeps two tables, the records by identity and the identities by account.  They are
inverse to each other (`Users.Inverse`), and saving a record keeps them so, also where it moves an
identity to another account and takes that account from another identity at once
(`Users.Inverse.save`).  What is in the tables after a save is told by one law for each of them.

So a record is there after any saves exactly if it was saved and neither its identity nor its
account has been saved again since (`Users.byId_saveAll_eq_some_iff`), and an account is found with
the record that was last saved for it, unless the identity of that record has moved on
(`Users.keepsAccounts_saveAll`).
-/

namespace SignOn.Store

set_option autoImplicit false

namespace Users

/-! ## The two tables -/

/-- The two tables are inverse to each other. -/
structure Inverse (users : Users) : Prop where
  /-- A record stands under its identity, and its account leads to that. -/
  record : ∀ {id : UserId} {user : User}, users.byId.get? id = some user →
    user.id = id ∧ users.byAccount.get? (accountOf user) = some id
  /-- An account leads to the identity of a record with that account. -/
  account : ∀ {account : Provider × String} {id : UserId}, users.byAccount.get? account = some id →
    ∃ user, users.byId.get? id = some user ∧ accountOf user = account

theorem inverse_empty : empty.Inverse := ⟨nofun, nofun⟩

/-! ## What a save does -/

section Save

variable {users : Users} {user saved : User} {id : UserId} {account : Provider × String}

/-- Records of one identity are at one provider, so they differ in their accounts by the text. -/
theorem accountOf_eq_iff (same : user.id = saved.id) :
    accountOf user = accountOf saved ↔ user.account = saved.account := by
  rw [accountOf, accountOf, same, Prod.mk.injEq, eq_self, true_and]

/-- The account that an identity had before is forgotten if it was another one. -/
theorem Inverse.get?_forgetFormer (inverse : users.Inverse) (account : Provider × String) :
    (users.forgetFormer saved).get? account =
      if users.byAccount.get? account = some saved.id ∧ account ≠ accountOf saved then none
      else users.byAccount.get? account := by
  unfold forgetFormer
  cases held : users.byId.get? saved.id with
  | none =>
    have unowned : users.byAccount.get? account ≠ some saved.id := by
      intro leads
      obtain ⟨owner, found, _⟩ := inverse.account leads
      rw [held] at found
      cases found
    exact (if_neg fun both => unowned both.1).symm
  | some former =>
    obtain ⟨named, leads⟩ := inverse.record held
    have owned : users.byAccount.get? account = some saved.id ↔ account = accountOf former := by
      refine ⟨fun leads => ?_, fun same => same ▸ leads⟩
      obtain ⟨owner, found, same⟩ := inverse.account leads
      rw [← same, Option.some.inj (found.symm.trans held)]
    simp only [owned]
    by_cases same : former.account = saved.account
    · rw [if_pos same, if_neg]
      rintro ⟨rfl, differs⟩
      exact differs ((accountOf_eq_iff named).2 same)
    · rw [if_neg same, Table.get?_erase]
      by_cases here : account = accountOf former
      · have moved : account ≠ accountOf saved := fun equal =>
          same ((accountOf_eq_iff named).1 (here.symm.trans equal))
        rw [if_pos here, if_pos ⟨here, moved⟩]
      · rw [if_neg here, if_neg fun both => here both.1]

/-- After a save the account of the record leads to its identity, every other account of the
identity leads nowhere, and the rest is as before. -/
theorem Inverse.get?_byAccount_save (inverse : users.Inverse) (account : Provider × String) :
    (users.save saved).byAccount.get? account =
      if account = accountOf saved then some saved.id
      else if users.byAccount.get? account = some saved.id then none
      else users.byAccount.get? account := by
  rw [save, Table.get?_insert]
  by_cases same : account = accountOf saved
  · rw [if_pos same, if_pos same]
  · rw [if_neg same, if_neg same, inverse.get?_forgetFormer]
    simp only [ne_eq, same, not_false_eq_true, and_true]

/-- After a save the identity of the record has that record, another identity that had its account
has none, and the rest is as before. -/
theorem Inverse.get?_byId_save (inverse : users.Inverse) (id : UserId) :
    (users.save saved).byId.get? id =
      if id = saved.id then some saved
      else if users.byAccount.get? (accountOf saved) = some id then none
      else users.byId.get? id := by
  have kept : (users.forgetFormer saved).get? (accountOf saved) =
      users.byAccount.get? (accountOf saved) := by
    rw [inverse.get?_forgetFormer, if_neg fun both => both.2 rfl]
  rw [save, Table.get?_insert]
  by_cases same : id = saved.id
  · rw [if_pos same, if_pos same]
  · rw [if_neg same, if_neg same, displaceOwner, kept]
    cases leads : users.byAccount.get? (accountOf saved) with
    | none => rw [if_neg (Option.some_ne_none id).symm]
    | some owner =>
      dsimp only
      by_cases own : owner = saved.id
      · rw [if_pos own, if_neg fun equal => same ((Option.some.inj equal).symm.trans own)]
      · rw [if_neg own, Table.get?_erase]
        simp only [Option.some.injEq, eq_comm]

/-- A record is there after a save if it is the one that was saved, or if it was there before and
shares neither the identity nor the account of that. -/
theorem Inverse.get?_byId_save_eq_some_iff (inverse : users.Inverse) :
    (users.save saved).byId.get? id = some user ↔
      saved.id = id ∧ saved = user ∨
        saved.id ≠ id ∧ accountOf saved ≠ accountOf user ∧ users.byId.get? id = some user := by
  rw [inverse.get?_byId_save]
  by_cases same : id = saved.id
  · rw [if_pos same, Option.some.injEq]
    simp [same]
  · rw [if_neg same]
    have differs : saved.id ≠ id := Ne.symm same
    by_cases leads : users.byAccount.get? (accountOf saved) = some id
    · obtain ⟨owner, found, shared⟩ := inverse.account leads
      rw [if_pos leads]
      simp only [differs, false_and, false_or, ne_eq, not_false_eq_true, true_and, reduceCtorEq,
        false_iff, not_and]
      intro unshared held
      obtain rfl := Option.some.inj (found.symm.trans held)
      exact unshared shared.symm
    · rw [if_neg leads]
      simp only [differs, false_and, false_or, ne_eq, not_false_eq_true, true_and]
      refine ⟨fun held => ⟨fun shared => ?_, held⟩, fun both => both.2⟩
      exact leads (shared ▸ (inverse.record held).2)

/-- Saving keeps the two tables inverse to each other. -/
theorem Inverse.save (inverse : users.Inverse) (saved : User) : (users.save saved).Inverse := by
  refine ⟨fun {id user} held => ?_, fun {account id} leads => ?_⟩
  · rw [inverse.get?_byAccount_save]
    rcases inverse.get?_byId_save_eq_some_iff.1 held with ⟨rfl, rfl⟩ | ⟨differs, unshared, held⟩
    · exact ⟨rfl, if_pos rfl⟩
    · obtain ⟨named, leads⟩ := inverse.record held
      refine ⟨named, ?_⟩
      rw [if_neg (Ne.symm unshared), leads, if_neg]
      exact fun equal => differs (Option.some.inj equal).symm
  · rw [inverse.get?_byAccount_save] at leads
    split at leads
    · next same =>
      obtain rfl := Option.some.inj leads
      refine ⟨saved, ?_, same.symm⟩
      rw [inverse.get?_byId_save, if_pos rfl]
    · next other =>
      split at leads
      · cases leads
      · next unowned =>
        obtain ⟨owner, held, same⟩ := inverse.account leads
        refine ⟨owner, inverse.get?_byId_save_eq_some_iff.2 (Or.inr ⟨?_, ?_, held⟩), same⟩
        · rintro rfl
          exact unowned leads
        · exact fun equal => other (same.symm.trans equal.symm)

/-- An account is found with a record exactly if the record is there and has that account. -/
theorem Inverse.find?_eq_some_iff (inverse : users.Inverse) {provider : Provider}
    {account : String} :
    users.find? provider account = some user ↔
      users.byId.get? user.id = some user ∧ accountOf user = (provider, account) := by
  rw [find?, Option.bind_eq_some_iff]
  constructor
  · rintro ⟨id, leads, held⟩
    obtain ⟨owner, found, same⟩ := inverse.account leads
    obtain rfl := Option.some.inj (found.symm.trans held)
    obtain ⟨rfl, _⟩ := inverse.record held
    exact ⟨held, same⟩
  · rintro ⟨held, same⟩
    exact ⟨user.id, same ▸ (inverse.record held).2, held⟩

/-- A record is neither of an account nor of the identity that the account is found with. -/
def Spares (saved : User) (provider : Provider) (account : String) (existing : Option User) : Prop :=
  accountOf saved ≠ (provider, account) ∧ ∀ former, existing = some former → saved.id ≠ former.id

/-- What an account is found with stays the same through the saves of other records. -/
theorem Inverse.find?_save_of_spares (inverse : users.Inverse) {provider : Provider}
    {account : String} (spares : Spares saved provider account (users.find? provider account)) :
    (users.save saved).find? provider account = users.find? provider account := by
  obtain ⟨unshared, differs⟩ := spares
  refine Option.ext fun user => ?_
  rw [(inverse.save saved).find?_eq_some_iff]
  constructor
  · rintro ⟨held, named⟩
    rcases inverse.get?_byId_save_eq_some_iff.1 held with ⟨_, rfl⟩ | ⟨_, _, held⟩
    · exact absurd named unshared
    · exact inverse.find?_eq_some_iff.2 ⟨held, named⟩
  · intro found
    obtain ⟨held, named⟩ := inverse.find?_eq_some_iff.1 found
    refine ⟨inverse.get?_byId_save_eq_some_iff.2 (Or.inr ⟨differs user found, ?_, held⟩), named⟩
    rwa [named]

theorem Inverse.find?_save_self (inverse : users.Inverse) (saved : User) :
    (users.save saved).find? saved.id.provider saved.account = some saved := by
  rw [(inverse.save saved).find?_eq_some_iff, inverse.get?_byId_save, if_pos rfl]
  exact ⟨rfl, rfl⟩

/-- An account is no longer found once its identity has been saved with another account. -/
theorem Inverse.find?_save_of_moved (inverse : users.Inverse) {provider : Provider}
    {account : String} (found : users.find? provider account = some user)
    (same : saved.id = user.id) (moved : accountOf saved ≠ (provider, account)) :
    (users.save saved).find? provider account = none := by
  refine Option.eq_none_iff_forall_ne_some.2 fun other there => ?_
  obtain ⟨held, named⟩ := (inverse.save saved).find?_eq_some_iff.1 there
  rcases inverse.get?_byId_save_eq_some_iff.1 held with ⟨_, rfl⟩ | ⟨differs, _, held⟩
  · exact moved named
  · have before := inverse.find?_eq_some_iff.2 ⟨held, named⟩
    obtain rfl := Option.some.inj (found.symm.trans before)
    exact differs same

/-- No two records share an account. -/
theorem Inverse.eq_of_accountOf_eq (inverse : users.Inverse) {other : UserId}
    (here : users.byId.get? id = some user) (there : users.byId.get? other = some saved)
    (same : accountOf user = accountOf saved) : id = other := by
  have leads := (inverse.record here).2
  rw [same, (inverse.record there).2] at leads
  exact (Option.some.inj leads).symm

end Save

/-! ## After any saves -/

/-- The store after some saves, of which the latest comes first. -/
def saveAll : List User → Users
  | [] => empty
  | latest :: past => (saveAll past).save latest

theorem inverse_saveAll (saves : List User) : (saveAll saves).Inverse := by
  induction saves with
  | nil => exact inverse_empty
  | cons latest past ih => exact ih.save latest

/-- A record was saved, and neither its identity nor its account has been saved again since. -/
def IsCurrent (user : User) : List User → Prop
  | [] => False
  | latest :: past =>
      latest = user ∨ latest.id ≠ user.id ∧ accountOf latest ≠ accountOf user ∧ IsCurrent user past

theorem byId_saveAll_eq_some_iff {saves : List User} {id : UserId} {user : User} :
    (saveAll saves).byId.get? id = some user ↔ user.id = id ∧ IsCurrent user saves := by
  induction saves with
  | nil => exact ⟨nofun, fun both => both.2.elim⟩
  | cons latest past ih =>
    rw [saveAll, (inverse_saveAll past).get?_byId_save_eq_some_iff, ih, IsCurrent]
    constructor
    · rintro (⟨named, rfl⟩ | ⟨differs, unshared, rfl, current⟩)
      · exact ⟨named, Or.inl rfl⟩
      · exact ⟨rfl, Or.inr ⟨differs, unshared, current⟩⟩
    · rintro ⟨rfl, rfl | ⟨differs, unshared, current⟩⟩
      · exact Or.inl ⟨rfl, rfl⟩
      · exact Or.inr ⟨differs, unshared, rfl, current⟩

theorem mem_of_isCurrent {user : User} {saves : List User} (current : IsCurrent user saves) :
    user ∈ saves := by
  induction saves with
  | nil => exact current.elim
  | cons latest past ih =>
    rcases current with rfl | ⟨_, _, current⟩
    · exact List.mem_cons_self
    · exact List.mem_cons_of_mem _ (ih current)

/-- A later record moves the identity of a record to another account. -/
def Repoints (later user : User) : Prop :=
  later.id = user.id ∧ accountOf later ≠ accountOf user

/-- A later record gives the account of a record to another identity. -/
def Displaces (later user : User) : Prop :=
  accountOf later = accountOf user ∧ later.id ≠ user.id

/-- What was last saved for an account is current until its identity moves on. -/
theorem isCurrent_append_iff {user : User} {since earlier : List User}
    (last : ∀ later ∈ since, accountOf later ≠ accountOf user) :
    IsCurrent user (since ++ user :: earlier) ↔
      ∀ later ∈ since, ¬ Repoints later user ∧ ¬ Displaces later user := by
  induction since with
  | nil => exact iff_of_true (Or.inl rfl) (List.forall_mem_nil _)
  | cons latest past ih =>
    obtain ⟨other, last⟩ := List.forall_mem_cons.1 last
    have unequal : latest ≠ user := fun same => other (congrArg accountOf same)
    rw [List.cons_append, IsCurrent, ih last, List.forall_mem_cons, or_iff_right unequal,
      and_iff_right other]
    refine and_congr_left fun _ => ⟨fun differs => ⟨?_, ?_⟩, fun remains same => ?_⟩
    · exact fun repoints => differs repoints.1
    · exact fun displaces => other displaces.1
    · exact remains.1 ⟨same, other⟩

/-- What the two tables hold after some saves. -/
structure KeepsAccounts (saves : List User) : Prop where
  /-- A record stands under its identity, and its account leads to that. -/
  record : ∀ id user, (saveAll saves).byId.get? id = some user →
    user.id = id ∧ (saveAll saves).byAccount.get? (id.provider, user.account) = some id
  /-- An account leads to the identity of a record with that account. -/
  account : ∀ provider account id, (saveAll saves).byAccount.get? (provider, account) = some id →
    id.provider = provider ∧
      ∃ user, (saveAll saves).byId.get? id = some user ∧ user.account = account
  /-- An account for which nothing was saved is not found. -/
  unsaved : ∀ provider account, (∀ user ∈ saves, accountOf user ≠ (provider, account)) →
    (saveAll saves).find? provider account = none
  /-- An account is found with the record that was last saved for it, unless that has been moved to
  another account or displaced since; then it is not found. -/
  last : ∀ since user earlier, saves = since ++ user :: earlier →
    (∀ later ∈ since, accountOf later ≠ accountOf user) →
      ((saveAll saves).find? user.id.provider user.account = some user ↔
        ∀ later ∈ since, ¬ Repoints later user ∧ ¬ Displaces later user) ∧
      ∀ found, (saveAll saves).find? user.id.provider user.account = some found → found = user
  /-- No two records share an account. -/
  unshared : ∀ id other user owner, (saveAll saves).byId.get? id = some user →
    (saveAll saves).byId.get? other = some owner → accountOf user = accountOf owner → id = other
  /-- One more save leaves every record as it is but that of its own identity and that of the
  identity which has its account. -/
  confined : ∀ saved id, id ≠ saved.id →
    (saveAll saves).byAccount.get? (accountOf saved) ≠ some id →
      ((saveAll saves).save saved).byId.get? id = (saveAll saves).byId.get? id

/-- Whatever is found at the account of a record that was last saved for it is that record. -/
theorem eq_of_isCurrent_append {user found : User} {since earlier : List User}
    (last : ∀ later ∈ since, accountOf later ≠ accountOf user)
    (current : IsCurrent found (since ++ user :: earlier))
    (same : accountOf found = accountOf user) : found = user := by
  induction since with
  | nil =>
    rcases current with rfl | ⟨_, unshared, _⟩
    · rfl
    · exact absurd same.symm unshared
  | cons latest past ih =>
    obtain ⟨other, last⟩ := List.forall_mem_cons.1 last
    rcases current with rfl | ⟨_, _, current⟩
    · exact absurd same other
    · exact ih last current

/-- **The two tables stay inverse to each other** under any saves, so that every account has the one
record that was last saved for it, for as long as the identity of that record keeps the account. -/
theorem keepsAccounts_saveAll (saves : List User) : KeepsAccounts saves := by
  have inverse := inverse_saveAll saves
  refine ⟨fun id user held => ?_, fun provider account id leads => ?_,
    fun provider account unsaved => ?_, fun since user earlier split last => ⟨?_, ?_⟩,
    fun id other user owner here there same => inverse.eq_of_accountOf_eq here there same,
    fun saved id differs unowned => ?_⟩
  · obtain ⟨rfl, leads⟩ := inverse.record held
    exact ⟨rfl, leads⟩
  · obtain ⟨user, held, same⟩ := inverse.account leads
    obtain ⟨rfl, _⟩ := inverse.record held
    exact ⟨congrArg Prod.fst same, user, held, congrArg Prod.snd same⟩
  · refine Option.eq_none_iff_forall_ne_some.2 fun user found => ?_
    obtain ⟨held, same⟩ := inverse.find?_eq_some_iff.1 found
    exact unsaved user (mem_of_isCurrent (byId_saveAll_eq_some_iff.1 held).2) same
  · rw [inverse.find?_eq_some_iff, byId_saveAll_eq_some_iff, split, isCurrent_append_iff last]
    exact ⟨fun found => found.1.2, fun remains => ⟨⟨rfl, remains⟩, rfl⟩⟩
  · intro found leads
    obtain ⟨held, same⟩ := inverse.find?_eq_some_iff.1 leads
    obtain ⟨_, current⟩ := byId_saveAll_eq_some_iff.1 held
    rw [split] at current
    exact eq_of_isCurrent_append last current same
  · rw [inverse.get?_byId_save, if_neg differs, if_neg unowned]

end Users

end SignOn.Store
