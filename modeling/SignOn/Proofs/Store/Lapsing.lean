import Mathlib.Tactic.SplitIfs
import SignOn.Proofs.Time.Instant
import SignOn.Store.KeyValue
import SignOn.Store.Sessions

/-!
# Entries that lapse

What a store shows at an instant is its live part: the entries that have not lapsed.  The laws of
this module give the entry of a key after every operation of the two stores, and tell what an
operation answers by the live part alone.
-/

namespace SignOn.Store

set_option autoImplicit false

/-! ## The end of a lifetime -/

theorem expiry_eq_ok {now : Instant} {lifetime : Duration} {expiresAt : Instant}
    (found : expiry now lifetime = .ok expiresAt) :
    expiresAt = lifetime.after now ∧ (lifetime.after now).isRepresentable = true := by
  unfold expiry at found
  split_ifs at found with short within
  · exact ⟨(Except.ok.inj found).symm, within⟩

/-- A lifetime that leads from the calendar to the calendar can be added. -/
theorem expiry_of_isRepresentable {now : Instant} {lifetime : Duration}
    (here : now.isRepresentable = true) (there : (lifetime.after now).isRepresentable = true) :
    expiry now lifetime = .ok (lifetime.after now) := by
  have short : lifetime ≤ Duration.longest := by
    rw [Instant.isRepresentable_iff, Instant.firstSecond, Instant.seconds] at here
    rw [Instant.isRepresentable_iff, Instant.lastSecond, Instant.seconds, Duration.after] at there
    change lifetime.nanoseconds ≤ 9223372036854775807 * 1000000
    simp only at here there
    omega
  rw [expiry, if_pos short, if_pos there]

/-- A lifetime that can be added to no instant is an error of the store. -/
theorem expiry_of_not_le {now : Instant} {lifetime : Duration}
    (long : ¬ lifetime ≤ Duration.longest) :
    expiry now lifetime =
      .error (.refused (.backend ("ttl out of range: " ++ lifetime.text))) :=
  if_neg long

theorem expiry_eq_calendarEnd_iff {now : Instant} {lifetime : Duration} :
    expiry now lifetime = .error .calendarEnd ↔
      lifetime ≤ Duration.longest ∧ (lifetime.after now).isRepresentable = false := by
  unfold expiry
  split_ifs with short within
  · exact iff_of_false nofun fun both => by cases within.symm.trans both.2
  · exact iff_of_true rfl ⟨short, Bool.eq_false_iff.2 within⟩
  · exact iff_of_false nofun fun both => short both.1

/-! ## What has been put in a store -/

/-- What was put somewhere with an end is still there, or the end has come. -/
def IsThereUntil {ν : Type} (held : Option ν) (entry : ν) (lapse now : Instant) : Prop :=
  held = some entry ∨ held = none ∧ lapse ≤ now

/-- What is there until its end stays so, while time passes and nothing but lapsed entries is
lost. -/
theorem IsThereUntil.of_kept {ν : Type} {before after : Option ν} {entry : ν}
    {lapse now later : Instant} (there : IsThereUntil before entry lapse now) {alive : ν → Bool}
    (isAlive : alive entry = true ↔ now < lapse)
    (kept : after = before ∨ after = before.filter alive) (ordered : now ≤ later) :
    IsThereUntil after entry lapse later := by
  rcases there with rfl | ⟨rfl, lapsed⟩
  · rcases kept with rfl | rfl
    · exact Or.inl rfl
    · by_cases live : now < lapse
      · exact Or.inl (Option.filter_eq_some_iff.2 ⟨rfl, isAlive.2 live⟩)
      · refine Or.inr ⟨?_, Int.le_trans (Instant.not_lt.1 live) ordered⟩
        rw [Option.filter_some, if_neg fun alive => live (isAlive.1 alive)]
  · refine Or.inr ⟨?_, Int.le_trans lapsed ordered⟩
    rcases kept with rfl | rfl <;> rfl

/-! ## Sessions -/

namespace Sessions

variable {now : Instant} {owner other : UserId} {store : Sessions} {session : Session}

/-- The live session of an identity. -/
def liveAt (now : Instant) (owner : UserId) (store : Sessions) : Option Session :=
  (store.get? owner).filter fun session => !session.isExpiredAt now

theorem isAlive_iff : (!session.isExpiredAt now) = true ↔ now < session.expiresAt := by
  rw [Session.isExpiredAt, Bool.not_eq_true', decide_eq_false_iff_not, Instant.le_def,
    Instant.lt_def, Int.not_le]

theorem liveAt_eq_some_iff :
    store.liveAt now owner = some session ↔
      store.get? owner = some session ∧ now < session.expiresAt := by
  rw [liveAt, Option.filter_eq_some_iff, isAlive_iff]

theorem read_fst : (store.read now owner).1 = store.liveAt now owner := by
  unfold read look settle liveAt
  cases held : store.get? owner with
  | none => rfl
  | some session =>
    cases expired : session.isExpiredAt now <;> simp [Option.filter, expired]

/-- Reading removes the session that is asked for if it has lapsed, and nothing else. -/
theorem get?_read :
    (store.read now owner).2.get? other =
      if other = owner then store.liveAt now owner else store.get? other := by
  unfold read look settle liveAt
  cases held : store.get? owner with
  | none =>
    by_cases same : other = owner
    · simp [same, held]
    · simp [same]
  | some session =>
    cases expired : session.isExpiredAt now
    · by_cases same : other = owner
      · simp [same, held, Option.filter, expired]
      · simp [same, expired]
    · by_cases same : other = owner
      · simp [same, Table.get?_erase, Option.filter, expired]
      · simp [same, Table.get?_erase, expired]

theorem liveAt_read : (store.read now owner).2.liveAt now other = store.liveAt now other := by
  rw [liveAt, get?_read]
  by_cases same : other = owner
  · subst same
    rw [if_pos rfl, liveAt, Option.filter_filter]
    simp
  · rw [if_neg same, liveAt]

theorem get?_purge : (store.purge now).get? owner = store.liveAt now owner :=
  Table.get?_filter _ store owner

theorem get?_insert (other : UserId) :
    (store.insert owner session).get? other =
      if other = owner then some session else store.get? other :=
  Table.get?_insert store owner other session

/-- Replacing succeeds where the live session holds the expected value. -/
theorem replace_of_live {expected value : String} {lifetime : Duration} {expiresAt : Instant}
    (fits : expiry now lifetime = .ok expiresAt)
    (live : store.liveAt now owner = some session) (same : session.refreshToken = expected) :
    store.replace now owner expected value lifetime =
      .ok (true, store.insert owner
        { session with refreshToken := value, expiresAt := expiresAt }) := by
  obtain ⟨held, before⟩ := liveAt_eq_some_iff.1 live
  have unexpired : session.isExpiredAt now = false := by
    rw [Session.isExpiredAt, decide_eq_false_iff_not, Instant.le_def, Int.not_le]
    exact before
  simp only [replace, fits, held, unexpired, Bool.false_eq_true, if_false, same, if_true]

/-- Replacing tells whether the live session held the expected value, and changes nothing else. -/
theorem replace_eq_ok {expected value : String} {lifetime : Duration} {replaced : Bool}
    {after : Sessions}
    (answered : store.replace now owner expected value lifetime = .ok (replaced, after)) :
    (replaced = true ∧ ∃ session, store.liveAt now owner = some session ∧
      session.refreshToken = expected ∧ after = store.insert owner
        { session with refreshToken := value, expiresAt := lifetime.after now }) ∨
    (replaced = false ∧ (∀ session, store.liveAt now owner = some session →
      session.refreshToken ≠ expected) ∧
      ∀ other, after.get? other = store.get? other ∨ after.get? other = store.liveAt now other) := by
  unfold replace at answered
  cases fits : expiry now lifetime with
  | error fault =>
    rw [fits] at answered
    cases answered
  | ok expiresAt =>
    obtain ⟨rfl, _⟩ := expiry_eq_ok fits
    rw [fits] at answered
    dsimp only at answered
    cases held : store.get? owner with
    | none =>
      rw [held] at answered
      cases answered
      refine Or.inr ⟨rfl, ?_, fun _ => Or.inl rfl⟩
      intro session live
      rw [liveAt, held] at live
      cases live
    | some session =>
      rw [held] at answered
      dsimp only at answered
      split_ifs at answered with expired same
      · cases answered
        have lapsed : store.liveAt now owner = none := by
          rw [liveAt, held]
          simp [Option.filter, expired]
        refine Or.inr ⟨rfl, ?_, ?_⟩
        · rw [lapsed]
          exact nofun
        · intro other
          rw [Table.get?_erase]
          by_cases here : other = owner
          · rw [if_pos here, here, lapsed]
            exact Or.inr rfl
          · rw [if_neg here]
            exact Or.inl rfl
      · cases answered
        have live : store.liveAt now owner = some session := by
          rw [liveAt, held]
          simp [Option.filter, expired]
        exact Or.inl ⟨rfl, session, live, same, rfl⟩
      · cases answered
        refine Or.inr ⟨rfl, ?_, fun _ => Or.inl rfl⟩
        intro other live
        obtain rfl := Option.some.inj ((liveAt_eq_some_iff.1 live).1.symm.trans held)
        exact same

end Sessions

/-! ## Counters and marks -/

namespace KeyValue

variable {now : Instant} {key other : String} {store : KeyValue} {entry : Entry}

/-- The live entry of a key. -/
def liveAt (now : Instant) (key : String) (store : KeyValue) : Option Entry :=
  (store.get? key).filter fun entry => entry.isLive now

theorem liveAt_eq_some_iff :
    store.liveAt now key = some entry ↔ store.get? key = some entry ∧ now < entry.expiresAt := by
  rw [liveAt, Option.filter_eq_some_iff, Entry.isLive, decide_eq_true_iff]

theorem isPresent_fst : (store.isPresent now key).1 = (store.liveAt now key).isSome := by
  unfold isPresent look settle liveAt
  cases held : store.get? key with
  | none => rfl
  | some entry => cases live : entry.isLive now <;> simp [Option.filter, live]

/-- Asking for a key removes its entry if it has lapsed, and nothing else. -/
theorem get?_isPresent :
    (store.isPresent now key).2.get? other =
      if other = key then store.liveAt now key else store.get? other := by
  unfold isPresent look settle liveAt
  cases held : store.get? key with
  | none =>
    by_cases same : other = key
    · simp [same, held]
    · simp [same]
  | some entry =>
    cases live : entry.isLive now
    · by_cases same : other = key
      · simp [same, Table.get?_erase, Option.filter, live]
      · simp [same, Table.get?_erase, live]
    · by_cases same : other = key
      · simp [same, held, Option.filter, live]
      · simp [same, live]

theorem liveAt_isPresent :
    (store.isPresent now key).2.liveAt now other = store.liveAt now other := by
  rw [liveAt, get?_isPresent]
  by_cases same : other = key
  · subst same
    rw [if_pos rfl, liveAt, Option.filter_filter]
    simp
  · rw [if_neg same, liveAt]

theorem get?_purge : (store.purge now).get? key = store.liveAt now key :=
  Table.get?_filter _ store key

/-- A live counter is counted up and keeps its end. -/
theorem count_of_live {window : Duration} {count : Nat} {expiresAt : Instant}
    (live : store.liveAt now key = some ⟨.counter count, expiresAt⟩) :
    store.count now key window =
      .ok (count + 1, store.insert key ⟨.counter (count + 1), expiresAt⟩) := by
  rw [liveAt] at live
  rw [KeyValue.count, live]

/-- A live text is not counted. -/
theorem count_of_text {window : Duration} {text : String} {expiresAt : Instant}
    (live : store.liveAt now key = some ⟨.text text, expiresAt⟩) :
    store.count now key window = .error (.refused (notACounter key)) := by
  rw [liveAt] at live
  rw [KeyValue.count, live]

/-- Where nothing is live, a counter starts at one. -/
theorem count_of_lapsed {window : Duration} {expiresAt : Instant}
    (lapsed : store.liveAt now key = none) (fits : expiry now window = .ok expiresAt) :
    store.count now key window = .ok (1, store.insert key ⟨.counter 1, expiresAt⟩) := by
  rw [liveAt] at lapsed
  rw [KeyValue.count, lapsed]
  dsimp only
  rw [fits]

/-- Counting leaves every other key alone. -/
theorem get?_count {window : Duration} {count : Nat} {after : KeyValue}
    (counted : store.count now key window = .ok (count, after)) (differs : other ≠ key) :
    after.get? other = store.get? other := by
  unfold KeyValue.count at counted
  split at counted
  · obtain ⟨rfl, rfl⟩ := Prod.mk.inj (Except.ok.inj counted)
    exact Table.get?_insert_of_ne store _ differs
  · cases counted
  · split at counted
    · obtain ⟨rfl, rfl⟩ := Prod.mk.inj (Except.ok.inj counted)
      exact Table.get?_insert_of_ne store _ differs
    · cases counted

/-- Counting leaves a counter at its key. -/
theorem get?_count_self {window : Duration} {count : Nat} {after : KeyValue}
    (counted : store.count now key window = .ok (count, after)) :
    ∃ expiresAt, after.get? key = some ⟨.counter count, expiresAt⟩ := by
  unfold KeyValue.count at counted
  split at counted
  · obtain ⟨rfl, rfl⟩ := Prod.mk.inj (Except.ok.inj counted)
    exact ⟨_, Table.get?_insert_self store _ _⟩
  · cases counted
  · split at counted
    · obtain ⟨rfl, rfl⟩ := Prod.mk.inj (Except.ok.inj counted)
      exact ⟨_, Table.get?_insert_self store _ _⟩
    · cases counted

/-- Where no text is held, and the end of a window can be told, counting gives a count. -/
theorem exists_count {window : Duration} {expiresAt : Instant}
    (fits : expiry now window = .ok expiresAt)
    (noText : ∀ text expiresAt, store.get? key ≠ some ⟨.text text, expiresAt⟩) :
    ∃ count after, store.count now key window = .ok (count, after) := by
  unfold KeyValue.count
  split
  · exact ⟨_, _, rfl⟩
  · next text expiresAt held =>
    exact absurd (Option.filter_eq_some_iff.1 held).1 (noText text expiresAt)
  · rw [fits]
    exact ⟨_, _, rfl⟩

end KeyValue

end SignOn.Store
