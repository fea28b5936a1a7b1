import SignOn.Proofs.Engine.Runs

/-!
# Lifetimes that lead out of the calendar

Four calls put an entry in a store for a lifetime: counting, marking, writing a session and
replacing one.  Each needs the instant at which the lifetime ends, but for a count at a key where an
entry is live.  If the lifetime ends within the calendar, the call is carried out
(`Puts`).  If no instant can have the lifetime added to it, the store reports an error.  In between
are lifetimes that can be added to some instants and lead beyond the calendar from this one, and
there the call breaks off.  Whatever keeps a call from an answer, it leaves the stores as they were
(`performCall_heedsCalendar`).
-/

namespace SignOn

set_option autoImplicit false

namespace Engine

open Store

/-- The time for which a call puts an entry in a store, if it is a call that can. -/
def StoreCall.lifetime? : StoreCall → Option Duration
  | .count _ window => some window
  | .mark _ _ lifetime => some lifetime
  | .writeSession _ _ lifetime => some lifetime
  | .replaceSession _ _ _ lifetime => some lifetime
  | _ => none

/-- Whether a call needs the end of its lifetime.  A count where an entry is live does not. -/
def StoreCall.NeedsEnd (world : World) : StoreCall → Prop
  | .count key _ => world.keyValue.liveAt world.clock key = none
  | .mark _ _ _ | .writeSession _ _ _ | .replaceSession _ _ _ _ => True
  | _ => False

/-- What a call that can put an entry in a store replies and leaves, where its lifetime ends at an
instant. -/
inductive Puts (world : World) (expiresAt : Instant) :
    (call : StoreCall) → Reply call.Answer → World → Prop
  | countsUp {key : String} {window : Duration} {count : Nat} {ends : Instant}
      (live : world.keyValue.liveAt world.clock key = some ⟨.counter count, ends⟩) :
      Puts world expiresAt (.count key window) (.answered (count + 1))
        { world with keyValue := world.keyValue.insert key ⟨.counter (count + 1), ends⟩ }
  | meetsText {key : String} {window : Duration} {text : String} {ends : Instant}
      (live : world.keyValue.liveAt world.clock key = some ⟨.text text, ends⟩) :
      Puts world expiresAt (.count key window) (.failed (KeyValue.notACounter key)) world
  | opens {key : String} {window : Duration}
      (unused : world.keyValue.liveAt world.clock key = none) :
      Puts world expiresAt (.count key window) (.answered 1)
        { world with keyValue := world.keyValue.insert key ⟨.counter 1, expiresAt⟩ }
  | marks {key text : String} {lifetime : Duration} :
      Puts world expiresAt (.mark key text lifetime) (.answered ())
        { world with keyValue := world.keyValue.insert key ⟨.text text, expiresAt⟩ }
  | writes {owner : UserId} {value : String} {lifetime : Duration} :
      Puts world expiresAt (.writeSession owner value lifetime) (.answered ())
        { world with sessions := world.sessions.insert owner ⟨owner, value, expiresAt⟩ }
  | replaces {owner : UserId} {expected value : String} {lifetime : Duration} {session : Session}
      (live : world.sessions.liveAt world.clock owner = some session)
      (same : session.refreshToken = expected) :
      Puts world expiresAt (.replaceSession owner expected value lifetime) (.answered true)
        { world with
          sessions := world.sessions.insert owner
            { session with refreshToken := value, expiresAt := expiresAt } }
  | keeps {owner : UserId} {expected value : String} {lifetime : Duration} {session : Session}
      (live : world.sessions.liveAt world.clock owner = some session)
      (other : session.refreshToken ≠ expected) :
      Puts world expiresAt (.replaceSession owner expected value lifetime) (.answered false) world
  | findsNone {owner : UserId} {expected value : String} {lifetime : Duration}
      (absent : world.sessions.get? owner = none) :
      Puts world expiresAt (.replaceSession owner expected value lifetime) (.answered false) world
  | clears {owner : UserId} {expected value : String} {lifetime : Duration} {session : Session}
      (held : world.sessions.get? owner = some session)
      (lapsed : session.isExpiredAt world.clock = true) :
      Puts world expiresAt (.replaceSession owner expected value lifetime) (.answered false)
        { world with sessions := world.sessions.erase owner }

section Calls

variable {world : World} {call : StoreCall} {lifetime : Duration} {expiresAt : Instant}

/-- Where no answer is given, nothing is left behind. -/
theorem Puts.eq_of_failed {reply : Reply call.Answer} {after : World}
    (puts : Puts world expiresAt call reply after) (failed : ∀ answer, reply ≠ .answered answer) :
    after = world := by
  cases puts with
  | meetsText => rfl
  | _ => exact absurd rfl (failed _)

/-- A count where an entry is live goes by the entry alone. -/
theorem exists_puts_of_not_needsEnd (timed : call.lifetime? = some lifetime)
    (spared : ¬ call.NeedsEnd world) :
    ∃ reply after, world.performCall call = (.ok reply, after) ∧
      ∀ expiresAt, Puts world expiresAt call reply after := by
  cases call with
  | count key window =>
    rw [World.performCall]
    rcases live : world.keyValue.liveAt world.clock key with _ | ⟨count | text, ends⟩
    · exact absurd live spared
    · rw [KeyValue.count_of_live live]
      exact ⟨_, _, rfl, fun _ => .countsUp live⟩
    · rw [KeyValue.count_of_text live]
      exact ⟨_, _, rfl, fun _ => .meetsText live⟩
  | mark | writeSession | replaceSession => exact absurd trivial spared
  | _ => cases timed

/-- A replacement whose lifetime has an end is carried out. -/
theorem exists_puts_replaceSession {owner : UserId} {expected value : String}
    (ends : expiry world.clock lifetime = .ok expiresAt) :
    ∃ reply after,
      world.performCall (.replaceSession owner expected value lifetime) = (.ok reply, after) ∧
        Puts world expiresAt (.replaceSession owner expected value lifetime) reply after := by
  rw [World.performCall, Sessions.replace, ends]
  cases held : world.sessions.get? owner with
  | none => exact ⟨_, _, rfl, .findsNone held⟩
  | some session =>
    dsimp only
    split_ifs with lapsed same
    · exact ⟨_, _, rfl, .clears held lapsed⟩
    all_goals
      have live : world.sessions.liveAt world.clock owner = some session := by
        rw [Sessions.liveAt, held, Option.filter_some, if_pos (by simpa using lapsed)]
    · exact ⟨_, _, rfl, .replaces live same⟩
    · exact ⟨_, _, rfl, .keeps live same⟩

/-- A call whose lifetime has an end is carried out. -/
theorem exists_puts_of_expiry (timed : call.lifetime? = some lifetime)
    (ends : expiry world.clock lifetime = .ok expiresAt) :
    ∃ reply after, world.performCall call = (.ok reply, after) ∧
      Puts world expiresAt call reply after := by
  by_cases needs : call.NeedsEnd world
  · cases call with
    | count key window =>
      cases timed
      rw [World.performCall, KeyValue.count_of_lapsed needs ends]
      exact ⟨_, _, rfl, .opens needs⟩
    | mark key text lifetime =>
      cases timed
      rw [World.performCall, KeyValue.write, ends]
      exact ⟨_, _, rfl, .marks⟩
    | writeSession owner value lifetime =>
      cases timed
      rw [World.performCall, Sessions.write, ends]
      exact ⟨_, _, rfl, .writes⟩
    | replaceSession owner expected value lifetime =>
      cases timed
      exact exists_puts_replaceSession ends
    | _ => cases timed
  · obtain ⟨reply, after, performed, puts⟩ := exists_puts_of_not_needsEnd timed needs
    exact ⟨reply, after, performed, puts expiresAt⟩

/-- A call that needs the end of a lifetime, and is not given it, passes the reason on and leaves
the stores as they were. -/
theorem performCall_of_fault {fault : Fault} (timed : call.lifetime? = some lifetime)
    (needs : call.NeedsEnd world) (endless : expiry world.clock lifetime = .error fault) :
    world.performCall call = (World.replyOfFault fault, world) := by
  cases call with
  | count key window =>
    cases timed
    have unused : (world.keyValue.get? key).filter (fun entry => entry.isLive world.clock) = none :=
      needs
    rw [World.performCall, KeyValue.count, unused]
    dsimp only
    rw [endless]
    rfl
  | mark key text lifetime =>
    cases timed
    rw [World.performCall, KeyValue.write, endless]
    rfl
  | writeSession owner value lifetime =>
    cases timed
    rw [World.performCall, Sessions.write, endless]
    rfl
  | replaceSession owner expected value lifetime =>
    cases timed
    rw [World.performCall, Sessions.replace, endless]
    rfl
  | _ => cases timed

/-- A call that can put an entry is carried out, with the end of its lifetime if that is needed, or
the end is needed and there is none. -/
theorem performCall_cases (world : World) (timed : call.lifetime? = some lifetime) :
    (∃ reply after expiresAt, world.performCall call = (.ok reply, after) ∧
      Puts world expiresAt call reply after ∧
      (call.NeedsEnd world → expiry world.clock lifetime = .ok expiresAt)) ∨
    (call.NeedsEnd world ∧ ∃ fault, expiry world.clock lifetime = .error fault ∧
      world.performCall call = (World.replyOfFault fault, world)) := by
  by_cases needs : call.NeedsEnd world
  · cases ends : expiry world.clock lifetime with
    | ok expiresAt =>
      obtain ⟨reply, after, performed, puts⟩ := exists_puts_of_expiry timed ends
      exact Or.inl ⟨reply, after, expiresAt, performed, puts, fun _ => rfl⟩
    | error fault => exact Or.inr ⟨needs, fault, rfl, performCall_of_fault timed needs ends⟩
  · obtain ⟨reply, after, performed, puts⟩ := exists_puts_of_not_needsEnd timed needs
    exact Or.inl ⟨reply, after, world.clock, performed, puts _, fun needed => absurd needed needs⟩

/-- What a call that can put an entry in a store makes of its lifetime. -/
structure HeedsCalendar (world : World) (call : StoreCall) (lifetime : Duration) : Prop where
  /-- If the lifetime ends within the calendar, the call is carried out; -/
  fits : (lifetime.after world.clock).isRepresentable = true →
    ∃ reply after, world.performCall call = (.ok reply, after) ∧
      Puts world (lifetime.after world.clock) call reply after
  /-- and it is carried out whatever the lifetime if the end is not needed. -/
  spared : ¬ call.NeedsEnd world →
    ∃ reply after, world.performCall call = (.ok reply, after) ∧
      ∀ expiresAt, Puts world expiresAt call reply after
  /-- If the end is needed of a lifetime that can be added to no instant, the store reports that and
  is left as it was. -/
  refused : call.NeedsEnd world → ¬ lifetime ≤ Duration.longest →
    world.performCall call =
      (.ok (.failed (.backend ("ttl out of range: " ++ lifetime.text))), world)
  /-- The call breaks off exactly if the end is needed of a lifetime that can be added to some
  instants, and leads beyond the calendar. -/
  breaksOff : (world.performCall call).1 = .error ⟨⟩ ↔
    call.NeedsEnd world ∧ lifetime ≤ Duration.longest ∧
      (lifetime.after world.clock).isRepresentable = false
  /-- A call that gives no answer leaves the stores as they were. -/
  unchanged : (∀ answer, (world.performCall call).1 ≠ .ok (.answered answer)) →
    (world.performCall call).2 = world

/-- **A lifetime that is out of range changes nothing.**  It is an error if it can be added to no
instant, and the call breaks off if it leads beyond the calendar from this one. -/
theorem performCall_heedsCalendar (timed : call.lifetime? = some lifetime)
    (within : world.clock.isRepresentable = true) : HeedsCalendar world call lifetime where
  fits there := exists_puts_of_expiry timed (expiry_of_isRepresentable within there)
  spared := exists_puts_of_not_needsEnd timed
  refused needs long := performCall_of_fault timed needs (expiry_of_not_le long)
  breaksOff := by
    rw [← expiry_eq_calendarEnd_iff]
    rcases performCall_cases world timed with
      ⟨reply, after, expiresAt, performed, _, ends⟩ | ⟨needs, fault, endless, performed⟩
    · rw [performed]
      exact iff_of_false nofun fun ⟨needs, beyond⟩ => nomatch (ends needs).symm.trans beyond
    · rw [performed, endless]
      cases fault with
      | refused error => exact iff_of_false nofun fun both => nomatch both.2
      | calendarEnd => exact iff_of_true rfl ⟨needs, rfl⟩
  unchanged := by
    intro unanswered
    rcases performCall_cases world timed with
      ⟨reply, after, expiresAt, performed, puts, _⟩ | ⟨_, _, _, performed⟩
    · rw [performed] at unanswered ⊢
      exact puts.eq_of_failed fun answer same => unanswered answer (congrArg Except.ok same)
    · rw [performed]

/-- A session is replaced for two weeks. -/
theorem performCall_heedsCalendar_twoWeeks :
    (StoreCall.replaceSession Sample.identity "0" "1" (.ofSeconds 1209600)).lifetime? =
        some (.ofSeconds 1209600) ∧
      Sample.world.clock.isRepresentable = true ∧
      HeedsCalendar Sample.world (.replaceSession Sample.identity "0" "1" (.ofSeconds 1209600))
        (.ofSeconds 1209600) :=
  ⟨rfl, by decide, performCall_heedsCalendar rfl (by decide)⟩

/-- Nine million million seconds can be added to some instants and lead beyond the calendar from the
present; no call that needs their end gives an answer. -/
theorem performCall_breaksOff_pastCalendar :
    Duration.ofSeconds 9000000000000 ≤ Duration.longest ∧
      Sample.world.clock.isRepresentable = true ∧
      (Sample.world.performCall (.count "count" (.ofSeconds 9000000000000))).1 = .error ⟨⟩ ∧
      (Sample.world.performCall (.mark "mark" "1" (.ofSeconds 9000000000000))).1 = .error ⟨⟩ ∧
      (Sample.world.performCall
        (.writeSession Sample.identity "0" (.ofSeconds 9000000000000))).1 = .error ⟨⟩ ∧
      (Sample.world.performCall
        (.replaceSession Sample.identity "0" "1" (.ofSeconds 9000000000000))).1 = .error ⟨⟩ :=
  ⟨by decide, by decide, rfl, rfl, rfl, rfl⟩

end Calls

end Engine

end SignOn
