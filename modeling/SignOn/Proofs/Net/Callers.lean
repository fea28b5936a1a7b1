import Mathlib.Tactic.SplitIfs
import SignOn.Proofs.Net.Address

/-!
# Callers in the audit trail

A record says where an operation was called from by the rendering of an address.  An address that
maps four octets into the long form has the caller of the four octets, and the loopback address of
the long form that of the short one; every other address is its own caller (`Address.caller`).  The
rendering of an address is the text of its caller (`originText_some`) and is read back as that, so
two addresses are rendered alike exactly when they have one caller.  Between addresses of the long
form this happens once, for the two loopback addresses: a gap never makes two of them one.
-/

namespace SignOn.Net

set_option autoImplicit false

/-! ## Octets in groups -/

/-- The group that two octets make up. -/
def groupOfOctets (high low : UInt8) : UInt16 :=
  high.toUInt16 <<< 8 ||| low.toUInt16

section Groups

variable (high low : UInt8)

theorem toNat_groupOfOctets : (groupOfOctets high low).toNat = high.toNat * 256 + low.toNat := by
  have small : high.toNat < 256 := high.toNat_lt
  have shifted : (high.toUInt16 <<< 8).toNat = high.toNat <<< 8 := by
    rw [UInt16.toNat_shiftLeft, UInt8.toNat_toUInt16]
    change high.toNat <<< 8 % 65536 = high.toNat <<< 8
    omega
  rw [groupOfOctets, UInt16.toNat_or, shifted, UInt8.toNat_toUInt16,
    ← Nat.shiftLeft_add_eq_or_of_lt low.toNat_lt, Nat.shiftLeft_eq]

theorem highOctet_groupOfOctets : (groupOfOctets high low >>> 8).toUInt8 = high := by
  have small : low.toNat < 256 := low.toNat_lt
  have alsoSmall : high.toNat < 256 := high.toNat_lt
  apply UInt8.toNat_inj.1
  rw [UInt16.toNat_toUInt8, UInt16.toNat_shiftRight, toNat_groupOfOctets]
  simp only [Nat.shiftRight_eq_div_pow]
  change (high.toNat * 256 + low.toNat) / 256 % 256 = high.toNat
  omega

theorem lowOctet_groupOfOctets : (groupOfOctets high low).toUInt8 = low := by
  have small : low.toNat < 256 := low.toNat_lt
  apply UInt8.toNat_inj.1
  rw [UInt16.toNat_toUInt8, toNat_groupOfOctets]
  omega

theorem groupOfOctets_octets (group : UInt16) :
    groupOfOctets (group >>> 8).toUInt8 group.toUInt8 = group := by
  have small : group.toNat < 65536 := group.toNat_lt
  apply UInt16.toNat_inj.1
  rw [toNat_groupOfOctets, UInt16.toNat_toUInt8, UInt16.toNat_toUInt8, UInt16.toNat_shiftRight]
  simp only [Nat.shiftRight_eq_div_pow]
  change group.toNat / 256 % 256 * 256 + group.toNat % 256 = group.toNat
  omega

end Groups

/-! ## Mapped addresses -/

/-- The address of the long form that maps four octets. -/
def Ipv4.mapped (octets : Ipv4) : Ipv6 :=
  ⟨[0, 0, 0, 0, 0, 0xFFFF, groupOfOctets octets.first octets.second,
    groupOfOctets octets.third octets.fourth], rfl⟩

/-- The four octets of the last two groups. -/
def Ipv6.lastOctets (long : Ipv6) : Ipv4 :=
  let high := long.groups.getD 6 0
  let low := long.groups.getD 7 0
  ⟨(high >>> 8).toUInt8, high.toUInt8, (low >>> 8).toUInt8, low.toUInt8⟩

theorem Ipv6.lastOctets_mapped (octets : Ipv4) : octets.mapped.lastOctets = octets := by
  simp [lastOctets, Ipv4.mapped, highOctet_groupOfOctets, lowOctet_groupOfOctets]

theorem Address.canonical_v6 (long : Ipv6) :
    (Address.v6 long).canonical =
      if long = long.lastOctets.mapped then .v4 long.lastOctets else .v6 long := by
  simp only [canonical]
  split
  · next high low groups =>
    have same : long = long.lastOctets.mapped := by
      obtain ⟨_, eight⟩ := long
      cases groups
      simp [Ipv4.mapped, Ipv6.lastOctets, groupOfOctets_octets]
    rw [if_pos same]
    simp [Ipv6.lastOctets, groups]
  · next noOctets =>
    have differs : long ≠ long.lastOctets.mapped := fun same =>
      noOctets _ _ (congrArg Ipv6.groups same)
    rw [if_neg differs]

/-! ## Callers -/

namespace Address

/-- The caller that an address stands for: four octets, if it maps them, and the short form of the
loopback address. -/
def caller : Address → Address
  | .v4 octets => .v4 octets
  | .v6 long =>
      if long = long.lastOctets.mapped then .v4 long.lastOctets
      else if long = Ipv6.loopback then .v4 Ipv4.loopback
      else .v6 long

theorem caller_mapped (octets : Ipv4) : caller (.v6 octets.mapped) = .v4 octets := by
  simp [caller, Ipv6.lastOctets_mapped]

theorem caller_loopback : caller (.v6 Ipv6.loopback) = .v4 Ipv4.loopback := by decide

theorem caller_v6_cases (long : Ipv6) :
    (∃ octets : Ipv4, long = octets.mapped ∧ caller (.v6 long) = .v4 octets) ∨
      (long = Ipv6.loopback ∧ caller (.v6 long) = .v4 Ipv4.loopback) ∨
      caller (.v6 long) = .v6 long := by
  simp only [caller]
  split_ifs with maps isLoopback
  · exact .inl ⟨long.lastOctets, maps, rfl⟩
  · exact .inr (.inl ⟨isLoopback, rfl⟩)
  · exact .inr (.inr rfl)

/-- A caller is its own caller. -/
theorem caller_caller (address : Address) : address.caller.caller = address.caller := by
  cases address with
  | v4 octets => rfl
  | v6 long =>
    obtain ⟨octets, -, found⟩ | ⟨-, found⟩ | itself := caller_v6_cases long
    · rw [found, caller]
    · rw [found, caller]
    · rw [itself, itself]

/-- Two addresses of the long form have one caller only if they are the same or both loopback. -/
theorem caller_v6_eq_iff (long other : Ipv6) :
    caller (.v6 long) = caller (.v6 other) ↔
      long = other ∨ (long = Ipv6.loopback ∧ other = Ipv4.loopback.mapped) ∨
        (long = Ipv4.loopback.mapped ∧ other = Ipv6.loopback) := by
  constructor
  · intro same
    -- Addresses of different kinds meet only where four octets are those of the loopback address.
    obtain ⟨octets, rfl, found⟩ | ⟨rfl, found⟩ | found := caller_v6_cases long <;>
      obtain ⟨others, rfl, otherFound⟩ | ⟨rfl, otherFound⟩ | otherFound := caller_v6_cases other <;>
      cases found.symm.trans (same.trans otherFound) <;> simp
  · rintro (rfl | ⟨rfl, rfl⟩ | ⟨rfl, rfl⟩)
    · rfl
    · rw [caller_loopback, caller_mapped]
    · rw [caller_loopback, caller_mapped]

end Address

/-! ## Renderings -/

/-- The rendering of an address is the text of its caller. -/
theorem originText_some (address : Address) : originText (some address) = address.caller.text := by
  cases address with
  | v4 octets => rfl
  | v6 long =>
    simp only [originText, Option.map_some, Address.canonical_v6, Address.caller]
    by_cases maps : long = long.lastOctets.mapped
    · simp only [if_pos maps]
    · simp only [if_neg maps]
      split <;> rfl

theorem ofText?_originText (address : Address) :
    Address.ofText? (originText (some address)) = some address.caller := by
  rw [originText_some, Address.ofText?_text]

theorem originText_eq_iff {address other : Address} :
    originText (some address) = originText (some other) ↔ address.caller = other.caller := by
  constructor
  · intro same
    have read := ofText?_originText address
    rw [same, ofText?_originText other] at read
    exact (Option.some.inj read).symm
  · intro same
    rw [originText_some, originText_some, same]

/-- The placeholder is no address. -/
theorem originText_eq_unknownOrigin_iff {origin : Option Address} :
    originText origin = unknownOrigin ↔ origin = none := by
  cases origin with
  | none => exact iff_of_true rfl rfl
  | some address =>
    refine iff_of_false (fun same => ?_) (Option.some_ne_none address)
    have unread : Address.ofText? unknownOrigin = none := by decide
    rw [← same, ofText?_originText] at unread
    cases unread

/-- **Origins in the audit trail tell the callers.**  The rendering of every address is read back as
the address of its caller, which is rendered the same again.  Two addresses are rendered alike exactly
when they have one caller, and only an unknown caller has the placeholder.  Different addresses of
the long form are never rendered alike, but for the loopback address and the one that maps the short
loopback address. -/
theorem originText_tells_caller :
    (∀ address : Address,
      Address.ofText? (originText (some address)) = some address.caller ∧
        originText (some address.caller) = originText (some address)) ∧
    (∀ address other : Address,
      originText (some address) = originText (some other) ↔ address.caller = other.caller) ∧
    (∀ origin : Option Address, originText origin = unknownOrigin ↔ origin = none) ∧
    ∀ long other : Ipv6, originText (some (.v6 long)) = originText (some (.v6 other)) ↔
      long = other ∨ (long = Ipv6.loopback ∧ other = Ipv4.loopback.mapped) ∨
        (long = Ipv4.loopback.mapped ∧ other = Ipv6.loopback) := by
  refine ⟨fun address => ⟨ofText?_originText address, ?_⟩, fun _ _ => originText_eq_iff,
    fun _ => originText_eq_unknownOrigin_iff, fun long other => ?_⟩
  · rw [originText_eq_iff, Address.caller_caller]
  · rw [originText_eq_iff, Address.caller_v6_eq_iff]

end SignOn.Net
