import Mathlib.Data.List.TakeWhile
import SignOn.Net.Address
import SignOn.Proofs.Text.Digits
import SignOn.Proofs.Text.Hex

/-!
# Addresses and their texts

Every address is read back from its text (`Address.ofText?_text`).  Four octets end where a point
follows.  The groups of the long form are read up to the gap or the end of the text; what the gap
left out is a run of zero groups that starts where the gap stands and is as long as the missing
groups, so the groups on both sides of it determine the address.
-/

namespace SignOn.Net

set_option autoImplicit false

variable {rest : List Char}

/-! ## Four octets -/

theorem readOctet_digits (octet : UInt8) (ends : Text.StartsOtherwise rest) :
    readOctet (Text.digits octet.toNat ++ rest) = some (octet, rest) := by
  have found : (Text.digits octet.toNat ++ rest).takeWhile Char.isDigit =
      Text.digits octet.toNat := by
    rw [List.takeWhile_append_of_pos (Text.digits_isDigit _), ends.takeWhile_isDigit,
      List.append_nil]
  have left : (Text.digits octet.toNat ++ rest).dropWhile Char.isDigit = rest := by
    rw [List.dropWhile_append_of_pos (Text.digits_isDigit _), ends.dropWhile_isDigit]
  have small : octet.toNat < 256 := octet.toNat_lt
  have short : (Text.digits octet.toNat).length ≤ 3 :=
    (Nat.length_toDigits_le_iff (by decide) (by decide)).2 (by omega)
  have plain := Text.not_leadingZero_digits octet.toNat
  simp only [readOctet, found, left, Text.valueOfDigits_digits]
  rw [if_neg, UInt8.ofNat_toNat]
  simp only [Bool.or_eq_true, Bool.and_eq_true, decide_eq_true_eq, List.isEmpty_iff, not_or]
  exact ⟨⟨⟨Text.digits_ne_nil _, by omega⟩, plain⟩, by omega⟩

theorem readIpv4_text (octets : Ipv4) : readIpv4 octets.text = some (octets, []) := by
  have point (characters : List Char) : Text.StartsOtherwise ('.' :: characters) := rfl
  have atEnd : Text.StartsOtherwise [] := trivial
  have last := readOctet_digits octets.fourth atEnd
  rw [List.append_nil] at last
  simp [readIpv4, Ipv4.text, readOctet_digits _ (point _), readCharacter, last]

/-- What is left behind an octet is an end of the text. -/
theorem readOctet_suffix {characters left : List Char} {octet : UInt8}
    (read : readOctet characters = some (octet, left)) : left <:+ characters := by
  simp only [readOctet] at read
  split at read
  · cases read
  · obtain ⟨-, rfl⟩ := Prod.mk.inj (Option.some.inj read)
    exact List.dropWhile_suffix _

theorem readCharacter_eq_none {character : Char} {characters : List Char}
    (absent : character ∉ characters) : readCharacter character characters = none := by
  cases characters with
  | nil => rfl
  | cons first rest => exact if_neg (List.ne_of_not_mem_cons absent).symm

/-- A text without points does not begin with four octets. -/
theorem readIpv4_eq_none {characters : List Char} (noPoint : '.' ∉ characters) :
    readIpv4 characters = none := by
  unfold readIpv4
  cases read : readOctet characters with
  | none => rfl
  | some found =>
    have noPointLeft : '.' ∉ found.2 := fun member => noPoint ((readOctet_suffix read).mem member)
    simp [readCharacter_eq_none noPointLeft]

/-! ## Groups -/

/-- No group goes on here: the text ends or a colon follows. -/
def EndsGroup : List Char → Prop
  | [] => True
  | first :: _ => first = ':'

theorem readGroup_hexOfNat (group : UInt16) (ends : EndsGroup rest) :
    readGroup (Text.hexOfNat group.toNat ++ rest) = some (group, rest) := by
  have areDigits : ∀ digit ∈ Text.hexOfNat group.toNat, (Text.hexValue? digit).isSome = true :=
    fun _ => Text.isSome_hexValue?_of_mem_hexOfNat
  have noDigit : rest.takeWhile (fun c => (Text.hexValue? c).isSome) = [] ∧
      rest.dropWhile (fun c => (Text.hexValue? c).isSome) = rest := by
    cases rest with
    | nil => exact ⟨rfl, rfl⟩
    | cons first rest =>
      obtain rfl : first = ':' := ends
      exact ⟨rfl, rfl⟩
  have small : group.toNat < 16 ^ 4 := group.toNat_lt
  have short : (Text.hexOfNat group.toNat).length ≤ 4 :=
    (Nat.length_toDigits_le_iff (by decide) (by decide)).2 small
  simp only [readGroup, List.takeWhile_append_of_pos areDigits,
    List.dropWhile_append_of_pos areDigits, noDigit, List.append_nil, Text.foldl_hexOfNat]
  rw [if_neg, UInt16.ofNat_toNat]
  simp only [Bool.or_eq_true, decide_eq_true_eq, List.isEmpty_iff, not_or]
  exact ⟨Text.hexOfNat_ne_nil _, by omega⟩

/-- Groups as a text goes on with them: each has a colon before it, but the first of a text. -/
def Ipv6.groupsFrom (isFirst : Bool) : List UInt16 → List Char
  | [] => []
  | group :: groups =>
      (if isFirst then [] else [':']) ++ Text.hexOfNat group.toNat ++ groupsFrom false groups

theorem Ipv6.groupsFrom_false_cons (group : UInt16) (groups : List UInt16) :
    groupsFrom false (group :: groups) = ':' :: groupsFrom true (group :: groups) :=
  rfl

theorem Ipv6.groupsText_eq (groups : List UInt16) : groupsText groups = groupsFrom true groups := by
  induction groups with
  | nil => rfl
  | cons group groups ih =>
    cases groups with
    | nil => simp [groupsText, groupsFrom, Text.joinWith]
    | cons next groups =>
      rw [groupsFrom, groupsFrom_false_cons, ← ih]
      rfl

theorem Ipv6.noPoint_groupsFrom (isFirst : Bool) (groups : List UInt16) :
    '.' ∉ groupsFrom isFirst groups := by
  induction groups generalizing isFirst with
  | nil => simp [groupsFrom]
  | cons group groups ih =>
    have noDigit : '.' ∉ Text.hexOfNat group.toNat := fun member =>
      absurd (Text.isSome_hexValue?_of_mem_hexOfNat member) (by decide)
    cases isFirst <;> simp [groupsFrom, noDigit, ih]

/-- What follows groups in a text: nothing, or the gap and more groups. -/
inductive FollowsGroups : List Char → Prop where
  | nothing : FollowsGroups []
  | gap (groups : List UInt16) : FollowsGroups (':' :: ':' :: Ipv6.groupsText groups)

namespace FollowsGroups

theorem noPoint (follows : FollowsGroups rest) : '.' ∉ rest := by
  cases follows with
  | nothing => simp
  | gap groups => simpa [Ipv6.groupsText_eq] using Ipv6.noPoint_groupsFrom true groups

theorem endsGroup (follows : FollowsGroups rest) (groups : List UInt16) :
    EndsGroup (Ipv6.groupsFrom false groups ++ rest) := by
  cases groups with
  | cons group groups => rfl
  | nil =>
    cases follows with
    | nothing => trivial
    | gap groups => rfl

/-- No further group is read. -/
theorem readGroups_eq (follows : FollowsGroups rest) (limit : Nat) (isFirst : Bool) :
    readGroups limit isFirst rest = ([], false, rest) := by
  have noOctets := readIpv4_eq_none follows.noPoint
  cases limit with
  | zero => rfl
  | succ limit =>
    cases follows with
    | nothing => cases isFirst <;> simp [readGroups, readCharacter, noOctets, readGroup]
    | gap groups =>
      have colonFirst (characters : List Char) : readGroup (':' :: characters) = none := rfl
      have noOctetsBehind : readIpv4 (':' :: Ipv6.groupsText groups) = none :=
        readIpv4_eq_none fun member => (gap groups).noPoint (List.mem_cons_of_mem _ member)
      cases isFirst <;> simp [readGroups, readCharacter, noOctets, noOctetsBehind, colonFirst]

end FollowsGroups

/-- Groups are read up to what follows them, where there is room for them. -/
theorem readGroups_groupsFrom {groups : List UInt16} (follows : FollowsGroups rest) {limit : Nat}
    (fits : groups.length ≤ limit) (isFirst : Bool) :
    readGroups limit isFirst (Ipv6.groupsFrom isFirst groups ++ rest) = (groups, false, rest) := by
  induction groups generalizing limit isFirst with
  | nil => exact follows.readGroups_eq limit isFirst
  | cons group groups ih =>
    obtain ⟨limit, rfl⟩ := Nat.exists_eq_add_of_le' (Nat.le_of_add_left_le fits)
    have noOctets : readIpv4
        (Text.hexOfNat group.toNat ++ (Ipv6.groupsFrom false groups ++ rest)) = none := by
      refine readIpv4_eq_none fun member => ?_
      rw [← List.append_assoc] at member
      obtain written | behind := List.mem_append.1 member
      · exact Ipv6.noPoint_groupsFrom true (group :: groups) written
      · exact follows.noPoint behind
    have later := ih (Nat.le_of_succ_le_succ fits) false
    have read := readGroup_hexOfNat group (follows.endsGroup groups)
    cases isFirst <;>
      simp [readGroups, Ipv6.groupsFrom, readCharacter, noOctets, read, later]

theorem readGroups_groupsText (follows : FollowsGroups rest) (groups : List UInt16) {limit : Nat}
    (fits : groups.length ≤ limit) :
    readGroups limit true (Ipv6.groupsText groups ++ rest) = (groups, false, rest) := by
  rw [Ipv6.groupsText_eq]
  exact readGroups_groupsFrom follows fits true

/-! ## The gap -/

namespace Ipv6

theorem eq_replicate_append_of_le_zerosInFront {groups : List UInt16} {count : Nat}
    (within : count ≤ zerosInFront groups) :
    groups = List.replicate count 0 ++ groups.drop count := by
  induction groups generalizing count with
  | nil =>
    obtain rfl : count = 0 := Nat.le_zero.1 within
    rfl
  | cons group groups ih =>
    cases count with
    | zero => rfl
    | succ count =>
      unfold zerosInFront at within ih
      by_cases zero : group = 0
      · rw [List.takeWhile_cons_of_pos (by simpa using zero), List.length_cons] at within
        rw [List.replicate_succ, List.cons_append, List.drop_succ_cons,
          ← ih (Nat.le_of_succ_le_succ within), zero]
      · rw [List.takeWhile_cons_of_neg (by simpa using zero)] at within
        exact absurd within (Nat.not_succ_le_zero _)

/-- The longest run is one: so many zero groups stand at its place. -/
theorem longestRun_le (groups : List UInt16) :
    (longestRun groups).2 ≤ zerosInFront (groups.drop (longestRun groups).1) := by
  unfold longestRun
  refine List.foldlRecOn
    (motive := fun best : Nat × Nat => best.2 ≤ zerosInFront (groups.drop best.1)) _ _
    (Nat.zero_le _) fun best run place _ => ?_
  split
  · exact le_rfl
  · exact run

/-- The groups that the gap leaves out are zeros. -/
theorem eq_of_longestRun (groups : List UInt16) :
    groups = groups.take (longestRun groups).1 ++ List.replicate (longestRun groups).2 0 ++
      groups.drop ((longestRun groups).1 + (longestRun groups).2) := by
  have zeros := eq_replicate_append_of_le_zerosInFront (longestRun_le groups)
  rw [List.drop_drop] at zeros
  rw [List.append_assoc, ← zeros, List.take_append_drop]

end Ipv6

/-! ## The long form -/

theorem Ipv6.ofGroups?_groups (address : Ipv6) : Ipv6.ofGroups? address.groups = some address :=
  dif_pos address.length_eq

section Long

variable {address : Ipv6}

/-- Groups on both sides of a gap are read with as many zero groups between them as are missing. -/
theorem readIpv6_gap {front back : List UInt16} {missing : Nat}
    (parts : address.groups = front ++ List.replicate missing 0 ++ back) (isGap : 2 ≤ missing) :
    readIpv6 (Ipv6.groupsText front ++ ':' :: ':' :: Ipv6.groupsText back) = some address := by
  have total : front.length + (missing + back.length) = 8 := by
    simpa [parts] using address.length_eq
  have readFront := readGroups_groupsText (.gap back) front (by omega : front.length ≤ 8)
  have readBack := readGroups_groupsText .nothing back
    (by omega : back.length ≤ 7 - front.length)
  rw [List.append_nil] at readBack
  have gap : 8 - front.length - back.length = missing := by omega
  simp only [readIpv6, readFront, readBack, gap]
  rw [if_neg (by omega), if_neg (by decide), ← parts, Ipv6.ofGroups?_groups]

theorem readIpv6_groupsText : readIpv6 (Ipv6.groupsText address.groups) = some address := by
  have read := readGroups_groupsText .nothing address.groups address.length_eq.le
  rw [List.append_nil] at read
  simp [readIpv6, read, address.length_eq, Ipv6.ofGroups?_groups]

variable (address)

theorem readIpv6_text : readIpv6 address.text = some address := by
  simp only [Ipv6.text]
  split
  · next isGap => exact readIpv6_gap (Ipv6.eq_of_longestRun address.groups) isGap
  · exact readIpv6_groupsText

theorem Ipv6.noPoint_text : '.' ∉ address.text := by
  have noPoint (groups : List UInt16) : '.' ∉ groupsText groups :=
    groupsText_eq groups ▸ noPoint_groupsFrom true groups
  simp only [text]
  split <;> simp [noPoint]

end Long

/-! ## Either form -/

/-- Every address is read back from its text. -/
theorem Address.ofText?_text (address : Address) : Address.ofText? address.text = some address := by
  cases address with
  | v4 octets => simp [Address.ofText?, Address.text, readIpv4_text]
  | v6 long =>
    simp [Address.ofText?, Address.text, readIpv4_eq_none long.noPoint_text, readIpv6_text]

-- Of two equally long runs the first is left out; a single zero group is not.
example : (Address.v6 ⟨[1, 0, 0, 2, 0, 0, 3, 0], rfl⟩).text = "1::2:0:0:3:0" := by decide

end SignOn.Net
