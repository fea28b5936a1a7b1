import Mathlib.Tactic.SplitIfs
import SignOn.Text.Base64Url
import SignOn.Text.Blank

/-!
# Base64 texts are canonical

Reading accepts exactly the texts that writing produces: every sequence of bytes is read back from
the text that writes it, and no other text is read (`decode_eq_some_iff`).  In particular a part
of a credential has no second spelling, and none contains a point.
-/

namespace SignOn.Text.Base64Url

set_option autoImplicit false

/-! ## The alphabet -/

theorem value?_digit : ∀ value < 64, value? (digit value) = some value := by decide

/-- A character of the alphabet is the one that writes its value. -/
theorem digit_of_value? {character : Char} {value : Nat} (read : value? character = some value) :
    value < 64 ∧ digit value = character := by
  have between (first last : Char) (within : first ≤ character ∧ character ≤ last) :
      first.toNat ≤ character.toNat ∧ character.toNat ≤ last.toNat :=
    ⟨UInt32.le_iff_toNat_le.1 within.1, UInt32.le_iff_toNat_le.1 within.2⟩
  unfold value? at read
  split_ifs at read with upper lower number dash low
  · obtain ⟨least, greatest⟩ := between _ _ upper
    change 65 ≤ character.toNat at least
    change character.toNat ≤ 90 at greatest
    obtain rfl := Option.some.inj read
    refine ⟨by omega, ?_⟩
    rw [digit, if_pos (by omega), show 65 + (character.toNat - 65) = character.toNat by omega,
      Char.ofNat_toNat]
  · obtain ⟨least, greatest⟩ := between _ _ lower
    change 97 ≤ character.toNat at least
    change character.toNat ≤ 122 at greatest
    obtain rfl := Option.some.inj read
    refine ⟨by omega, ?_⟩
    rw [digit, if_neg (by omega), if_pos (by omega),
      show 71 + (character.toNat - 71) = character.toNat by omega, Char.ofNat_toNat]
  · obtain ⟨least, greatest⟩ := between _ _ number
    change 48 ≤ character.toNat at least
    change character.toNat ≤ 57 at greatest
    obtain rfl := Option.some.inj read
    refine ⟨by omega, ?_⟩
    rw [digit, if_neg (by omega), if_neg (by omega), if_pos (by omega),
      show character.toNat + 4 - 4 = character.toNat by omega, Char.ofNat_toNat]
  · obtain rfl := Option.some.inj read
    exact ⟨by decide, dash.symm⟩
  · obtain rfl := Option.some.inj read
    exact ⟨by decide, low.symm⟩

/-! ## Characters and values -/

/-- Characters that are read to values are the ones that write them. -/
theorem values?_eq_some {characters : List Char} {values : List Nat}
    (read : values? characters = some values) :
    (∀ value ∈ values, value < 64) ∧ characters = values.map digit := by
  induction characters generalizing values with
  | nil =>
    obtain rfl := Option.some.inj read
    simp
  | cons character rest ih =>
    unfold values? at read
    split at read
    · next value values first others =>
      obtain rfl := Option.some.inj read
      obtain ⟨small, written⟩ := digit_of_value? first
      obtain ⟨allSmall, allWritten⟩ := ih others
      exact ⟨by simpa using ⟨small, allSmall⟩, by rw [List.map_cons, written, ← allWritten]⟩
    · cases read

theorem values?_map_digit {values : List Nat} (small : ∀ value ∈ values, value < 64) :
    values? (values.map digit) = some values := by
  induction values with
  | nil => rfl
  | cons value rest ih =>
    have first := value?_digit value (small value (by simp))
    have others := ih fun other member => small other (by simp [member])
    simp only [List.map_cons, values?, first, others]

/-! ## Values and bytes -/

/-- The values that write some bytes. -/
def valuesOfBytes : List UInt8 → List Nat
  | first :: second :: third :: rest =>
      first.toNat / 4 :: (first.toNat % 4 * 16 + second.toNat / 16) ::
        (second.toNat % 16 * 4 + third.toNat / 64) :: third.toNat % 64 :: valuesOfBytes rest
  | [first, second] =>
      [first.toNat / 4, first.toNat % 4 * 16 + second.toNat / 16, second.toNat % 16 * 4]
  | [first] => [first.toNat / 4, first.toNat % 4 * 16]
  | [] => []

theorem encode_eq_map (bytes : List UInt8) : encode bytes = (valuesOfBytes bytes).map digit := by
  fun_induction encode bytes with
  | case1 first second third rest ih => simp only [valuesOfBytes, List.map_cons, ih]
  | case2 first second => rfl
  | case3 first => rfl
  | case4 => rfl

theorem valuesOfBytes_lt (bytes : List UInt8) : ∀ value ∈ valuesOfBytes bytes, value < 64 := by
  fun_induction valuesOfBytes bytes with
  | case1 first second third rest ih =>
    have bounds := And.intro first.toNat_lt (And.intro second.toNat_lt third.toNat_lt)
    simp only [List.mem_cons, forall_eq_or_imp]
    exact ⟨by omega, by omega, by omega, by omega, ih⟩
  | case2 first second =>
    have bounds := And.intro first.toNat_lt second.toNat_lt
    simp only [List.mem_cons, forall_eq_or_imp, List.not_mem_nil, false_implies, implies_true,
      and_true]
    exact ⟨by omega, by omega, by omega⟩
  | case3 first =>
    have bound := first.toNat_lt
    simp only [List.mem_cons, forall_eq_or_imp, List.not_mem_nil, false_implies, implies_true,
      and_true]
    exact ⟨by omega, by omega⟩
  | case4 => simp

/-- A byte that is put together from a number is the one with that number. -/
theorem ofNat_eq (byte : UInt8) {value : Nat} (same : value = byte.toNat) :
    UInt8.ofNat value = byte := by
  rw [same, UInt8.ofNat_toNat]

theorem toNat_ofNat {value : Nat} (small : value < 256) : (UInt8.ofNat value).toNat = value :=
  UInt8.toNat_ofNat_of_lt' small

theorem bytesOfValues_valuesOfBytes (bytes : List UInt8) :
    bytesOfValues (valuesOfBytes bytes) = some bytes := by
  fun_induction valuesOfBytes bytes with
  | case1 first second third rest ih =>
    have bounds := And.intro first.toNat_lt (And.intro second.toNat_lt third.toNat_lt)
    rw [bytesOfValues, ih, Option.map_some, ofNat_eq first (by omega),
      ofNat_eq second (by omega), ofNat_eq third (by omega)]
  | case2 first second =>
    have bounds := And.intro first.toNat_lt second.toNat_lt
    rw [bytesOfValues, if_pos (by omega), ofNat_eq first (by omega),
      ofNat_eq second (by omega)]
  | case3 first =>
    have bound := first.toNat_lt
    rw [bytesOfValues, if_pos (by omega), ofNat_eq first (by omega)]
  | case4 => rfl

/-- Values of six bits that spell some bytes are the ones that write them. -/
theorem bytesOfValues_eq_some {values : List Nat} {bytes : List UInt8}
    (small : ∀ value ∈ values, value < 64) (spelled : bytesOfValues values = some bytes) :
    values = valuesOfBytes bytes := by
  fun_induction bytesOfValues values generalizing bytes with
  | case1 a b c d rest ih =>
    obtain ⟨others, spelledRest, rfl⟩ := Option.map_eq_some_iff.1 spelled
    simp only [List.mem_cons, forall_eq_or_imp] at small
    obtain ⟨smallA, smallB, smallC, smallD, smallRest⟩ := small
    rw [valuesOfBytes, ← ih smallRest spelledRest, toNat_ofNat (by omega),
      toNat_ofNat (by omega), toNat_ofNat (by omega)]
    simp only [List.cons.injEq, and_true]
    exact ⟨by omega, by omega, by omega, by omega⟩
  | case2 a b c exact =>
    obtain rfl := Option.some.inj spelled
    simp only [List.mem_cons, forall_eq_or_imp, List.not_mem_nil, false_implies, implies_true,
      and_true]
      at small
    rw [valuesOfBytes, toNat_ofNat (by omega), toNat_ofNat (by omega)]
    simp only [List.cons.injEq, and_true]
    exact ⟨by omega, by omega, by omega⟩
  | case3 => cases spelled
  | case4 a b exact =>
    obtain rfl := Option.some.inj spelled
    simp only [List.mem_cons, forall_eq_or_imp, List.not_mem_nil, false_implies, implies_true,
      and_true]
      at small
    rw [valuesOfBytes, toNat_ofNat (by omega)]
    simp only [List.cons.injEq, and_true]
    exact ⟨by omega, by omega⟩
  | case5 => cases spelled
  | case6 => cases spelled
  | case7 =>
    obtain rfl := Option.some.inj spelled
    rfl

/-! ## Texts and bytes -/

theorem decode_encode (bytes : List UInt8) : decode (encode bytes) = some bytes := by
  rw [decode, encode_eq_map, values?_map_digit (valuesOfBytes_lt bytes), Option.bind_some,
    bytesOfValues_valuesOfBytes]

/-- A text is read to some bytes exactly when it is what they are written as. -/
theorem decode_eq_some_iff {characters : List Char} {bytes : List UInt8} :
    decode characters = some bytes ↔ characters = encode bytes := by
  constructor
  · intro read
    obtain ⟨values, ofCharacters, ofValues⟩ := Option.bind_eq_some_iff.1 read
    obtain ⟨small, rfl⟩ := values?_eq_some ofCharacters
    rw [encode_eq_map, ← bytesOfValues_eq_some small ofValues]
  · rintro rfl
    exact decode_encode bytes

theorem decode_eq_none_iff {characters : List Char} :
    decode characters = none ↔ ∀ bytes, characters ≠ encode bytes := by
  rw [Option.eq_none_iff_forall_ne_some]
  exact forall_congr' fun bytes => not_congr decode_eq_some_iff

theorem encode_injective : Function.Injective encode := by
  intro first second same
  exact Option.some.inj (by rw [← decode_encode first, same, decode_encode])

/-- Every character of a base64 text is one of the alphabet. -/
theorem exists_digit_of_mem_encode {character : Char} {bytes : List UInt8}
    (member : character ∈ encode bytes) : ∃ value < 64, digit value = character := by
  rw [encode_eq_map, List.mem_map] at member
  obtain ⟨value, inside, same⟩ := member
  exact ⟨value, valuesOfBytes_lt bytes value inside, same⟩

theorem point_notMem_encode (bytes : List UInt8) : '.' ∉ encode bytes := by
  intro member
  obtain ⟨value, small, same⟩ := exists_digit_of_mem_encode member
  have found := value?_digit value small
  rw [same] at found
  exact absurd found (by decide +revert)

theorem not_isBlank_digit : ∀ value < 64, isBlank (digit value) = false := by decide

theorem not_isBlank_of_mem_encode {character : Char} {bytes : List UInt8}
    (member : character ∈ encode bytes) : isBlank character = false := by
  obtain ⟨value, small, rfl⟩ := exists_digit_of_mem_encode member
  exact not_isBlank_digit value small

end SignOn.Text.Base64Url
