import SignOn.Text.Utf8

/-!
# Texts and their bytes

A character of ASCII is one byte, which is its number.  Reading the encoding of a text in the lossy
way loses nothing (`ofUtf8Lossy_utf8`).  The first byte of a character tells the ranges of the bytes
that follow it (`isComplete_utf8EncodeChar`), so the characters are found one after another, whatever
follows them.
-/

namespace SignOn.Text

set_option autoImplicit false

/-! ## Bytes -/

/-- What holds of the byte of every number below 256 holds of every byte. -/
theorem forall_byte {property : UInt8 → Prop}
    (all : ∀ value < 256, property (UInt8.ofNat value)) (byte : UInt8) : property byte := by
  have found := all byte.toNat byte.toNat_lt
  rwa [UInt8.ofNat_toNat] at found

/-! ## Characters of ASCII -/

/-- A character of ASCII is one byte, which is its number. -/
theorem utf8EncodeChar_ascii {character : Char} (ascii : character.toNat < 0x80) :
    String.utf8EncodeChar character = [UInt8.ofNat character.toNat] := by
  unfold String.utf8EncodeChar
  exact if_pos (Nat.le_of_lt_succ ascii)

theorem ofNat_byte_ascii {character : Char} (ascii : character.toNat < 0x80) :
    Char.ofNat (UInt8.ofNat character.toNat).toNat = character := by
  have small : character.toNat < UInt8.size := Nat.lt_trans ascii (by decide)
  rw [UInt8.toNat_ofNat_of_lt' small, Char.ofNat_toNat]

/-- Characters of ASCII are bytes. -/
theorem utf8_ofList_ascii {characters : List Char}
    (ascii : ∀ character ∈ characters, character.toNat < 0x80) :
    utf8 (String.ofList characters) =
      characters.map fun character => UInt8.ofNat character.toNat := by
  rw [utf8_ofList]
  induction characters with
  | nil => rfl
  | cons character characters ih =>
    rw [List.flatMap_cons, utf8EncodeChar_ascii (ascii character List.mem_cons_self),
      ih fun other member => ascii other (List.mem_cons_of_mem _ member)]
    rfl

/-! ## First bytes -/

theorem followers_ascii : ∀ value < 0x80, followers (UInt8.ofNat value) = some [] := by
  decide +kernel

theorem followers_two : ∀ value < 0xE0, 0xC2 ≤ value →
    followers (UInt8.ofNat value) = some [(.ofNat 0x80, .ofNat 0xBF)] := by
  decide +kernel

theorem followers_three : ∀ value < 0xF0, 0xE0 ≤ value →
    followers (UInt8.ofNat value) =
      some [(.ofNat (if value = 0xE0 then 0xA0 else 0x80),
          .ofNat (if value = 0xED then 0x9F else 0xBF)),
        (.ofNat 0x80, .ofNat 0xBF)] := by
  decide +kernel

theorem followers_four : ∀ value < 0xF5, 0xF0 ≤ value →
    followers (UInt8.ofNat value) =
      some [(.ofNat (if value = 0xF0 then 0x90 else 0x80),
          .ofNat (if value = 0xF4 then 0x8F else 0xBF)),
        (.ofNat 0x80, .ofNat 0xBF), (.ofNat 0x80, .ofNat 0xBF)] := by
  decide +kernel

theorem countMet_cons {low high value : Nat} {ranges : List (UInt8 × UInt8)}
    {bytes : List UInt8} (small : high < 256) (above : low ≤ value) (below : value ≤ high) :
    countMet ((.ofNat low, .ofNat high) :: ranges) (.ofNat value :: bytes) =
      countMet ranges bytes + 1 := by
  have exact (number : Nat) (least : number ≤ high) : (UInt8.ofNat number).toNat = number := by
    rw [UInt8.toNat_ofNat', Nat.mod_eq_of_lt (Nat.lt_of_le_of_lt least small)]
  rw [countMet, if_pos]
  rw [Bool.and_eq_true, decide_eq_true_iff, decide_eq_true_iff, UInt8.le_iff_toNat_le,
    UInt8.le_iff_toNat_le, exact value below, exact high (Nat.le_refl high),
    exact low (Nat.le_trans above below)]
  exact ⟨above, below⟩

theorem countMet_nil (bytes : List UInt8) : countMet [] bytes = 0 := by
  cases bytes <;> rfl

/-! ## Characters -/

/-- Some bytes are a first byte and bytes that meet all of its ranges, whatever comes after them. -/
def IsComplete (bytes : List UInt8) : Prop :=
  ∃ first rest ranges, bytes = first :: rest ∧ followers first = some ranges ∧
    ranges.length = rest.length ∧ ∀ more, countMet ranges (rest ++ more) = ranges.length

/-- The bytes of a character are complete. -/
theorem isComplete_utf8EncodeChar (character : Char) :
    IsComplete (String.utf8EncodeChar character) := by
  have valid : character.val.toNat < 0xD800 ∨
      0xDFFF < character.val.toNat ∧ character.val.toNat < 0x110000 := character.valid
  unfold String.utf8EncodeChar
  generalize character.val.toNat = value at valid
  dsimp only
  split
  · next ascii =>
    exact ⟨_, [], [], rfl, followers_ascii value (by omega), rfl, countMet_nil⟩
  · split
    · refine ⟨_, _, _, rfl, followers_two _ (by omega) (by omega), rfl, fun more => ?_⟩
      simp only [List.cons_append, List.nil_append]
      rw [countMet_cons (by decide) (by omega) (by omega), countMet_nil]
      rfl
    · split
      · refine ⟨_, _, _, rfl, followers_three _ (by omega) (by omega), rfl, fun more => ?_⟩
        simp only [List.cons_append, List.nil_append]
        rw [countMet_cons (by split <;> decide) (by split <;> omega) (by split <;> omega),
          countMet_cons (by decide) (by omega) (by omega), countMet_nil]
        rfl
      · refine ⟨_, _, _, rfl, followers_four _ (by omega) (by omega), rfl, fun more => ?_⟩
        simp only [List.cons_append, List.nil_append]
        rw [countMet_cons (by split <;> decide) (by split <;> omega) (by split <;> omega),
          countMet_cons (by decide) (by omega) (by omega),
          countMet_cons (by decide) (by omega) (by omega), countMet_nil]
        rfl

/-! ## Texts -/

/-- The characters of a text are read one after another. -/
theorem go_flatMap_utf8EncodeChar (characters : List Char) {count : Nat}
    (enough : characters.length ≤ count) :
    ofUtf8Lossy.go count (characters.flatMap String.utf8EncodeChar) = characters := by
  induction characters generalizing count with
  | nil => cases count <;> rfl
  | cons character characters ih =>
    cases count with
    | zero => cases enough
    | succ count =>
      obtain ⟨first, rest, ranges, bytes, told, length, met⟩ :=
        isComplete_utf8EncodeChar character
      have read : ofUtf8? (first :: rest) = some (String.ofList [character]) := by
        rw [← bytes, ← ofUtf8?_utf8, utf8_ofList, List.flatMap_singleton]
      rw [List.flatMap_cons, bytes, List.cons_append, ofUtf8Lossy.go, told]
      dsimp only
      rw [if_pos (met _), met, length, List.take_left, List.drop_left, read,
        ih (Nat.le_of_succ_le_succ enough), Option.getD_some, String.toList_ofList]
      rfl

/-- Every character takes a byte at least. -/
theorem length_le_flatMap_utf8EncodeChar (characters : List Char) :
    characters.length ≤ (characters.flatMap String.utf8EncodeChar).length := by
  induction characters with
  | nil => exact Nat.le_refl _
  | cons character characters ih =>
    obtain ⟨first, rest, _, bytes, _⟩ := isComplete_utf8EncodeChar character
    rw [List.flatMap_cons, bytes]
    simp only [List.length_cons, List.length_append]
    omega

/-- **Lossy reading of the encoding of a text loses nothing.** -/
theorem ofUtf8Lossy_utf8 (text : String) : ofUtf8Lossy (utf8 text) = text := by
  have bytes : utf8 text = text.toList.flatMap String.utf8EncodeChar := by
    rw [← utf8_ofList, String.ofList_toList]
  rw [ofUtf8Lossy, bytes, go_flatMap_utf8EncodeChar _ (length_le_flatMap_utf8EncodeChar _),
    String.ofList_toList]

end SignOn.Text
