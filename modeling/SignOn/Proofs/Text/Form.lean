import SignOn.Proofs.Text.Hex
import SignOn.Proofs.Text.Utf8
import SignOn.Text.Form

/-!
# Reading what was written in the form encoding

Undoing the escapes of a text gives its bytes back, as long as a percent sign and all bytes beyond
ASCII are escaped (`Percent.decode_encode`).  In the form encoding no name and no value holds an
ampersand or an equals sign, so cutting at these finds the named values again, whatever they are
(`Form.decode_encode`).
-/

namespace SignOn.Text

set_option autoImplicit false

/-! ## Cutting at a separator -/

section Cutting

variable {separator : Char} {piece : List Char}

theorem splitOn_of_notMem (absent : separator ∉ piece) : splitOn separator piece = [piece] := by
  induction piece with
  | nil => rfl
  | cons character rest ih =>
    have differs : character ≠ separator := fun same => absent (same ▸ List.mem_cons_self)
    rw [splitOn, if_neg differs, ih (List.not_mem_of_not_mem_cons absent)]

theorem splitOn_append (absent : separator ∉ piece) (rest : List Char) :
    splitOn separator (piece ++ separator :: rest) = piece :: splitOn separator rest := by
  induction piece with
  | nil => rw [List.nil_append, splitOn, if_pos rfl]
  | cons character piece ih =>
    have differs : character ≠ separator := fun same => absent (same ▸ List.mem_cons_self)
    rw [List.cons_append, splitOn, if_neg differs, ih (List.not_mem_of_not_mem_cons absent)]

/-- Pieces without the separator are found again, if there are any. -/
theorem splitOn_joinWith {pieces : List (List Char)} (some : pieces ≠ [])
    (absent : ∀ piece ∈ pieces, separator ∉ piece) :
    splitOn separator (joinWith separator pieces) = pieces := by
  induction pieces with
  | nil => exact absurd rfl some
  | cons piece rest ih =>
    have first := absent piece List.mem_cons_self
    cases rest with
    | nil => exact splitOn_of_notMem first
    | cons next rest =>
      rw [joinWith, splitOn_append first,
        ih (List.cons_ne_nil _ _) fun other member => absent other (List.mem_cons_of_mem _ member)]
      exact List.cons_ne_nil _ _

end Cutting

/-! ## Escapes -/

namespace Percent

theorem hexValue?_upperHexDigit : ∀ value < 16, hexValue? (upperHexDigit value) = some value := by
  decide

theorem toNat_ofNat_ascii : ∀ value < 0x80, (Char.ofNat value).toNat = value := by decide

theorem toNat_upperHexDigit_lt : ∀ value < 16, (upperHexDigit value).toNat < 0x80 := by decide

/-- A byte that begins no escape stands for itself. -/
theorem decodeBytes_cons {byte : UInt8} (plain : byte ≠ 0x25) (rest : List UInt8) :
    decodeBytes (byte :: rest) = byte :: decodeBytes rest := by
  cases rest with
  | nil => rfl
  | cons second rest =>
    cases rest with
    | nil => rfl
    | cons third rest => rw [decodeBytes, escaped?, if_neg plain]

/-- An escape stands for its byte. -/
theorem decodeBytes_escape (byte : UInt8) (rest : List UInt8) :
    decodeBytes (((escape byte).map fun character => UInt8.ofNat character.toNat) ++ rest) =
      byte :: decodeBytes rest := by
  have small := byte.toNat_lt
  have high : byte.toNat / 16 < 16 := by omega
  have low : byte.toNat % 16 < 16 := by omega
  simp only [escape, List.map_cons, List.map_nil, List.cons_append, List.nil_append]
  rw [decodeBytes, escaped?, if_pos (by decide), ofNat_byte_ascii (toNat_upperHexDigit_lt _ high),
    ofNat_byte_ascii (toNat_upperHexDigit_lt _ low), hexValue?_upperHexDigit _ high,
    hexValue?_upperHexDigit _ low]
  dsimp only
  rw [Nat.div_add_mod, UInt8.ofNat_toNat]

variable {escaped : UInt8 → Bool}

theorem toNat_lt_of_mem_escape {byte : UInt8} {character : Char} (member : character ∈ escape byte) :
    character.toNat < 0x80 := by
  have small := byte.toNat_lt
  simp only [escape, List.mem_cons, List.not_mem_nil, or_false] at member
  rcases member with rfl | rfl | rfl
  · decide
  · exact toNat_upperHexDigit_lt _ (by omega)
  · exact toNat_upperHexDigit_lt _ (by omega)

/-- A test escapes the percent sign and every byte beyond ASCII. -/
def IsSound (escaped : UInt8 → Bool) : Prop :=
  ∀ byte, escaped byte = false → byte.toNat < 0x80 ∧ byte ≠ 0x25

/-- What is written with escapes is ASCII. -/
theorem toNat_lt_of_mem_encodeBytes (sound : IsSound escaped) {bytes : List UInt8}
    {character : Char} (member : character ∈ encodeBytes escaped bytes) :
    character.toNat < 0x80 := by
  obtain ⟨byte, _, written⟩ := List.mem_flatMap.1 member
  split at written
  · exact toNat_lt_of_mem_escape written
  · next plain =>
    obtain rfl := List.mem_singleton.1 written
    have ascii := (sound byte (Bool.eq_false_iff.2 plain)).1
    rwa [toNat_ofNat_ascii _ ascii]

/-- **Undoing the escapes of a text gives its bytes back.** -/
theorem decode_encode (sound : IsSound escaped) (text : String) :
    decode (encode escaped text) = utf8 text := by
  rw [decode, encode, utf8_ofList_ascii fun _ member => toNat_lt_of_mem_encodeBytes sound member]
  induction utf8 text with
  | nil => rfl
  | cons byte bytes ih =>
    rw [encodeBytes, List.flatMap_cons, List.map_append]
    split
    · rw [decodeBytes_escape]
      exact congrArg _ ih
    · next plain =>
      obtain ⟨ascii, notPercent⟩ := sound byte (Bool.eq_false_iff.2 plain)
      rw [List.map_singleton, toNat_ofNat_ascii _ ascii, UInt8.ofNat_toNat, List.singleton_append,
        decodeBytes_cons notPercent]
      exact congrArg _ ih

end Percent

/-! ## Forms -/

namespace Form

/-- The characters in which names and values are written. -/
def isWritten (character : Char) : Bool :=
  character.isAlphanum || "*-._+%".toList.contains character

theorem isWritten_encodeByte : ∀ byte, (encodeByte byte).all isWritten = true :=
  forall_byte (by decide +kernel)

theorem isWritten_of_mem_encodeText {text : String} {character : Char}
    (member : character ∈ encodeText text) : isWritten character = true := by
  obtain ⟨byte, _, written⟩ := List.mem_flatMap.1 member
  exact List.all_eq_true.1 (isWritten_encodeByte byte) character written

theorem notMem_encodeText {text : String} {mark : Char} (unwritten : isWritten mark = false) :
    mark ∉ encodeText text := by
  intro member
  rw [isWritten_of_mem_encodeText member] at unwritten
  cases unwritten

/-- The bytes that are escaped once a space stands for itself again. -/
def isEscaped (byte : UInt8) : Bool := byte ≠ 0x20 && !isPlain byte

theorem isSound_isEscaped : Percent.IsSound isEscaped := forall_byte (by decide +kernel)

theorem encodeByte_spaced : ∀ byte,
    ((encodeByte byte).map fun c => if c = '+' then ' ' else c) =
      if isEscaped byte then Percent.escape byte else [Char.ofNat byte.toNat] :=
  forall_byte (by decide +kernel)

/-- With spaces in the place of plus signs, what is written is a text with escapes. -/
theorem encodeText_spaced (text : String) :
    ((encodeText text).map fun c => if c = '+' then ' ' else c) = Percent.encode isEscaped text := by
  rw [encodeText, List.map_flatMap, Percent.encode, Percent.encodeBytes]
  congr 1
  funext byte
  exact encodeByte_spaced byte

theorem decodeText_encodeText (text : String) : decodeText (encodeText text) = text := by
  rw [decodeText, encodeText_spaced, Percent.decode_encode isSound_isEscaped, ofUtf8Lossy_utf8]

theorem decodePair_encodePair (pair : String × String) : decodePair (encodePair pair) = pair := by
  rw [decodePair, encodePair, splitFirst?_append (notMem_encodeText (by decide))]
  dsimp only
  rw [decodeText_encodeText, decodeText_encodeText]

theorem ampersand_notMem_encodePair (pair : String × String) : '&' ∉ encodePair pair := by
  intro member
  rcases List.mem_append.1 member with name | rest
  · exact notMem_encodeText (by decide) name
  · rcases List.mem_cons.1 rest with same | value
    · exact absurd same (by decide)
    · exact notMem_encodeText (by decide) value

/-- **Reading named values that were written gives them back**, whatever the names and values are. -/
theorem decode_encode (pairs : List (String × String)) : decode (encode pairs) = pairs := by
  cases pairs with
  | nil => rfl
  | cons pair pairs =>
    have pieces : splitOn '&' (joinWith '&' ((pair :: pairs).map encodePair)) =
        (pair :: pairs).map encodePair := by
      refine splitOn_joinWith (List.cons_ne_nil _ _) ?_
      intro piece member
      obtain ⟨written, _, rfl⟩ := List.mem_map.1 member
      exact ampersand_notMem_encodePair written
    have nonempty : ((pair :: pairs).map encodePair).filter (fun piece => !piece.isEmpty) =
        (pair :: pairs).map encodePair := by
      refine List.filter_eq_self.2 ?_
      intro piece member
      obtain ⟨written, _, rfl⟩ := List.mem_map.1 member
      simp [encodePair]
    rw [decode, encode, pieces, nonempty, List.map_map]
    have back : decodePair ∘ encodePair = id := funext decodePair_encodePair
    rw [back, List.map_id]

/-! ### A reader that passes nothing over -/

/-- The text of an encoded name or value, if its bytes spell one. -/
def readText? (characters : List Char) : Option String :=
  ofUtf8? (Percent.decode (characters.map fun c => if c = '+' then ' ' else c))

/-- The name and the value of a piece that has an equals sign. -/
def readPair? (characters : List Char) : Option (String × String) := do
  let (name, value) ← splitFirst? '=' characters
  some (← readText? name, ← readText? value)

/-- The named values of a text each of whose pieces names a value. -/
def read? (characters : List Char) : Option (List (String × String)) :=
  (splitOn '&' characters).mapM readPair?

theorem readText?_encodeText (text : String) : readText? (encodeText text) = some text := by
  rw [readText?, encodeText_spaced, Percent.decode_encode isSound_isEscaped, ofUtf8?_utf8]

theorem readPair?_encodePair (pair : String × String) :
    readPair? (encodePair pair) = some pair := by
  rw [readPair?, encodePair, splitFirst?_append (notMem_encodeText (by decide))]
  simp only [Option.bind_eq_bind, Option.bind_some, readText?_encodeText]

theorem mapM_readPair?_encodePair (pairs : List (String × String)) :
    (pairs.map encodePair).mapM readPair? = some pairs := by
  induction pairs with
  | nil => rfl
  | cons pair pairs ih =>
    rw [List.map_cons, List.mapM_cons, readPair?_encodePair, ih]
    rfl

/-- A reader that passes nothing over gives named values back as well, if there are any. -/
theorem read?_encode {pairs : List (String × String)} (named : pairs ≠ []) :
    read? (encode pairs) = some pairs := by
  rw [read?, encode, splitOn_joinWith (mt List.map_eq_nil_iff.1 named),
    mapM_readPair?_encodePair]
  intro piece member
  obtain ⟨written, _, rfl⟩ := List.mem_map.1 member
  exact ampersand_notMem_encodePair written

end Form

end SignOn.Text
