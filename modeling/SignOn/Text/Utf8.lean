/-!
# Texts as bytes

Signatures, hashes and wire formats see a text through its UTF-8 bytes.  `utf8` gives those bytes
and `ofUtf8?` reads them back, refusing every byte sequence that is not the encoding of a text, so
the two are inverse to each other where reading succeeds.  `ofUtf8Lossy` never refuses: it puts one
replacement character in the place of every longest piece that cannot be read.
-/

namespace SignOn.Text

set_option autoImplicit false

/-! ## Strict reading -/

/-- The UTF-8 bytes of a text. -/
def utf8 (text : String) : List UInt8 :=
  text.toByteArray.data.toList

/-- A text without the byte-order mark in front, if it has one. -/
def dropByteOrderMark : List Char → List Char
  | '\uFEFF' :: rest => rest
  | characters => characters

/-- The text that some bytes encode, if they encode one. -/
def ofUtf8? (bytes : List UInt8) : Option String :=
  String.fromUTF8? ⟨bytes.toArray⟩

theorem ofUtf8?_utf8 (text : String) : ofUtf8? (utf8 text) = some text := by
  have bytes : (⟨(utf8 text).toArray⟩ : ByteArray) = text.toByteArray := by simp [utf8]
  unfold ofUtf8?
  rw [bytes]
  unfold String.fromUTF8?
  rw [dif_pos text.isValidUTF8]
  rfl

theorem utf8_ofList (characters : List Char) :
    utf8 (String.ofList characters) = characters.flatMap String.utf8EncodeChar := by
  simp [utf8, List.utf8Encode]

/-! ## Lossy reading -/

/-- The ranges in which the bytes after a first byte lie, or nothing for a byte that starts no
character.  The ranges after `E0`, `ED`, `F0` and `F4` leave out overlong forms, surrogates and
values beyond the last code point. -/
def followers (first : UInt8) : Option (List (UInt8 × UInt8)) :=
  if first ≤ 0x7F then some []
  else if 0xC2 ≤ first && first ≤ 0xDF then some [(0x80, 0xBF)]
  else if first = 0xE0 then some [(0xA0, 0xBF), (0x80, 0xBF)]
  else if first = 0xED then some [(0x80, 0x9F), (0x80, 0xBF)]
  else if 0xE1 ≤ first && first ≤ 0xEF then some [(0x80, 0xBF), (0x80, 0xBF)]
  else if first = 0xF0 then some [(0x90, 0xBF), (0x80, 0xBF), (0x80, 0xBF)]
  else if first = 0xF4 then some [(0x80, 0x8F), (0x80, 0xBF), (0x80, 0xBF)]
  else if 0xF1 ≤ first && first ≤ 0xF3 then some [(0x80, 0xBF), (0x80, 0xBF), (0x80, 0xBF)]
  else none

/-- How many of the given ranges are met by the bytes in front, one byte a range. -/
def countMet : List (UInt8 × UInt8) → List UInt8 → Nat
  | range :: ranges, byte :: bytes =>
      if range.1 ≤ byte && byte ≤ range.2 then countMet ranges bytes + 1 else 0
  | _, _ => 0

/-- The text that some bytes encode, with one replacement character for every longest piece that
begins a character and does not complete it, and for every byte that begins none. -/
def ofUtf8Lossy (bytes : List UInt8) : String :=
  String.ofList (go bytes.length bytes)
where
  /-- Reads at most the given number of characters; every one takes a byte at least. -/
  go : Nat → List UInt8 → List Char
    | 0, _ => []
    | _ + 1, [] => []
    | count + 1, first :: rest =>
        match followers first with
        | none => '\uFFFD' :: go count rest
        | some ranges =>
            let met := countMet ranges rest
            if met = ranges.length then
              ((ofUtf8? (first :: rest.take met)).getD "").toList ++ go count (rest.drop met)
            else
              '\uFFFD' :: go count (rest.drop met)

end SignOn.Text
