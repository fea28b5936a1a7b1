import Mathlib.Tactic.IntervalCases
import SignOn.Json.Token
import SignOn.Proofs.Json.Integer
import SignOn.Proofs.Text.Hex
import SignOn.Proofs.Text.Utf8

/-!
# The tokens of a written value

A value that is written out is read back as the tokens that spell it (`tokens?_write`).  This
holds of every *plain* value: one made of null, truth values, texts of any characters, integers of
sixty-four bits, arrays and objects.

A number or a word ends only with the byte behind it, so a lexer that has read one still waits.
What counts is that it has read certain tokens and nothing beyond them: it can finish with them,
and it takes a comma or a closing bracket as if it stood between tokens (`Lexer.HasRead`).
-/

namespace SignOn.Json

set_option autoImplicit false

open Text (utf8EncodeChar_ascii ofNat_byte_ascii)

/-! ## Plain values and their tokens -/

mutual

/-- Values whose text denotes just them. -/
def IsPlain : Json → Prop
  | .null | .boolean _ | .string _ => True
  | .number (.integer value) => Number.Fits value
  | .number (.real _ _) | .number (.tooLarge _) | .unreadable _ => False
  | .array items => ArePlain items
  | .object members => HavePlain members

/-- Items that are plain. -/
def ArePlain : List Json → Prop
  | [] => True
  | item :: rest => IsPlain item ∧ ArePlain rest

/-- Members whose values are plain. -/
def HavePlain : List (String × Json) → Prop
  | [] => True
  | (_, value) :: rest => IsPlain value ∧ HavePlain rest

end

/-- The pieces that spell a character: its number for a control without a letter of its own, and its
bytes for all others. -/
def piecesOfCharacter (character : Char) : List Piece :=
  if character.toNat < 0x20 ∧ character ∉ ['\x08', '\x0c', '\n', '\r', '\t'] then
    [.unit character.toNat]
  else (String.utf8EncodeChar character).map .byte

/-- The pieces that spell a text. -/
def piecesOfText (text : String) : List Piece :=
  text.toList.flatMap piecesOfCharacter

mutual

/-- The tokens that spell a plain value. -/
def tokensOf : Json → List Token
  | .null => [.null]
  | .boolean value => [.boolean value]
  | .number value => [.number value]
  | .string text => [.string (piecesOfText text)]
  | .array items => .leftBracket :: tokensOfItems items ++ [.rightBracket]
  | .object members => .leftBrace :: tokensOfMembers members ++ [.rightBrace]
  | .unreadable _ => []

/-- The tokens that spell items, with commas between them. -/
def tokensOfItems : List Json → List Token
  | [] => []
  | [item] => tokensOf item
  | item :: next :: rest => tokensOf item ++ .comma :: tokensOfItems (next :: rest)

/-- The tokens that spell members, with commas between them. -/
def tokensOfMembers : List (String × Json) → List Token
  | [] => []
  | [(name, value)] => .string (piecesOfText name) :: .colon :: tokensOf value
  | (name, value) :: next :: rest =>
      .string (piecesOfText name) :: .colon :: tokensOf value ++
        .comma :: tokensOfMembers (next :: rest)

end

/-! ## Bytes of characters -/

/-- The bytes of a sequence of characters. -/
def bytesOf (characters : List Char) : List UInt8 :=
  characters.flatMap String.utf8EncodeChar

@[simp] theorem bytesOf_nil : bytesOf [] = [] := rfl

@[simp] theorem bytesOf_cons (character : Char) (rest : List Char) :
    bytesOf (character :: rest) = String.utf8EncodeChar character ++ bytesOf rest := rfl

@[simp] theorem bytesOf_append (first second : List Char) :
    bytesOf (first ++ second) = bytesOf first ++ bytesOf second :=
  List.flatMap_append

/-- The bytes of a character beyond ASCII lie beyond ASCII, too. -/
theorem le_of_mem_utf8EncodeChar {character : Char} (beyond : 0x80 ≤ character.toNat) :
    ∀ byte ∈ String.utf8EncodeChar character, 0x80 ≤ byte.toNat := by
  have wide : ∀ value, 0x80 ≤ value → value < 0x100 → 0x80 ≤ (UInt8.ofNat value).toNat := by
    intro value least greatest
    rwa [UInt8.toNat_ofNat_of_lt' greatest]
  change 0x80 ≤ character.val.toNat at beyond
  intro byte member
  unfold String.utf8EncodeChar at member
  simp only at member
  split_ifs at member with one two three
  · omega
  · simp only [List.mem_cons, List.not_mem_nil, or_false] at member
    rcases member with rfl | rfl <;> exact wide _ (by omega) (by omega)
  · simp only [List.mem_cons, List.not_mem_nil, or_false] at member
    rcases member with rfl | rfl | rfl <;> exact wide _ (by omega) (by omega)
  · simp only [List.mem_cons, List.not_mem_nil, or_false] at member
    rcases member with rfl | rfl | rfl | rfl <;> exact wide _ (by omega) (by omega)

namespace Lexer

/-! ## What has been read -/

/-- The lexer after some bytes. -/
def take? (bytes : List UInt8) (lexer : Lexer) : Option Lexer :=
  bytes.foldlM step lexer

theorem take?_cons (byte : UInt8) (bytes : List UInt8) (lexer : Lexer) :
    take? (byte :: bytes) lexer = (lexer.step byte).bind (take? bytes) := rfl

theorem take?_append (first second : List UInt8) (lexer : Lexer) :
    take? (first ++ second) lexer = (take? first lexer).bind (take? second) :=
  List.foldlM_append

/-- A lexer has read some tokens, latest first, and nothing beyond them: it can finish with them,
and behind them it takes a comma or a closing bracket. -/
structure HasRead (lexer : Lexer) (tokens : List Token) : Prop where
  finish : lexer.finish = some tokens.reverse
  comma : lexer.step 0x2C = some ⟨.comma :: tokens, .between⟩
  rightBracket : lexer.step 0x5D = some ⟨.rightBracket :: tokens, .between⟩
  rightBrace : lexer.step 0x7D = some ⟨.rightBrace :: tokens, .between⟩

theorem hasRead_between (tokens : List Token) : HasRead ⟨tokens, .between⟩ tokens :=
  ⟨rfl, rfl, rfl, rfl⟩

/-! ## Words and numbers -/

theorem hasRead_number {tokens : List Token} {read : List Char} {value : Number}
    (literal : Number.ofLiteral? read.reverse = some value) :
    HasRead ⟨tokens, .number read⟩ (.number value :: tokens) := by
  refine ⟨?_, ?_, ?_, ?_⟩
  · simp only [Lexer.finish, literal, Option.map_some]
  · change (Number.ofLiteral? read.reverse).bind _ = _
    rw [literal]
    rfl
  · change (Number.ofLiteral? read.reverse).bind _ = _
    rw [literal]
    rfl
  · change (Number.ofLiteral? read.reverse).bind _ = _
    rw [literal]
    rfl

/-- A digit continues a number. -/
theorem step_digit {digit : Char} (isDigit : digit.isDigit = true) (tokens : List Token)
    (read : List Char) :
    step ⟨tokens, .number read⟩ (UInt8.ofNat digit.toNat) =
      some ⟨tokens, .number (digit :: read)⟩ := by
  have ascii : digit.toNat < 0x80 := by
    have bounds := Text.toNat_of_isDigit isDigit
    omega
  simp only [step, ofNat_byte_ascii ascii, isNumeric, isDigit, Bool.true_or, if_true]

theorem take?_digits {digits : List Char} (areDigits : ∀ digit ∈ digits, digit.isDigit = true)
    (tokens : List Token) (read : List Char) :
    take? (bytesOf digits) ⟨tokens, .number read⟩ =
      some ⟨tokens, .number (digits.reverse ++ read)⟩ := by
  induction digits generalizing read with
  | nil => rfl
  | cons digit rest ih =>
    have first := areDigits digit (by simp)
    have ascii : digit.toNat < 0x80 := by
      have bounds := Text.toNat_of_isDigit first
      omega
    rw [bytesOf_cons, utf8EncodeChar_ascii ascii, List.singleton_append, take?_cons,
      step_digit first, Option.bind_some, ih (fun other member => areDigits other (by simp [member]))]
    simp

/-- A digit between tokens begins a number. -/
theorem begin?_digit {digit : Char} (isDigit : digit.isDigit = true) (tokens : List Token) :
    begin? tokens (UInt8.ofNat digit.toNat) = some ⟨tokens, .number [digit]⟩ := by
  obtain ⟨least, greatest⟩ := Text.toNat_of_isDigit isDigit
  have named : digit = Char.ofNat digit.toNat := (Char.ofNat_toNat digit).symm
  generalize digit.toNat = value at *
  subst named
  interval_cases value <;> rfl

theorem take?_signedDigits {value : Int} (tokens : List Token) (fits : Number.Fits value) :
    ∃ lexer, take? (bytesOf (Text.signedDigits value)) ⟨tokens, .between⟩ = some lexer ∧
      lexer.HasRead (.number (.integer value) :: tokens) := by
  have areDigits := Text.digits_isDigit value.natAbs
  have literal := Number.ofLiteral?_signedDigits fits
  by_cases negative : value < 0
  · have spelled : Text.signedDigits value = '-' :: Text.digits value.natAbs := if_pos negative
    rw [spelled] at literal ⊢
    refine ⟨⟨tokens, .number ((Text.digits value.natAbs).reverse ++ ['-'])⟩, ?_,
      hasRead_number (by simpa using literal)⟩
    rw [bytesOf_cons, take?_append, ← take?_digits areDigits]
    rfl
  · have spelled : Text.signedDigits value = Text.digits value.natAbs := if_neg negative
    rw [spelled] at literal ⊢
    obtain ⟨digit, rest, split⟩ := List.exists_cons_of_ne_nil (Text.digits_ne_nil value.natAbs)
    rw [split] at areDigits literal ⊢
    have first := areDigits digit (by simp)
    have ascii : digit.toNat < 0x80 := by
      have bounds := Text.toNat_of_isDigit first
      omega
    refine ⟨⟨tokens, .number (rest.reverse ++ [digit])⟩, ?_,
      hasRead_number (by simpa using literal)⟩
    rw [bytesOf_cons, utf8EncodeChar_ascii ascii, List.singleton_append, take?_cons,
      ← take?_digits (fun other member => areDigits other (by simp [member]))]
    change (begin? tokens (UInt8.ofNat digit.toNat)).bind _ = _
    rw [begin?_digit first]
    rfl

/-! ## Strings -/

/-- Bytes that are no quote, no backslash and no control stand for themselves. -/
theorem take?_plainBytes {bytes : List UInt8}
    (plain : ∀ byte ∈ bytes, byte ≠ 0x22 ∧ byte ≠ 0x5C ∧ ¬ byte < 0x20) (tokens : List Token)
    (read : List Piece) :
    take? bytes ⟨tokens, .text read⟩ =
      some ⟨tokens, .text ((bytes.map Piece.byte).reverse ++ read)⟩ := by
  induction bytes generalizing read with
  | nil => rfl
  | cons byte rest ih =>
    obtain ⟨noQuote, noBackslash, noControl⟩ := plain byte (by simp)
    have taken : step ⟨tokens, .text read⟩ byte = some ⟨tokens, .text (.byte byte :: read)⟩ := by
      simp only [step, noQuote, noBackslash, noControl, if_false]
    rw [take?_cons, taken, Option.bind_some, ih (fun other member => plain other (by simp [member]))]
    simp

theorem toNat_hexDigit_lt : ∀ value < 16, (Text.hexDigit value).toNat < 0x80 := by decide

/-- A digit of a unit. -/
theorem step_unit {value : Nat} (small : value < 16) (tokens : List Token) (read : List Piece)
    (missing sofar : Nat) :
    step ⟨tokens, .unit read missing sofar⟩ (UInt8.ofNat (Text.hexDigit value).toNat) =
      some (if missing ≤ 1 then ⟨tokens, .text (.unit (sofar * 16 + value) :: read)⟩
        else ⟨tokens, .unit read (missing - 1) (sofar * 16 + value)⟩) := by
  simp only [step, ofNat_byte_ascii (toNat_hexDigit_lt value small),
    Text.hexValue?_hexDigit value small,
    Option.map_some]

/-- A control without a letter is read by its number. -/
theorem take?_numbered {character : Char} (control : character.toNat < 0x20) (tokens : List Token)
    (read : List Piece) :
    take? (bytesOf ['\\', 'u', '0', '0', Text.hexDigit (character.toNat / 16),
      Text.hexDigit (character.toNat % 16)]) ⟨tokens, .text read⟩ =
      some ⟨tokens, .text (.unit character.toNat :: read)⟩ := by
  have high : character.toNat / 16 < 16 := by omega
  have low : character.toNat % 16 < 16 := Nat.mod_lt _ (by decide)
  have opened : take? (bytesOf ['\\', 'u', '0', '0']) ⟨tokens, .text read⟩ =
      some ⟨tokens, .unit read 2 0⟩ := rfl
  have value : (0 * 16 + character.toNat / 16) * 16 + character.toNat % 16 = character.toNat := by
    omega
  rw [show ['\\', 'u', '0', '0', Text.hexDigit (character.toNat / 16),
      Text.hexDigit (character.toNat % 16)] = ['\\', 'u', '0', '0'] ++
      [Text.hexDigit (character.toNat / 16), Text.hexDigit (character.toNat % 16)] from rfl,
    bytesOf_append, take?_append, opened, Option.bind_some, bytesOf_cons, bytesOf_cons, bytesOf_nil,
    utf8EncodeChar_ascii (toNat_hexDigit_lt _ high), utf8EncodeChar_ascii (toNat_hexDigit_lt _ low),
    List.singleton_append, List.singleton_append, take?_cons, step_unit high, if_neg (by decide),
    Option.bind_some, take?_cons, step_unit low, if_pos (by decide), value]
  rfl

theorem take?_writeCharacter (character : Char) (tokens : List Token) (read : List Piece) :
    take? (bytesOf (writeCharacter character)) ⟨tokens, .text read⟩ =
      some ⟨tokens, .text ((piecesOfCharacter character).reverse ++ read)⟩ := by
  unfold writeCharacter
  split_ifs with quote backslash backspace feed newline carriage tab control
  · subst quote; rfl
  · subst backslash; rfl
  · subst backspace; rfl
  · subst feed; rfl
  · subst newline; rfl
  · subst carriage; rfl
  · subst tab; rfl
  · have pieces : piecesOfCharacter character = [.unit character.toNat] :=
      if_pos ⟨control, by simp [backspace, feed, newline, carriage, tab]⟩
    rw [pieces]
    exact take?_numbered control tokens read
  · have pieces : piecesOfCharacter character = (String.utf8EncodeChar character).map .byte :=
      if_neg fun both => control both.1
    have plain : ∀ byte ∈ String.utf8EncodeChar character,
        byte ≠ 0x22 ∧ byte ≠ 0x5C ∧ ¬ byte < 0x20 := by
      intro byte member
      rw [UInt8.lt_iff_toNat_lt]
      rcases Nat.lt_or_ge character.toNat 0x80 with ascii | beyond
      · rw [utf8EncodeChar_ascii ascii, List.mem_singleton] at member
        have same := ofNat_byte_ascii ascii
        rw [← member] at same
        refine ⟨fun equal => quote ?_, fun equal => backslash ?_, fun below => control ?_⟩
        · rw [← same, equal]; rfl
        · rw [← same, equal]; rfl
        · rwa [member, UInt8.toNat_ofNat_of_lt' (Nat.lt_trans ascii (by decide))] at below
      · have wide := le_of_mem_utf8EncodeChar beyond byte member
        refine ⟨fun equal => ?_, fun equal => ?_, fun below => ?_⟩
        · exact absurd (equal ▸ wide) (by decide)
        · exact absurd (equal ▸ wide) (by decide)
        · exact absurd (Nat.lt_of_le_of_lt wide below) (by decide)
    rw [pieces, bytesOf_cons, bytesOf_nil, List.append_nil]
    exact take?_plainBytes plain tokens read

theorem take?_writeString (text : String) (tokens : List Token) :
    take? (bytesOf (writeString text)) ⟨tokens, .between⟩ =
      some ⟨.string (piecesOfText text) :: tokens, .between⟩ := by
  have body (characters : List Char) (read : List Piece) :
      take? (bytesOf (characters.flatMap writeCharacter)) ⟨tokens, .text read⟩ =
        some ⟨tokens, .text ((characters.flatMap piecesOfCharacter).reverse ++ read)⟩ := by
    induction characters generalizing read with
    | nil => rfl
    | cons character rest ih =>
      rw [List.flatMap_cons, bytesOf_append, take?_append, take?_writeCharacter, Option.bind_some, ih]
      simp
  have opened : take? (bytesOf ['"']) ⟨tokens, .between⟩ = some ⟨tokens, .text []⟩ := rfl
  have closed (read : List Piece) : take? (bytesOf ['"']) ⟨tokens, .text read⟩ =
      some ⟨.string read.reverse :: tokens, .between⟩ := rfl
  rw [writeString, ← List.singleton_append, bytesOf_append, bytesOf_append, take?_append,
    take?_append, opened, Option.bind_some, body, Option.bind_some, closed]
  simp [piecesOfText]

/-! ## Values -/

/-- What has been read behind a quoted name and a colon. -/
theorem take?_name (name : String) (tokens : List Token) :
    take? (bytesOf (writeString name ++ [':'])) ⟨tokens, .between⟩ =
      some ⟨.colon :: .string (piecesOfText name) :: tokens, .between⟩ := by
  rw [bytesOf_append, take?_append, take?_writeString, Option.bind_some]
  rfl

/-- Bytes read by one lexer and then others read by the next. -/
theorem take?_bytesOf_append {first second : List Char} {lexer next last : Lexer}
    (start : take? (bytesOf first) lexer = some next)
    (rest : take? (bytesOf second) next = some last) :
    take? (bytesOf (first ++ second)) lexer = some last := by
  rw [bytesOf_append, take?_append, start, Option.bind_some, rest]

/-- A comma or a bracket, read behind what has been read before. -/
theorem take?_mark (mark : Char) {lexer next : Lexer} {byte : UInt8}
    (single : String.utf8EncodeChar mark = [byte]) (taken : lexer.step byte = some next) :
    take? (bytesOf [mark]) lexer = some next := by
  rw [bytesOf_cons, single, bytesOf_nil, List.append_nil, take?_cons, taken]
  rfl

mutual

theorem take?_write : ∀ (json : Json) (tokens : List Token), IsPlain json →
    ∃ lexer, take? (bytesOf json.write) ⟨tokens, .between⟩ = some lexer ∧
      lexer.HasRead ((tokensOf json).reverse ++ tokens)
  | .null, tokens, _ => ⟨⟨tokens, .word ['l', 'l', 'u', 'n']⟩, rfl, rfl, rfl, rfl, rfl⟩
  | .boolean true, tokens, _ => ⟨⟨tokens, .word ['e', 'u', 'r', 't']⟩, rfl, rfl, rfl, rfl, rfl⟩
  | .boolean false, tokens, _ =>
      ⟨⟨tokens, .word ['e', 's', 'l', 'a', 'f']⟩, rfl, rfl, rfl, rfl, rfl⟩
  | .number (.integer value), tokens, plain => by
      simp only [write, writeNumber, tokensOf]
      exact take?_signedDigits tokens (by simpa only [IsPlain] using plain)
  | .number (.real _ _), _, plain | .number (.tooLarge _), _, plain | .unreadable _, _, plain => by
      simp [IsPlain] at plain
  | .string text, tokens, _ => by
      simp only [write, tokensOf]
      exact ⟨_, take?_writeString text tokens, hasRead_between _⟩
  | .array items, tokens, plain => by
      rw [IsPlain] at plain
      obtain ⟨lexer, taken, hasRead⟩ := take?_writeItems items (.leftBracket :: tokens) plain
      have opened : take? (bytesOf ['[']) ⟨tokens, .between⟩ =
        some ⟨.leftBracket :: tokens, .between⟩ := rfl
      have closed := take?_mark ']' rfl hasRead.rightBracket
      refine ⟨_, ?_, hasRead_between _⟩
      rw [write, ← List.singleton_append, List.append_assoc]
      rw [take?_bytesOf_append opened (take?_bytesOf_append taken closed)]
      simp [tokensOf]
  | .object members, tokens, plain => by
      rw [IsPlain] at plain
      obtain ⟨lexer, taken, hasRead⟩ := take?_writeMembers members (.leftBrace :: tokens) plain
      have opened : take? (bytesOf ['\x7b']) ⟨tokens, .between⟩ =
        some ⟨.leftBrace :: tokens, .between⟩ := rfl
      have closed := take?_mark '\x7d' rfl hasRead.rightBrace
      refine ⟨_, ?_, hasRead_between _⟩
      rw [write, ← List.singleton_append, List.append_assoc]
      rw [take?_bytesOf_append opened (take?_bytesOf_append taken closed)]
      simp [tokensOf]

theorem take?_writeItems : ∀ (items : List Json) (tokens : List Token), ArePlain items →
    ∃ lexer, take? (bytesOf (writeItems items)) ⟨tokens, .between⟩ = some lexer ∧
      lexer.HasRead ((tokensOfItems items).reverse ++ tokens)
  | [], tokens, _ => ⟨_, rfl, hasRead_between _⟩
  | [item], tokens, plain => by
      simp only [writeItems, tokensOfItems]
      exact take?_write item tokens plain.1
  | item :: next :: rest, tokens, plain => by
      obtain ⟨lexer, taken, hasRead⟩ := take?_write item tokens plain.1
      have comma := take?_mark ',' rfl hasRead.comma
      obtain ⟨last, others, hasReadAll⟩ := take?_writeItems (next :: rest) _ plain.2
      refine ⟨last, ?_, by simpa [tokensOfItems] using hasReadAll⟩
      rw [writeItems, ← List.singleton_append]
      exact take?_bytesOf_append taken (take?_bytesOf_append comma others)

theorem take?_writeMembers : ∀ (members : List (String × Json)) (tokens : List Token),
    HavePlain members →
    ∃ lexer, take? (bytesOf (writeMembers members)) ⟨tokens, .between⟩ = some lexer ∧
      lexer.HasRead ((tokensOfMembers members).reverse ++ tokens)
  | [], tokens, _ => ⟨_, rfl, hasRead_between _⟩
  | [(name, value)], tokens, plain => by
      obtain ⟨lexer, taken, hasRead⟩ := take?_write value _ plain.1
      refine ⟨lexer, ?_, by simpa [tokensOfMembers] using hasRead⟩
      rw [writeMembers, ← List.singleton_append, ← List.append_assoc]
      exact take?_bytesOf_append (take?_name name tokens) taken
  | (name, value) :: next :: rest, tokens, plain => by
      obtain ⟨lexer, taken, hasRead⟩ :=
        take?_write value (.colon :: .string (piecesOfText name) :: tokens) plain.1
      have comma := take?_mark ',' rfl hasRead.comma
      obtain ⟨last, others, hasReadAll⟩ := take?_writeMembers (next :: rest) _ plain.2
      refine ⟨last, ?_, by simpa [tokensOfMembers] using hasReadAll⟩
      have joined : writeMembers ((name, value) :: next :: rest) =
          (writeString name ++ [':']) ++ (value.write ++ ([','] ++ writeMembers (next :: rest))) := by
        simp [writeMembers]
      rw [joined]
      exact take?_bytesOf_append (take?_name name tokens)
        (take?_bytesOf_append taken (take?_bytesOf_append comma others))

end

end Lexer

/-- The tokens of a written value are the ones that spell it. -/
theorem tokens?_write {json : Json} (plain : IsPlain json) :
    tokens? (bytesOf json.write) = some (tokensOf json) := by
  obtain ⟨lexer, taken, hasRead⟩ := Lexer.take?_write json [] plain
  change (Lexer.take? (bytesOf json.write) ⟨[], .between⟩).bind Lexer.finish = _
  rw [taken, Option.bind_some, hasRead.finish]
  simp

end SignOn.Json
