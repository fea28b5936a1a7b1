import SignOn.Json.Basic
import SignOn.Text.Hex
import SignOn.Text.Utf8

/-!
# The tokens of a JSON text

The bytes of a text are turned into tokens one after another: a state remembers what has been read
and takes one byte at a time.  A word or a number ends with the first byte that cannot belong to it,
a string with its closing quote.  Blanks between tokens are the space, the tab and the two line
ends.
-/

namespace SignOn.Json

set_option autoImplicit false

/-! ## String literals -/

/-- One part of a string literal: a byte of its text, or a sixteen-bit unit given by an escape. -/
inductive Piece where
  | byte (value : UInt8)
  | unit (value : Nat)
deriving DecidableEq, Repr

/-- Whether a unit is the first half of a pair that denotes one character. -/
def isHighHalf (unit : Nat) : Bool := 0xD800 ≤ unit && unit ≤ 0xDBFF

/-- Whether a unit is the second half of a pair that denotes one character. -/
def isLowHalf (unit : Nat) : Bool := 0xDC00 ≤ unit && unit ≤ 0xDFFF

/-- The bytes of the parts of a string literal.  Units that are halves of a character must stand in
pairs. -/
def bytesOfPieces : List Piece → Option (List UInt8)
  | [] => some []
  | .byte value :: rest => (bytesOfPieces rest).map (value :: ·)
  | .unit high :: .unit low :: rest =>
      if isHighHalf high then
        if isLowHalf low then
          let point := 0x10000 + (high - 0xD800) * 0x400 + (low - 0xDC00)
          (bytesOfPieces rest).map (String.utf8EncodeChar (Char.ofNat point) ++ ·)
        else none
      else if isLowHalf high then none
      else (bytesOfPieces (.unit low :: rest)).map (String.utf8EncodeChar (Char.ofNat high) ++ ·)
  | .unit value :: rest =>
      if isHighHalf value || isLowHalf value then none
      else (bytesOfPieces rest).map (String.utf8EncodeChar (Char.ofNat value) ++ ·)

/-- The text that the parts of a string literal spell. -/
def textOfPieces (pieces : List Piece) : Option String :=
  (bytesOfPieces pieces).bind Text.ofUtf8?

/-- Whether a reader of some parts gives up behind the closing quote, if at all.  One that gives
up on halves does so as soon as it knows them not to form a pair: behind the quote when a first
half stands in front of it, and within the literal in all other cases. -/
def reachesQuote : List Piece → Bool
  | [] => true
  | .byte _ :: rest => reachesQuote rest
  | [.unit value] => !isLowHalf value
  | .unit high :: .unit low :: rest =>
      if isHighHalf high then isLowHalf low && reachesQuote rest
      else !isLowHalf high && reachesQuote (.unit low :: rest)
  | .unit value :: .byte _ :: rest =>
      !isHighHalf value && !isLowHalf value && reachesQuote rest

/-! ## Tokens -/

/-- The smallest parts of a JSON text that have a meaning. -/
inductive Token where
  | leftBrace
  | rightBrace
  | leftBracket
  | rightBracket
  | colon
  | comma
  | null
  | boolean (value : Bool)
  | number (value : Number)
  /-- A string literal, by its parts. -/
  | string (pieces : List Piece)
deriving DecidableEq, Repr

/-! ## Reading tokens -/

/-- What is being read.  Parts read so far are kept latest first. -/
inductive Mode where
  | between
  | word (read : List Char)
  | number (read : List Char)
  | text (read : List Piece)
  /-- After a backslash within a string. -/
  | escape (read : List Piece)
  /-- Within the digits of a unit, with the number of digits still to come and their value so far.
  -/
  | unit (read : List Piece) (missing value : Nat)
deriving DecidableEq, Repr

/-- The tokens read so far, latest first, and what is being read. -/
structure Lexer where
  tokens : List Token
  mode : Mode
deriving DecidableEq, Repr

namespace Lexer

/-- Nothing has been read. -/
def start : Lexer := ⟨[], .between⟩

/-- The token of a word. -/
def wordToken? (word : List Char) : Option Token :=
  if word = "null".toList then some .null
  else if word = "true".toList then some (.boolean true)
  else if word = "false".toList then some (.boolean false)
  else none

/-- Whether a character may stand in a number literal. -/
def isNumeric (character : Char) : Bool :=
  character.isDigit || character = '-' || character = '+' || character = '.' || character = 'e' ||
    character = 'E'

/-- Takes a byte that begins a token, is a token, or stands between tokens. -/
def begin? (tokens : List Token) (byte : UInt8) : Option Lexer :=
  let character := Char.ofNat byte.toNat
  if character = ' ' ∨ character = '\n' ∨ character = '\t' ∨ character = '\r' then
    some ⟨tokens, .between⟩
  else if character = '\x7b' then some ⟨.leftBrace :: tokens, .between⟩
  else if character = '\x7d' then some ⟨.rightBrace :: tokens, .between⟩
  else if character = '[' then some ⟨.leftBracket :: tokens, .between⟩
  else if character = ']' then some ⟨.rightBracket :: tokens, .between⟩
  else if character = ':' then some ⟨.colon :: tokens, .between⟩
  else if character = ',' then some ⟨.comma :: tokens, .between⟩
  else if character = '"' then some ⟨tokens, .text []⟩
  else if character.isLower then some ⟨tokens, .word [character]⟩
  else if character = '-' ∨ character.isDigit then some ⟨tokens, .number [character]⟩
  else none

/-- The piece that a letter after a backslash stands for. -/
def escapedByte? (character : Char) : Option UInt8 :=
  if character = '"' then some 0x22
  else if character = '\\' then some 0x5C
  else if character = '/' then some 0x2F
  else if character = 'b' then some 0x08
  else if character = 'f' then some 0x0C
  else if character = 'n' then some 0x0A
  else if character = 'r' then some 0x0D
  else if character = 't' then some 0x09
  else none

/-- Takes one byte. -/
def step (lexer : Lexer) (byte : UInt8) : Option Lexer :=
  let character := Char.ofNat byte.toNat
  match lexer.mode with
  | .between => begin? lexer.tokens byte
  | .word read =>
      if character.isLower then some { lexer with mode := .word (character :: read) }
      else (wordToken? read.reverse).bind fun token => begin? (token :: lexer.tokens) byte
  | .number read =>
      if isNumeric character then some { lexer with mode := .number (character :: read) }
      else
        (Number.ofLiteral? read.reverse).bind fun value =>
          begin? (.number value :: lexer.tokens) byte
  | .text read =>
      if byte = 0x22 then some ⟨.string read.reverse :: lexer.tokens, .between⟩
      else if byte = 0x5C then some { lexer with mode := .escape read }
      else if byte < 0x20 then none
      else some { lexer with mode := .text (.byte byte :: read) }
  | .escape read =>
      if character = 'u' then some { lexer with mode := .unit read 4 0 }
      else
        (escapedByte? character).map fun value => { lexer with mode := .text (.byte value :: read) }
  | .unit read missing value =>
      (Text.hexValue? character).map fun digit =>
        if missing ≤ 1 then { lexer with mode := .text (.unit (value * 16 + digit) :: read) }
        else { lexer with mode := .unit read (missing - 1) (value * 16 + digit) }

/-- The tokens read, in order, once there are no bytes left. -/
def finish (lexer : Lexer) : Option (List Token) :=
  match lexer.mode with
  | .between => some lexer.tokens.reverse
  | .word read => (wordToken? read.reverse).map fun token => (token :: lexer.tokens).reverse
  | .number read =>
      (Number.ofLiteral? read.reverse).map fun value => (.number value :: lexer.tokens).reverse
  | _ => none

end Lexer

/-- The tokens of a JSON text. -/
def tokens? (bytes : List UInt8) : Option (List Token) :=
  (bytes.foldlM Lexer.step Lexer.start).bind Lexer.finish

end SignOn.Json
