import SignOn.Json.Reader
import SignOn.Proofs.Json.Lexing

/-!
# Written values are read back

The tokens that spell a plain value form just that value, whatever arrays and objects are still open
around it, and the pieces that spell a text spell it again.  With the tokens of a written value this
gives the round trip: the text of a plain value denotes that value (`ofBytes?_text`).
-/

namespace SignOn.Json

set_option autoImplicit false

/-! ## Texts -/

/-- A unit that is no half of a character stands for the character with its number. -/
theorem bytesOfPieces_unit {value : Nat} (whole : value < 0xD800) (rest : List Piece) :
    bytesOfPieces (.unit value :: rest) =
      (bytesOfPieces rest).map (String.utf8EncodeChar (Char.ofNat value) ++ ·) := by
  have notHigh : isHighHalf value = false := by
    simp only [isHighHalf, Bool.and_eq_false_iff, decide_eq_false_iff_not]
    omega
  have notLow : isLowHalf value = false := by
    simp only [isLowHalf, Bool.and_eq_false_iff, decide_eq_false_iff_not]
    omega
  -- Only a unit behind a unit could be taken together with it.
  cases rest with
  | nil => simp [bytesOfPieces, notHigh, notLow]
  | cons piece others =>
    cases piece with
    | byte byte => rw [bytesOfPieces.eq_4 _ _ (by simp)]; simp [notHigh, notLow]
    | unit low => rw [bytesOfPieces]; simp [notHigh, notLow]

theorem bytesOfPieces_bytes (bytes : List UInt8) (rest : List Piece) :
    bytesOfPieces (bytes.map .byte ++ rest) = (bytesOfPieces rest).map (bytes ++ ·) := by
  induction bytes with
  | nil => simp
  | cons byte others ih =>
    rw [List.map_cons, List.cons_append, bytesOfPieces, ih, Option.map_map]
    rfl

theorem bytesOfPieces_character (character : Char) (rest : List Piece) :
    bytesOfPieces (piecesOfCharacter character ++ rest) =
      (bytesOfPieces rest).map (String.utf8EncodeChar character ++ ·) := by
  unfold piecesOfCharacter
  split
  · next numbered =>
    rw [List.singleton_append, bytesOfPieces_unit (Nat.lt_trans numbered.1 (by decide)),
      Char.ofNat_toNat]
  · exact bytesOfPieces_bytes _ rest

/-- The pieces that spell a text spell it again. -/
theorem textOfPieces_piecesOfText (text : String) : textOfPieces (piecesOfText text) = some text := by
  have spelled (characters : List Char) :
      bytesOfPieces (characters.flatMap piecesOfCharacter) = some (bytesOf characters) := by
    induction characters with
    | nil => rfl
    | cons character rest ih =>
      rw [List.flatMap_cons, bytesOfPieces_character, ih]
      rfl
  have bytes : bytesOf text.toList = Text.utf8 text := by
    rw [bytesOf, ← Text.utf8_ofList, String.ofList_toList]
  rw [textOfPieces, piecesOfText, spelled, Option.bind_some, bytes, Text.ofUtf8?_utf8]

/-! ## Values -/

namespace Reading

/-- What may come behind some tokens. -/
def take? (tokens : List Token) (reading : Reading) : Option Reading :=
  tokens.foldlM step reading

theorem take?_cons (token : Token) (tokens : List Token) (reading : Reading) :
    take? (token :: tokens) reading = (reading.step token).bind (take? tokens) := rfl

theorem take?_append (first second : List Token) (reading : Reading) :
    take? (first ++ second) reading = (take? first reading).bind (take? second) :=
  List.foldlM_append

/-- Where the first item of an array may come, a value is read as where one must come. -/
theorem take?_firstItem {json : Json} (plain : IsPlain json) (rest : List Token)
    (frames : List Frame) :
    take? (tokensOf json ++ rest) (.firstItem frames) =
      take? (tokensOf json ++ rest) (.value (.items [] :: frames)) := by
  cases json with
  | unreadable passed => simp [IsPlain] at plain
  | null | boolean | number | string | array | object => rfl

/-- Tokens of names and values, read where the first name may come or where a further name must. -/
theorem step_name (name : String) (frames : List Frame) (done : List (Option String × Json)) :
    take? [.string (piecesOfText name), .colon] (.name frames done) =
      some (.value (.members done (some name) :: frames)) := by
  simp only [take?_cons, step, textOfPieces_piecesOfText, Option.bind_some]
  rfl

theorem step_firstName (name : String) (frames : List Frame) :
    take? [.string (piecesOfText name), .colon] (.firstName frames) =
      some (.value (.members [] (some name) :: frames)) := by
  simp only [take?_cons, step, textOfPieces_piecesOfText, Option.bind_some]
  rfl

/-- An object all of whose names spell texts. -/
theorem objectOf_named (members : List (String × Json)) :
    objectOf (members.map fun member => (some member.1, member.2)) = .object members := by
  have named : (members.map fun member => (some member.1, member.2)).mapM
      (fun member => member.1.map fun name => (name, member.2)) = some members := by
    induction members with
    | nil => rfl
    | cons member rest ih =>
      rw [List.map_cons, List.mapM_cons, ih]
      rfl
  simp only [objectOf, named]

mutual

/-- The tokens of a value, read where a value must come. -/
theorem take?_tokensOf : ∀ (json : Json) (frames : List Frame), IsPlain json →
    take? (tokensOf json) (.value frames) = some (.after frames json)
  | .null, _, _ | .boolean _, _, _ | .number _, _, _ => rfl
  | .unreadable _, _, plain => by simp [IsPlain] at plain
  | .string text, frames, _ => by
      simp only [tokensOf, take?_cons, step, takeValue, ofPieces, textOfPieces_piecesOfText,
        Option.bind_some]
      rfl
  | .array [], _, _ => rfl
  | .array (item :: rest), frames, plain => by
      rw [IsPlain] at plain
      have items := take?_tokensOfItems item rest frames [] plain
      obtain ⟨others, first⟩ : ∃ others, tokensOfItems (item :: rest) = tokensOf item ++ others := by
        cases rest with
        | nil => exact ⟨[], by simp [tokensOfItems]⟩
        | cons next more => exact ⟨_, rfl⟩
      rw [first, List.append_assoc, ← take?_firstItem plain.1, ← List.append_assoc, ← first] at items
      rw [tokensOf, List.cons_append, take?_cons]
      exact items
  | .object [], _, _ => rfl
  | .object ((label, held) :: rest), frames, plain => by
      rw [IsPlain] at plain
      have members := take?_tokensOfMembers label held rest frames [] plain
      have opened := (step_name label frames []).trans (step_firstName label frames).symm
      obtain ⟨others, first⟩ : ∃ others, tokensOfMembers ((label, held) :: rest) =
          [.string (piecesOfText label), .colon] ++ others := by
        cases rest with
        | nil => exact ⟨_, rfl⟩
        | cons next more => exact ⟨_, rfl⟩
      rw [List.map_nil, first, List.append_assoc, take?_append, opened, ← take?_append,
        ← List.append_assoc, ← first] at members
      rw [tokensOf, List.cons_append, take?_cons]
      exact members
termination_by json => sizeOf json

/-- The tokens of items and the end of their array, read behind other items. -/
theorem take?_tokensOfItems : ∀ (item : Json) (rest : List Json) (frames : List Frame)
    (done : List Json), ArePlain (item :: rest) →
    take? (tokensOfItems (item :: rest) ++ [.rightBracket]) (.value (.items done :: frames)) =
      some (.after frames (.array (done.reverse ++ item :: rest)))
  | item, [], frames, done, plain => by
      rw [tokensOfItems, take?_append, take?_tokensOf item _ plain.1]
      simp [take?_cons, step]
      rfl
  | item, next :: rest, frames, done, plain => by
      rw [tokensOfItems, List.append_assoc, take?_append, take?_tokensOf item _ plain.1,
        Option.bind_some, List.cons_append, take?_cons]
      simp only [step, Option.bind_some]
      rw [take?_tokensOfItems next rest frames (item :: done) plain.2]
      simp
termination_by item rest => 1 + sizeOf item + sizeOf rest

/-- The tokens of members and the end of their object, read behind other members. -/
theorem take?_tokensOfMembers : ∀ (label : String) (held : Json) (rest : List (String × Json))
    (frames : List Frame) (done : List (String × Json)), HavePlain ((label, held) :: rest) →
    take? (tokensOfMembers ((label, held) :: rest) ++ [.rightBrace])
        (.name frames (done.map fun member => (some member.1, member.2))) =
      some (.after frames (.object (done.reverse ++ (label, held) :: rest)))
  | label, held, [], frames, done, plain => by
      have read := take?_tokensOf held
        (.members (done.map fun member => (some member.1, member.2)) (some label) :: frames) plain.1
      have joined : tokensOfMembers [(label, held)] ++ [.rightBrace] =
          [.string (piecesOfText label), .colon] ++ (tokensOf held ++ [.rightBrace]) := rfl
      have ended := objectOf_named (done.reverse ++ [(label, held)])
      rw [joined, take?_append, step_name, Option.bind_some, take?_append, read, Option.bind_some,
        take?_cons, step, ← ended]
      simp
      rfl
  | label, held, (other, further) :: rest, frames, done, plain => by
      have read := take?_tokensOf held
        (.members (done.map fun member => (some member.1, member.2)) (some label) :: frames) plain.1
      have others := take?_tokensOfMembers other further rest frames ((label, held) :: done) plain.2
      have joined : tokensOfMembers ((label, held) :: (other, further) :: rest) ++ [.rightBrace] =
          [.string (piecesOfText label), .colon] ++ (tokensOf held ++
            (.comma :: (tokensOfMembers ((other, further) :: rest) ++ [.rightBrace]))) := by
        simp [tokensOfMembers]
      rw [joined, take?_append, step_name, Option.bind_some, take?_append, read, Option.bind_some,
        take?_cons, step, Option.bind_some]
      simpa using others
termination_by _ held rest => 1 + sizeOf held + sizeOf rest

end

end Reading

/-! ## The round trip -/

theorem ofTokens?_tokensOf {json : Json} (plain : IsPlain json) :
    ofTokens? (tokensOf json) = some json := by
  have read := Reading.take?_tokensOf json [] plain
  change (Reading.take? (tokensOf json) (.value [])).bind Reading.finish = _
  rw [read]
  rfl

/-- The bytes of the text of a plain value denote that value. -/
theorem ofBytes?_text {json : Json} (plain : IsPlain json) :
    ofBytes? (Text.utf8 json.text) = some json := by
  rw [ofBytes?, text, Text.utf8_ofList]
  exact (congrArg (fun tokens => Option.bind tokens ofTokens?) (tokens?_write plain)).trans
    (ofTokens?_tokensOf plain)

end SignOn.Json
