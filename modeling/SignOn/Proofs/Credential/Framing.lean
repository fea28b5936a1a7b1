import Mathlib.Tactic.SplitIfs
import SignOn.Credential.Codec
import SignOn.Proofs.Text.Base64Url

/-!
# The frame of a credential

A text has the three parts of a credential exactly when it holds two points, and the parts are cut
at its last two (`Parts.ofText?_eq_some_iff`, `Parts.ofText?_eq_none_iff`).  A part denotes a
value when it is the base64 text of a JSON text that reads as the value; a part that denotes none
is either no base64 text or no such JSON text (`readPart_eq_ok_iff`, `readPart_eq_error_iff`).
-/

namespace SignOn

set_option autoImplicit false

/-! ## Cutting -/

theorem Text.splitFirst?_eq_none_iff {separator : Char} {characters : List Char} :
    Text.splitFirst? separator characters = none ↔ separator ∉ characters := by
  induction characters with
  | nil => simp [Text.splitFirst?]
  | cons character rest ih =>
    by_cases same : character = separator
    · simp [Text.splitFirst?, same]
    · have other : separator ≠ character := fun equal => same equal.symm
      simp [Text.splitFirst?, same, other, ih]

theorem Text.splitLast?_eq_none_iff {separator : Char} {characters : List Char} :
    Text.splitLast? separator characters = none ↔ separator ∉ characters := by
  rw [Text.splitLast?, Option.map_eq_none_iff, Text.splitFirst?_eq_none_iff, List.mem_reverse]

theorem Text.splitLast?_eq_some_iff {separator : Char} {characters before after : List Char} :
    Text.splitLast? separator characters = some (before, after) ↔
      characters = before ++ separator :: after ∧ separator ∉ after := by
  constructor
  · exact Text.splitLast?_eq_some
  · rintro ⟨rfl, absent⟩
    exact Text.splitLast?_append absent

namespace Parts

/-- The parts of a text are cut at its last two points. -/
def Frame (parts : Parts) (characters : List Char) : Prop :=
  characters = parts.text ∧ '.' ∉ parts.payload ∧ '.' ∉ parts.signature

theorem ofText?_eq_some_iff {parts : Parts} {characters : List Char} :
    ofText? characters = some parts ↔ parts.Frame characters := by
  obtain ⟨header, payload, signature⟩ := parts
  constructor
  · intro cut
    unfold ofText? at cut
    split at cut
    · cases cut
    · next signed last outer =>
      obtain ⟨⟨first, second⟩, inner, same⟩ := Option.map_eq_some_iff.1 cut
      cases same
      obtain ⟨rfl, absentLast⟩ := Text.splitLast?_eq_some_iff.1 outer
      obtain ⟨rfl, absentSecond⟩ := Text.splitLast?_eq_some_iff.1 inner
      exact ⟨rfl, absentSecond, absentLast⟩
  · rintro ⟨rfl, inPayload, inSignature⟩
    simp only [ofText?, text, signed, Text.splitLast?_append inSignature,
      Text.splitLast?_append inPayload, Option.map_some]

theorem ofText?_eq_none_iff {characters : List Char} :
    ofText? characters = none ↔ characters.count '.' < 2 := by
  unfold ofText?
  split
  · next absent =>
    have none := List.count_eq_zero.2 (Text.splitLast?_eq_none_iff.1 absent)
    exact iff_of_true rfl (by omega)
  · next signed signature outer =>
    obtain ⟨rfl, absent⟩ := Text.splitLast?_eq_some_iff.1 outer
    have points : (signed ++ '.' :: signature).count '.' = signed.count '.' + 1 := by
      simp [List.count_append, List.count_eq_zero.2 absent]
    rw [Option.map_eq_none_iff, Text.splitLast?_eq_none_iff, ← List.count_eq_zero, points]
    omega

/-- There is no blank in a text if there is none in its parts. -/
theorem not_isBlank_of_mem_text {parts : Parts}
    (header : ∀ character ∈ parts.header, Text.isBlank character = false)
    (payload : ∀ character ∈ parts.payload, Text.isBlank character = false)
    (signature : ∀ character ∈ parts.signature, Text.isBlank character = false) :
    ∀ character ∈ parts.text, Text.isBlank character = false := by
  intro character member
  simp only [text, signed, List.mem_append, List.mem_cons] at member
  obtain (inHeader | rfl | inPayload) | rfl | inSignature := member
  · exact header character inHeader
  · decide
  · exact payload character inPayload
  · decide
  · exact signature character inSignature

/-- A text has one frame at most. -/
theorem Frame.unique {first second : Parts} {characters : List Char}
    (here : first.Frame characters) (there : second.Frame characters) : first = second :=
  Option.some.inj ((ofText?_eq_some_iff.2 here).symm.trans (ofText?_eq_some_iff.2 there))

end Parts

/-! ## Parts and values -/

/-- A part denotes a value: it is the base64 text of a JSON text that reads as the value. -/
def Denotes {α : Type} (read : Json → Option α) (part : List Char) (value : α) : Prop :=
  ∃ bytes, part = Text.Base64Url.encode bytes ∧ (Json.ofBytes? bytes).bind read = some value

/-- A part denotes nothing, for a reason that is told. -/
inductive Unreadable {α : Type} (read : Json → Option α) (part : List Char) : String → Prop where
  | notBase64 (unwritten : ∀ bytes, part ≠ Text.Base64Url.encode bytes) :
      Unreadable read part "Base64 error"
  | notJson {bytes : List UInt8} (written : part = Text.Base64Url.encode bytes)
      (unread : (Json.ofBytes? bytes).bind read = none) : Unreadable read part "JSON error"

variable {α : Type} {read : Json → Option α} {part : List Char}

theorem readPart_eq_ok_iff {value : α} :
    readPart part read = .ok value ↔ Denotes read part value := by
  constructor
  · intro found
    unfold readPart at found
    split at found
    · cases found
    · next bytes decoded =>
      split at found
      · cases found
      · next result readable =>
        obtain rfl := Except.ok.inj found
        exact ⟨bytes, Text.Base64Url.decode_eq_some_iff.1 decoded, readable⟩
  · rintro ⟨bytes, rfl, readable⟩
    simp only [readPart, Text.Base64Url.decode_encode, readable]

theorem readPart_eq_error_iff {rejection : Rejection} :
    readPart part read = .error rejection ↔
      ∃ detail, rejection = .malformedCredential detail ∧ Unreadable read part detail := by
  constructor
  · intro failed
    unfold readPart at failed
    split at failed
    · next undecoded =>
      obtain rfl := Except.error.inj failed
      exact ⟨_, rfl, .notBase64 (Text.Base64Url.decode_eq_none_iff.1 undecoded)⟩
    · next bytes decoded =>
      split at failed
      · next unread =>
        obtain rfl := Except.error.inj failed
        exact ⟨_, rfl, .notJson (Text.Base64Url.decode_eq_some_iff.1 decoded) unread⟩
      · cases failed
  · rintro ⟨_, rfl, unwritten | ⟨rfl, unread⟩⟩
    · simp only [readPart, Text.Base64Url.decode_eq_none_iff.2 unwritten, malformed]
    · simp only [readPart, Text.Base64Url.decode_encode, unread, malformed]

/-- A part denotes one value at most. -/
theorem Denotes.unique {first second : α} (here : Denotes read part first)
    (there : Denotes read part second) : first = second :=
  Except.ok.inj ((readPart_eq_ok_iff.2 here).symm.trans (readPart_eq_ok_iff.2 there))

end SignOn
