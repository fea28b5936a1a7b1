/-!
# Cutting texts at separators

Header values, query strings, tokens and addresses are cut at single characters.  The functions
here work on lists of characters and never lose one: joining the pieces with the separator gives
the text back.
-/

namespace SignOn.Text

set_option autoImplicit false

/-- The pieces of a text between the occurrences of a separator; there is always one at least. -/
def splitOn (separator : Char) : List Char → List (List Char)
  | [] => [[]]
  | character :: rest =>
      if character = separator then
        [] :: splitOn separator rest
      else
        match splitOn separator rest with
        | [] => [[character]]
        | piece :: pieces => (character :: piece) :: pieces

/-- The parts before and after the first occurrence of a separator. -/
def splitFirst? (separator : Char) : List Char → Option (List Char × List Char)
  | [] => none
  | character :: rest =>
      if character = separator then
        some ([], rest)
      else
        (splitFirst? separator rest).map fun parts => (character :: parts.1, parts.2)

/-- The parts before and after the last occurrence of a separator. -/
def splitLast? (separator : Char) (characters : List Char) : Option (List Char × List Char) :=
  (splitFirst? separator characters.reverse).map fun parts => (parts.2.reverse, parts.1.reverse)

/-- The pieces with a separator between each two. -/
def joinWith (separator : Char) : List (List Char) → List Char
  | [] => []
  | [piece] => piece
  | piece :: pieces => piece ++ separator :: joinWith separator pieces

theorem splitFirst?_eq_some {separator : Char} {characters before after : List Char}
    (cut : splitFirst? separator characters = some (before, after)) :
    characters = before ++ separator :: after ∧ separator ∉ before := by
  induction characters generalizing before after with
  | nil => simp [splitFirst?] at cut
  | cons character rest ih =>
    unfold splitFirst? at cut
    split at cut
    · next same =>
      cases cut
      simp [same]
    · next differs =>
      obtain ⟨⟨first, second⟩, found, same⟩ := Option.map_eq_some_iff.1 cut
      cases same
      obtain ⟨joined, absent⟩ := ih found
      refine ⟨by simp [joined], ?_⟩
      simp only [List.mem_cons, not_or]
      exact ⟨fun h => differs h.symm, absent⟩

theorem splitFirst?_append {separator : Char} {before after : List Char}
    (absent : separator ∉ before) :
    splitFirst? separator (before ++ separator :: after) = some (before, after) := by
  induction before with
  | nil => simp [splitFirst?]
  | cons character rest ih =>
    simp only [List.mem_cons, not_or] at absent
    have differs : character ≠ separator := fun h => absent.1 h.symm
    simp [splitFirst?, differs, ih absent.2]

theorem splitLast?_append {separator : Char} {before after : List Char}
    (absent : separator ∉ after) :
    splitLast? separator (before ++ separator :: after) = some (before, after) := by
  have absent' : separator ∉ after.reverse := by simpa using absent
  simp [splitLast?, splitFirst?_append absent']

theorem splitLast?_eq_some {separator : Char} {characters before after : List Char}
    (cut : splitLast? separator characters = some (before, after)) :
    characters = before ++ separator :: after ∧ separator ∉ after := by
  obtain ⟨⟨first, second⟩, found, same⟩ := Option.map_eq_some_iff.1 cut
  cases same
  obtain ⟨joined, absent⟩ := splitFirst?_eq_some found
  have back := congrArg List.reverse joined
  simp only [List.reverse_reverse, List.reverse_append, List.reverse_cons, List.append_assoc,
    List.singleton_append] at back
  exact ⟨back, by simpa using absent⟩

end SignOn.Text
