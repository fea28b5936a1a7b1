import Mathlib.Data.List.DropRight
import SignOn.Text.Blank

/-!
# Texts without blanks around them

Leaving out what satisfies a test at both ends changes nothing when it has been done before
(`stripBoth_stripBoth`), and nothing where no character satisfies the test.  Blanks that are put
around a text are left out again (`trim_surround`).
-/

namespace SignOn.Text

set_option autoImplicit false

theorem stripBoth_eq (test : Char → Bool) (characters : List Char) :
    stripBoth test characters = (characters.dropWhile test).rdropWhile test := rfl

theorem stripBoth_stripBoth (test : Char → Bool) (characters : List Char) :
    stripBoth test (stripBoth test characters) = stripBoth test characters := by
  simp only [stripBoth_eq]
  have kept : ((characters.dropWhile test).rdropWhile test).dropWhile test =
      (characters.dropWhile test).rdropWhile test := by
    -- What is kept starts like the text without its first blanks, hence with none.
    have start := List.rdropWhile_prefix test (l := characters.dropWhile test)
    have first : (characters.dropWhile test).dropWhile test = characters.dropWhile test :=
      List.dropWhile_idempotent test characters
    rw [List.dropWhile_eq_self_iff] at first ⊢
    intro nonempty
    have longer : 0 < (characters.dropWhile test).length := nonempty.trans_le start.length_le
    have same := start.getElem nonempty
    simpa [same] using first longer
  rw [kept, List.rdropWhile_idempotent]

theorem stripBoth_of_forall_not {test : Char → Bool} {characters : List Char}
    (none : ∀ character ∈ characters, test character = false) :
    stripBoth test characters = characters := by
  have unchanged (others : List Char) (same : ∀ character ∈ others, character ∈ characters) :
      others.dropWhile test = others := by
    rw [List.dropWhile_eq_self_iff]
    intro nonempty
    simp [none _ (same _ (List.getElem_mem nonempty))]
  rw [stripBoth, unchanged characters fun _ member => member,
    unchanged characters.reverse fun _ member => List.mem_reverse.1 member, List.reverse_reverse]

theorem toList_trim (raw : String) : (trim raw).toList = stripBoth isBlank raw.toList := by
  rw [trim, String.toList_ofList]

theorem trim_trim (raw : String) : trim (trim raw) = trim raw := by
  rw [trim, toList_trim, stripBoth_stripBoth, ← toList_trim, String.ofList_toList]

/-- What satisfies the test at the ends of a text is left out together with what is put around it. -/
theorem stripBoth_surround {test : Char → Bool} {before after : List Char}
    (first : ∀ character ∈ before, test character = true)
    (last : ∀ character ∈ after, test character = true) (characters : List Char) :
    stripBoth test (before ++ characters ++ after) = stripBoth test characters := by
  have behind : ∀ character ∈ after.reverse, test character = true :=
    fun character member => last character (List.mem_reverse.1 member)
  rw [stripBoth, stripBoth, List.append_assoc, List.dropWhile_append_of_pos first,
    List.dropWhile_append]
  by_cases nothing : (characters.dropWhile test).isEmpty = true
  · have none : after.dropWhile test = [] := List.dropWhile_eq_nil_iff.2 last
    rw [if_pos nothing, none, List.isEmpty_iff.1 nothing]
  · rw [if_neg nothing, List.reverse_append, List.dropWhile_append_of_pos behind]

theorem trim_surround {before after : String} (first : allBlank before = true)
    (last : allBlank after = true) (text : String) : trim (before ++ text ++ after) = trim text := by
  rw [trim, trim, String.toList_append, String.toList_append,
    stripBoth_surround (List.all_eq_true.1 first) (List.all_eq_true.1 last)]

end SignOn.Text
