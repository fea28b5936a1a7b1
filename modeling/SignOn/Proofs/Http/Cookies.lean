import SignOn.Http.Cookie
import SignOn.Proofs.Text.Form
import SignOn.Proofs.Text.Trim

/-!
# The refresh cookie comes back

The name and the value of a cookie are written without blanks, equals signs and semicolons, so the
pair at the start of a cookie that is set is cut off at its first semicolon, and is read back as the
name and the value whatever these hold (`readPair?_cookiePair`).  A client sends the pair back among
others, in one of several header fields.  Of the cookies with one name the last one counts, so the
value is found unless a later cookie has the name of the refresh cookie (`refreshValue?_cookieLine`).

What a response sets is told from the text of its field alone (`SetsCookie`): the name and the value
that stand in the pair, the attributes after it, and what comes back.
-/

namespace SignOn.Http

set_option autoImplicit false

open Text (splitFirst?_append splitOn_joinWith stripBoth_of_forall_not stripBoth_surround)

/-! ## What is written -/

/-- Whether a character is printable and ends neither a name nor a value. -/
def isInert (character : Char) : Bool :=
  0x20 < character.toNat && character.toNat < 0x7F && character ≠ ';' && character ≠ '='

theorem isInert_encodeByte : ∀ byte, (if escapedInCookie byte then Text.Percent.escape byte
    else [Char.ofNat byte.toNat]).all isInert = true :=
  Text.forall_byte (by decide +kernel)

theorem isInert_of_mem_encode {text : String} {character : Char}
    (member : character ∈ Text.Percent.encode escapedInCookie text) : isInert character = true := by
  obtain ⟨byte, _, written⟩ := List.mem_flatMap.1 member
  exact List.all_eq_true.1 (isInert_encodeByte byte) character written

theorem notMem_encode {text : String} {mark : Char} (ends : isInert mark = false) :
    mark ∉ Text.Percent.encode escapedInCookie text := by
  intro member
  rw [isInert_of_mem_encode member] at ends
  cases ends

theorem isBlank_of_isInert {character : Char} (inert : isInert character = true) :
    Text.isBlank character = false := by
  simp only [isInert, Bool.and_eq_true, decide_eq_true_eq] at inert
  simp only [Text.isBlank, Text.blankRanges, List.any_cons, List.any_nil, Bool.or_false,
    Bool.or_eq_false_iff, Bool.and_eq_false_iff, decide_eq_false_iff_not]
  omega

theorem isReadable_of_isInert {characters : List Char}
    (inert : ∀ character ∈ characters, isInert character = true) :
    isReadable (String.ofList characters) = true := by
  rw [isReadable, String.toList_ofList, List.all_eq_true]
  intro character member
  have bounds := inert character member
  simp only [isInert, Bool.and_eq_true, decide_eq_true_eq] at bounds
  simp only [Bool.or_eq_true, Bool.and_eq_true, decide_eq_true_eq]
  omega

theorem isSound_escapedInCookie : Text.Percent.IsSound escapedInCookie :=
  Text.forall_byte (by decide +kernel)

/-! ## The pair -/

section Pair

variable {name value : String}

theorem unescape?_encode (text : String) :
    unescape? (Text.Percent.encode escapedInCookie text) = some text := by
  rw [unescape?, Text.Percent.decode_encode isSound_escapedInCookie, Text.ofUtf8?_utf8]

theorem stripBoth_encode (text : String) :
    Text.stripBoth Text.isBlank (Text.Percent.encode escapedInCookie text) =
      Text.Percent.encode escapedInCookie text :=
  stripBoth_of_forall_not fun _ member => isBlank_of_isInert (isInert_of_mem_encode member)

theorem encode_ne_nil (named : name ≠ "") : Text.Percent.encode escapedInCookie name ≠ [] := by
  intro nothing
  have read := unescape?_encode name
  rw [nothing] at read
  exact named (Option.some.inj read).symm

/-- **The pair of a cookie is read as its name and its value**, whatever they hold. -/
theorem readPair?_cookiePair (named : name ≠ "") (value : String) :
    readPair? (cookiePair name value) = some (name, value) := by
  have filled := encode_ne_nil named
  rw [readPair?, cookiePair, splitFirst?_append (notMem_encode (by decide))]
  simp [stripBoth_encode, filled, unescape?_encode]

/-- Blanks in front of a piece are left out. -/
theorem readPair?_cons_space (piece : List Char) : readPair? (' ' :: piece) = readPair? piece := by
  have spaced (characters : List Char) : Text.stripBoth Text.isBlank (' ' :: characters) =
      Text.stripBoth Text.isBlank characters := by
    have blanks : Text.stripBoth Text.isBlank ([' '] ++ characters ++ []) =
        Text.stripBoth Text.isBlank characters :=
      stripBoth_surround (List.forall_mem_singleton.2 rfl) (List.forall_mem_nil _) characters
    rwa [List.append_nil] at blanks
  have cut : Text.splitFirst? '=' (' ' :: piece) =
      (Text.splitFirst? '=' piece).map fun parts => (' ' :: parts.1, parts.2) := rfl
  rw [readPair?, readPair?, cut]
  cases Text.splitFirst? '=' piece with
  | none => rfl
  | some parts => simp [spaced]

/-- The pair at the start of the text of a cookie that is set: all in front of its first
semicolon. -/
def pairOf (text : String) : List Char :=
  text.toList.takeWhile (· ≠ ';')

theorem semicolon_notMem_cookiePair : ';' ∉ cookiePair name value := by
  intro member
  rcases List.mem_append.1 member with inName | rest
  · exact notMem_encode (by decide) inName
  · rcases List.mem_cons.1 rest with same | inValue
    · exact absurd same (by decide)
    · exact notMem_encode (by decide) inValue

theorem pairOf_setCookieText (settings : Settings.Cookie) (value : String) (maxAge : Int) :
    pairOf (setCookieText settings value maxAge) = cookiePair settings.name value := by
  obtain ⟨rest, text⟩ : ∃ rest, (setCookieText settings value maxAge).toList =
      cookiePair settings.name value ++ ';' :: rest := by
    simp only [setCookieText, String.toList_append, String.toList_ofList, List.append_assoc]
    exact ⟨_, rfl⟩
  have kept : ∀ character ∈ cookiePair settings.name value,
      decide (character ≠ ';') = true := by
    intro character member
    exact decide_eq_true fun same => semicolon_notMem_cookiePair (same ▸ member)
  rw [pairOf, text, List.takeWhile_append_of_pos kept, List.takeWhile_cons_of_neg (by decide),
    List.append_nil]

end Pair

/-! ## Cookies that are set -/

section Setting

/-- The name and the value of the cookie that a text sets: what stands before and after the first
equals sign in its pair, without escapes. -/
def cookieSet? (text : String) : Option (String × String) := do
  let (name, value) ← Text.splitFirst? '=' (pairOf text)
  some (← unescape? name, ← unescape? value)

/-- The text sets the refresh cookie to a value, to be kept from scripts and from other sites for so
many seconds, and for secured connections only if the settings say so. -/
structure IsRefreshCookie (settings : Settings.Cookie) (value : String) (maxAge : Int)
    (text : String) : Prop where
  sets : cookieSet? text = some (settings.name, value)
  attributes : text = String.ofList (pairOf text) ++
    ("; HttpOnly; SameSite=Lax" ++ (if settings.secure then "; Secure" else "") ++
      "; Path=" ++ settings.path ++ "; Max-Age=" ++ String.ofList (Text.signedDigits maxAge))

theorem isRefreshCookie_setCookieText (settings : Settings.Cookie) (value : String)
    (maxAge : Int) :
    IsRefreshCookie settings value maxAge (setCookieText settings value maxAge) where
  sets := by
    rw [cookieSet?, pairOf_setCookieText, cookiePair, splitFirst?_append (notMem_encode (by decide))]
    simp [unescape?_encode]
  attributes := by
    rw [pairOf_setCookieText, setCookieText]
    simp only [String.append_assoc]

end Setting

/-! ## Header fields -/

section Headers

variable {settings : Settings.Cookie}

theorem isReadable_append (first second : List Char) :
    isReadable (String.ofList (first ++ second)) =
      (isReadable (String.ofList first) && isReadable (String.ofList second)) := by
  simp only [isReadable, String.toList_ofList, List.all_append]

/-- A piece that can stand between the semicolons of a cookie header. -/
structure IsPiece (piece : List Char) : Prop where
  readable : isReadable (String.ofList piece) = true
  undivided : ';' ∉ piece

theorem IsPiece.cons_space {piece : List Char} (isPiece : IsPiece piece) :
    IsPiece (' ' :: piece) where
  readable := by
    rw [← List.singleton_append, isReadable_append, isPiece.readable]
    decide
  undivided member := isPiece.undivided ((List.mem_cons.1 member).resolve_left (by decide))

theorem isPiece_cookiePair (name value : String) : IsPiece (cookiePair name value) where
  readable := by
    rw [cookiePair, ← List.singleton_append, isReadable_append, isReadable_append,
      isReadable_of_isInert fun _ => isInert_of_mem_encode,
      isReadable_of_isInert fun _ => isInert_of_mem_encode]
    decide
  undivided := semicolon_notMem_cookiePair

theorem isReadable_joinWith {pieces : List (List Char)} (whole : ∀ piece ∈ pieces, IsPiece piece) :
    isReadable (String.ofList (Text.joinWith ';' pieces)) = true := by
  induction pieces with
  | nil => decide
  | cons piece pieces ih =>
    rw [List.forall_mem_cons] at whole
    cases pieces with
    | nil => exact whole.1.readable
    | cons next rest =>
      rw [Text.joinWith, ← List.singleton_append, isReadable_append, isReadable_append,
        whole.1.readable, ih whole.2]
      · decide
      · exact List.cons_ne_nil _ _

/-- The value of a cookie header that holds some pieces: a semicolon and a space stand between each
two. -/
def cookieLine : List (List Char) → String
  | [] => ""
  | piece :: pieces => String.ofList (Text.joinWith ';' (piece :: pieces.map (' ' :: ·)))

/-- The cookies of a header field are what its pieces are read as. -/
theorem readCookies_cookieLine {pieces : List (List Char)}
    (whole : ∀ piece ∈ pieces, IsPiece piece) :
    readCookies [cookieLine pieces] = pieces.filterMap readPair? := by
  cases pieces with
  | nil => decide
  | cons piece pieces =>
    rw [List.forall_mem_cons] at whole
    have spaced : ∀ other ∈ piece :: pieces.map (' ' :: ·), IsPiece other := by
      refine List.forall_mem_cons.2 ⟨whole.1, fun other member => ?_⟩
      obtain ⟨later, held, rfl⟩ := List.mem_map.1 member
      exact (whole.2 later held).cons_space
    have read : readPair? ∘ (' ' :: ·) = readPair? := funext readPair?_cons_space
    have cut := splitOn_joinWith (List.cons_ne_nil _ _) fun other member =>
      (spaced other member).undivided
    rw [readCookies, cookieLine, List.filter_cons_of_pos (isReadable_joinWith spaced),
      List.filter_nil, List.flatMap_singleton, String.toList_ofList, cut, List.filterMap_cons,
      List.filterMap_map, read, List.filterMap_cons]

theorem readCookies_append (first second : List String) :
    readCookies (first ++ second) = readCookies first ++ readCookies second := by
  rw [readCookies, List.filter_append, List.flatMap_append, readCookies, readCookies]

/-- **The value of the refresh cookie is found among any cookies**, unless a later one has its name.
An empty value counts as none. -/
theorem refreshValue?_cookieLine (named : settings.name ≠ "") (value : String)
    {earlier later : List String} {before after : List (List Char)}
    (whole : ∀ piece ∈ before ++ after, IsPiece piece)
    (differ : ∀ cookie ∈ after.filterMap readPair? ++ readCookies later,
      cookie.1 ≠ settings.name) :
    refreshValue? settings
        (earlier ++ cookieLine (before ++ cookiePair settings.name value :: after) :: later) =
      if value = "" then none else some value := by
  have pieces : ∀ piece ∈ before ++ cookiePair settings.name value :: after, IsPiece piece := by
    rw [List.forall_mem_append, List.forall_mem_cons]
    rw [List.forall_mem_append] at whole
    exact ⟨whole.1, isPiece_cookiePair _ _, whole.2⟩
  have cookies : readCookies
      (earlier ++ cookieLine (before ++ cookiePair settings.name value :: after) :: later) =
      (readCookies earlier ++ before.filterMap readPair?) ++
        (settings.name, value) :: (after.filterMap readPair? ++ readCookies later) := by
    rw [← List.singleton_append, readCookies_append, readCookies_append,
      readCookies_cookieLine pieces, List.filterMap_append, List.filterMap_cons,
      readPair?_cookiePair named]
    simp
  have noneLater : (after.filterMap readPair? ++ readCookies later).reverse.find?
      (fun cookie => cookie.1 = settings.name) = none :=
    List.find?_eq_none.2 fun cookie member =>
      mt of_decide_eq_true (differ cookie (List.mem_reverse.1 member))
  have found : ((settings.name, value) ::
      (readCookies earlier ++ before.filterMap readPair?).reverse).find?
        (fun cookie => cookie.1 = settings.name) = some (settings.name, value) :=
    List.find?_cons_of_pos (decide_eq_true rfl)
  rw [refreshValue?, cookies, List.reverse_append, List.reverse_cons, List.append_assoc,
    List.find?_append, noneLater, Option.none_or, List.singleton_append, found, Option.map_some,
    Option.filter_some]
  by_cases empty : value = ""
  · simp [empty]
  · simp [empty]

/-- **The refresh cookie survives the round trip.**  The pair of the cookie that is set, sent back
alone or among other cookies, of which no later one has its name, is read as its value, and the pair
of the cookie that takes it away as none. -/
theorem refreshCookie_returns (settings : Settings.Cookie) (named : settings.name ≠ "")
    {earlier later : List String} {before after : List (List Char)}
    (whole : ∀ piece ∈ before ++ after, IsPiece piece)
    (differ : ∀ cookie ∈ after.filterMap readPair? ++ readCookies later,
      cookie.1 ≠ settings.name) :
    (∀ value maxAge, value ≠ "" →
      refreshValue? settings (earlier ++
        cookieLine (before ++ pairOf (setCookieText settings value maxAge) :: after) :: later) =
          some value) ∧
      refreshValue? settings (earlier ++
        cookieLine (before ++ pairOf (clearCookieText settings) :: after) :: later) = none := by
  constructor
  · intro value maxAge filled
    rw [pairOf_setCookieText, refreshValue?_cookieLine named value whole differ, if_neg filled]
  · rw [clearCookieText, pairOf_setCookieText, refreshValue?_cookieLine named "" whole differ,
      if_pos rfl]

/-- A cookie whose name and value hold every mark of a cookie header, sent back behind another one
with its name and in front of others. -/
theorem refreshCookie_returns_odd :
    refreshValue? ⟨"r; é=1", "/", true⟩
        (["theme=dark"] ++
          cookieLine (["r%3B%20%C3%A9%3D1=old".toList] ++
            pairOf (setCookieText ⟨"r; é=1", "/", true⟩ " a=b; \"%41\"," 60) ::
              ["lang = ko".toList, "=x".toList]) :: ["\n"]) = some " a=b; \"%41\"," ∧
      refreshValue? ⟨"r; é=1", "/", true⟩
        ([] ++ cookieLine ([] ++ pairOf (clearCookieText ⟨"r; é=1", "/", true⟩) :: []) :: []) =
          none := by
  constructor
  · refine (refreshCookie_returns ⟨"r; é=1", "/", true⟩ (by decide) ?_ ?_).1 _ 60 (by decide)
    · simp only [List.cons_append, List.nil_append, List.forall_mem_cons]
      exact ⟨⟨by decide, by decide⟩, ⟨by decide, by decide⟩, ⟨by decide, by decide⟩,
        List.forall_mem_nil _⟩
    · decide +kernel
  · exact (refreshCookie_returns _ (by decide) (List.forall_mem_nil _) (List.forall_mem_nil _)).2

end Headers

/-! ## Responses that set the cookie -/

section Responses

variable {settings : Settings.Cookie} {value : String} {maxAge : Int} {response : Response}

/-- A response sets the refresh cookie to a value, and sets no other.  A client that keeps the
cookie and sends its pair back presents this value. -/
def SetsCookie (settings : Settings.Cookie) (value : String) (maxAge : Int)
    (response : Response) : Prop :=
  ∃ text, response.valuesOf "set-cookie" = [text] ∧ IsRefreshCookie settings value maxAge text ∧
    (settings.name ≠ "" → value ≠ "" →
      refreshValue? settings [String.ofList (pairOf text)] = some value)

theorem setsCookie_of_valuesOf
    (set : response.valuesOf "set-cookie" = [setCookieText settings value maxAge]) :
    SetsCookie settings value maxAge response := by
  refine ⟨_, set, isRefreshCookie_setCookieText settings value maxAge, fun named filled => ?_⟩
  have alone : refreshValue? settings
      ([] ++ cookieLine ([] ++ cookiePair settings.name value :: []) :: []) = _ :=
    refreshValue?_cookieLine named value (List.forall_mem_nil _) (List.forall_mem_nil _)
  rw [if_neg filled] at alone
  rw [pairOf_setCookieText]
  exact alone

end Responses

end SignOn.Http
