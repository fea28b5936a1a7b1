import SignOn.Proofs.Engine.Resolving
import SignOn.Proofs.Json.Record

/-!
# Payloads that say the same

A provider describes a user in an object with members that nobody asks for, in any order, and it may
leave a text out by not naming it, by null or by blanks.  Two such payloads are alike (`Alike`) when
they differ in these ways alone, at the top as well as inside the two records of a payload that has
some, or by spelling the number of an account as a text.

All that a profile shows comes from what can be seen of the fields: an optional text without its
blanks (`Profile.present`), and the texts of a record that is left out or empty (`Profile.seen`).
Payloads that are alike look the same there, so they give the same profile or lack the same
(`Profile.ofPayload_of_alike`), and a login, which reads nothing else of them, cannot tell them apart
(`Engine.normalises_payloads`).  The other way, what a profile shows stands in its payload as it is
(`Profile.takesOver_ofPayload`).
-/

namespace SignOn

set_option autoImplicit false

open Json (Says fieldOf? valuesOf fieldOf?_valuesOf exists_fieldOf?_eq_none)

/-! ## Payloads that say the same -/

/-- The values of a name leave an optional text out: the field is missing, null, or holds nothing
but blanks. -/
inductive LeavesOut : List Json → Prop
  | missing : LeavesOut []
  | null : LeavesOut [.null]
  | blank {text : String} (blank : Text.allBlank text = true) : LeavesOut [.string text]

/-- The values of a name in two payloads say the same about an optional text. -/
inductive SameText : List Json → List Json → Prop
  | equal (values : List Json) : SameText values values
  | leftOut {first second : List Json} (here : LeavesOut first) (there : LeavesOut second) :
      SameText first second

/-- The values of a name in two payloads say the same about an account that has a number or a text,
which may spell the number. -/
inductive SameAccount : List Json → List Json → Prop
  | text {first second : List Json} (same : SameText first second) : SameAccount first second
  | spelled {value : Int} (least : -9223372036854775808 ≤ value)
      (greatest : value ≤ 9223372036854775807) :
      SameAccount [.number (.integer value)] [.string (String.ofList (Text.signedDigits value))]
  | unspelled {value : Int} (least : -9223372036854775808 ≤ value)
      (greatest : value ≤ 9223372036854775807) :
      SameAccount [.string (String.ofList (Text.signedDigits value))] [.number (.integer value)]

/-- The values of a name leave a record of optional texts out, or all of its texts. -/
inductive LeavesAllOut (names : List String) : List Json → Prop
  | missing : LeavesAllOut names []
  | null : LeavesAllOut names [.null]
  | empty {members : List (String × Json)}
      (leftOut : ∀ name ∈ names, LeavesOut (valuesOf name members)) :
      LeavesAllOut names [.object members]

/-- The values of a name in two payloads say the same about a record of optional texts. -/
inductive SameTexts (names : List String) : List Json → List Json → Prop
  | equal (values : List Json) : SameTexts names values values
  | objects {first second : List (String × Json)}
      (same : ∀ name ∈ names, SameText (valuesOf name first) (valuesOf name second)) :
      SameTexts names [.object first] [.object second]
  | leftOut {first second : List Json} (here : LeavesAllOut names first)
      (there : LeavesAllOut names second) : SameTexts names first second

/-- Two payloads of a provider, both of them objects, differ in nothing that is asked for. -/
inductive Alike : Provider → Json → Json → Prop
  | google {first second : List (String × Json)}
      (texts : ∀ name ∈ ["sub", "name", "email"],
        SameText (valuesOf name first) (valuesOf name second)) :
      Alike .google (.object first) (.object second)
  | kakao {first second : List (String × Json)}
      (account : SameAccount (valuesOf "id" first) (valuesOf "id" second))
      (properties : SameTexts ["nickname"] (valuesOf "properties" first)
        (valuesOf "properties" second))
      (details : SameTexts ["email", "ci"] (valuesOf "kakao_account" first)
        (valuesOf "kakao_account" second)) :
      Alike .kakao (.object first) (.object second)

/-! ## What is read of them -/

namespace Profile

variable {names : List String} {members first second : List (String × Json)}
  {payload other : Json} {read : Json → Option String} {values others : List Json}

/-! ### Optional texts -/

/-- The optional text that the values of a name are read as, if they are read. -/
def readOptional (read : Json → Option String) (values : List Json) : Option (Option String) :=
  (fieldOf? values).bind (Field.optional read)

theorem readOptional_eq_none (several : fieldOf? values = none) :
    readOptional read values = none := by
  rw [readOptional, several, Option.bind_none]

theorem present_of_leavesOut (texts : ∀ text, read (.string text) = some text)
    (leftOut : LeavesOut values) : (readOptional read values).map present = some none := by
  cases leftOut with
  | missing => rfl
  | null => rfl
  | @blank text blank =>
    change ((read (.string text)).map some).map present = _
    rw [texts, Option.map_some, Option.map_some, present, Option.filter_some, blank]
    rfl

theorem present_of_sameText (texts : ∀ text, read (.string text) = some text)
    (same : SameText values others) :
    (readOptional read values).map present = (readOptional read others).map present := by
  cases same with
  | equal => rfl
  | leftOut here there => rw [present_of_leavesOut texts here, present_of_leavesOut texts there]

/-- A number and the text that spells it are one account. -/
theorem readOptional_spelled {value : Int} (greatest : value ≤ 9223372036854775807) :
    readOptional readAccount [.number (.integer value)] =
      readOptional readAccount [.string (String.ofList (Text.signedDigits value))] :=
  congrArg (Option.map some) (if_pos greatest)

theorem present_of_sameAccount (same : SameAccount values others) :
    (readOptional readAccount values).map present =
      (readOptional readAccount others).map present := by
  cases same with
  | text same => exact present_of_sameText (fun _ => rfl) same
  | spelled _ greatest => rw [readOptional_spelled greatest]
  | unspelled _ greatest => rw [readOptional_spelled greatest]

/-! ### Lists of optional texts -/

theorem mapM_congr {α β : Type} {items : List α} {read other : α → Option β}
    (same : ∀ item ∈ items, read item = other item) : items.mapM read = items.mapM other := by
  induction items with
  | nil => rfl
  | cons item rest ih =>
    rw [List.forall_mem_cons] at same
    rw [List.mapM_cons, List.mapM_cons, same.1, ih same.2]

theorem mapM_eq_none {α β : Type} {items : List α} {read : α → Option β} {unread : α}
    (member : unread ∈ items) (fails : read unread = none) : items.mapM read = none := by
  induction items with
  | nil => cases member
  | cons item rest ih =>
    rw [List.mapM_cons]
    rcases List.mem_cons.1 member with rfl | later
    · rw [fails]
      rfl
    · rw [ih later]
      cases read item <;> rfl

theorem map_mapM {α β γ : Type} (items : List α) (read : α → Option β) (see : β → γ) :
    (items.mapM read).map (List.map see) = items.mapM fun item => (read item).map see := by
  induction items with
  | nil => rfl
  | cons item rest ih =>
    rw [List.mapM_cons, List.mapM_cons, ← ih]
    cases read item with
    | none => rfl
    | some value => cases rest.mapM read <;> rfl

/-- The texts of an object are read name by name. -/
theorem readTexts_object (names : List String) (members : List (String × Json)) :
    readTexts names (.object members) =
      names.mapM fun name => readOptional Json.asString? (valuesOf name members) := by
  unfold readTexts
  cases read : Json.fields? names (.object members) with
  | none =>
    obtain ⟨name, member, several⟩ := exists_fieldOf?_eq_none read
    rw [mapM_eq_none member (readOptional_eq_none several)]
    rfl
  | some field =>
    refine mapM_congr fun name member => ?_
    rw [readOptional, fieldOf?_valuesOf read member, Option.bind_some]

theorem textAt_eq (texts : List (Option String)) (place : Nat) :
    textAt texts place = ((texts.map present)[place]?).join := by
  rw [textAt, List.getElem?_map]
  cases texts[place]? with
  | none => rfl
  | some text => rfl

/-- What can be seen of the texts of two objects is the same. -/
theorem present_readTexts (same : ∀ name ∈ names,
      SameText (valuesOf name first) (valuesOf name second)) :
    (readTexts names (.object first)).map (List.map present) =
      (readTexts names (.object second)).map (List.map present) := by
  rw [readTexts_object, readTexts_object, map_mapM, map_mapM]
  exact mapM_congr fun name member => present_of_sameText (fun _ => rfl) (same name member)

/-! ### Records of optional texts -/

/-- The record of optional texts that the values of a name are read as, if they are read. -/
def readRecord (names : List String) (values : List Json) :
    Option (Option (List (Option String))) :=
  (fieldOf? values).bind (Field.orElse none (Json.nullable (readTexts names)))

theorem readRecord_eq_none (several : fieldOf? values = none) : readRecord names values = none := by
  rw [readRecord, several, Option.bind_none]

/-- What can be seen of a record of optional texts. -/
def seen (record : Option (List (Option String))) : Nat → Option String :=
  textAt (record.getD [])

theorem seen_object (names : List String) (members : List (String × Json)) :
    (readRecord names [.object members]).map seen =
      ((readTexts names (.object members)).map (List.map present)).map
        fun texts place => texts[place]?.join := by
  change ((readTexts names (.object members)).map some).map seen = _
  rw [Option.map_map, Option.map_map]
  congr 1
  funext texts place
  exact textAt_eq texts place

theorem seen_of_leavesAllOut (leftOut : LeavesAllOut names values) :
    (readRecord names values).map seen = some fun _ => none := by
  cases leftOut with
  | missing => rfl
  | null => rfl
  | @empty members leftOut =>
    have nothing : (readTexts names (.object members)).map (List.map present) =
        some (names.map fun _ => none) := by
      rw [readTexts_object, map_mapM, mapM_congr fun name member =>
        present_of_leavesOut (fun _ => rfl) (leftOut name member)]
      exact List.mapM_pure
    rw [seen_object, nothing, Option.map_some]
    congr 1
    funext place
    rw [List.getElem?_map]
    cases names[place]? <;> rfl

theorem seen_of_sameTexts (same : SameTexts names values others) :
    (readRecord names values).map seen = (readRecord names others).map seen := by
  cases same with
  | equal => rfl
  | objects same => rw [seen_object, seen_object, present_readTexts same]
  | leftOut here there => rw [seen_of_leavesAllOut here, seen_of_leavesAllOut there]

/-! ### The two shapes -/

theorem ofGoogle_eq
    (texts : (readTexts ["sub", "name", "email"] payload).map (List.map present) =
      (readTexts ["sub", "name", "email"] other).map (List.map present)) :
    ofGoogle payload = ofGoogle other := by
  unfold ofGoogle
  cases here : readTexts ["sub", "name", "email"] payload with
  | none =>
    rw [here, Option.map_none, eq_comm, Option.map_eq_none_iff] at texts
    rw [texts]
  | some found =>
    rw [here, Option.map_some, eq_comm, Option.map_eq_some_iff] at texts
    obtain ⟨others, there, same⟩ := texts
    simp only [there, textAt_eq, same]

/-- An object with an account and two records is read field by field. -/
theorem readKakao_object (members : List (String × Json)) :
    readKakao (.object members) =
      (readOptional readAccount (valuesOf "id" members)).bind fun account =>
        (readRecord ["nickname"] (valuesOf "properties" members)).bind fun properties =>
          (readRecord ["email", "ci"] (valuesOf "kakao_account" members)).bind fun details =>
            some (account, properties.getD [], details.getD []) := by
  unfold readKakao
  cases read : Json.fields? ["id", "properties", "kakao_account"] (.object members) with
  | none =>
    obtain ⟨name, member, several⟩ := exists_fieldOf?_eq_none read
    simp only [List.mem_cons, List.not_mem_nil, or_false] at member
    rcases member with rfl | rfl | rfl
    · rw [readOptional_eq_none several]
      rfl
    · rw [readRecord_eq_none several]
      cases readOptional readAccount (valuesOf "id" members) <;> rfl
    · have unread : readRecord ["email", "ci"] (valuesOf "kakao_account" members) = none :=
        readRecord_eq_none several
      rw [unread]
      cases readOptional readAccount (valuesOf "id" members) with
      | none => rfl
      | some account => cases readRecord ["nickname"] (valuesOf "properties" members) <;> rfl
  | some field =>
    have told {name : String} (member : name ∈ ["id", "properties", "kakao_account"]) :=
      fieldOf?_valuesOf read member
    rw [readOptional, readRecord, readRecord, told (by simp), told (by simp), told (by simp)]
    rfl

theorem ofKakao_object (members : List (String × Json)) :
    ofKakao (.object members) =
      match (((readOptional readAccount (valuesOf "id" members)).map present),
        (readRecord ["nickname"] (valuesOf "properties" members)).map seen,
        (readRecord ["email", "ci"] (valuesOf "kakao_account" members)).map seen) with
      | (some account, some properties, some details) =>
          match account with
          | none => lacking "id"
          | some account => .ok ⟨.kakao, account, properties 0, details 0, details 1⟩
      | _ => lacking "profile" := by
  rw [ofKakao, readKakao_object]
  cases readOptional readAccount (valuesOf "id" members) with
  | none => rfl
  | some account =>
    cases readRecord ["nickname"] (valuesOf "properties" members) with
    | none => rfl
    | some properties =>
      cases readRecord ["email", "ci"] (valuesOf "kakao_account" members) with
      | none => rfl
      | some details => rfl

/-- **Payloads that differ in nothing that is asked for give one profile**, or lack the same. -/
theorem ofPayload_of_alike {provider : Provider} (alike : Alike provider payload other) :
    ofPayload provider payload = ofPayload provider other := by
  cases alike with
  | google texts => exact ofGoogle_eq (present_readTexts texts)
  | kakao account properties details =>
    rw [ofPayload, ofPayload, ofKakao_object, ofKakao_object, present_of_sameAccount account,
      seen_of_sameTexts properties, seen_of_sameTexts details]

/-! ## What a profile takes over -/

/-- A record says a text about one of its fields, which does not hold blanks alone. -/
structure SaysText (names : List String) (name : String) (json : Json) (text : String) : Prop where
  said : Says names name json (.string text)
  filled : Text.allBlank text = false

/-- A record says the text or the number of an account. -/
inductive SaysAccount (names : List String) (name : String) (json : Json) : String → Prop
  | text {account : String} (said : Says names name json (.string account)) :
      SaysAccount names name json account
  | number {value : Int} (said : Says names name json (.number (.integer value))) :
      SaysAccount names name json (String.ofList (Text.signedDigits value))

/-- A profile has an account that is not blank, and holds those texts of its payload that are not,
as they stand there, and nothing else. -/
inductive TakesOver : Provider → Json → Profile → Prop
  | google {payload : Json} {profile : Profile} (provider : profile.provider = .google)
      (account : SaysText ["sub", "name", "email"] "sub" payload profile.account)
      (nickname : ∀ text, profile.nickname = some text ↔
        SaysText ["sub", "name", "email"] "name" payload text)
      (email : ∀ text, profile.email = some text ↔
        SaysText ["sub", "name", "email"] "email" payload text)
      (verifiedIdentifier : profile.verifiedIdentifier = none) :
      TakesOver .google payload profile
  | kakao {payload : Json} {profile : Profile} (provider : profile.provider = .kakao)
      (account : SaysAccount ["id", "properties", "kakao_account"] "id" payload profile.account)
      (filled : Text.allBlank profile.account = false)
      (nickname : ∀ text, profile.nickname = some text ↔
        ∃ properties, Says ["id", "properties", "kakao_account"] "properties" payload properties ∧
          SaysText ["nickname"] "nickname" properties text)
      (email : ∀ text, profile.email = some text ↔
        ∃ details, Says ["id", "properties", "kakao_account"] "kakao_account" payload details ∧
          SaysText ["email", "ci"] "email" details text)
      (verifiedIdentifier : ∀ text, profile.verifiedIdentifier = some text ↔
        ∃ details, Says ["id", "properties", "kakao_account"] "kakao_account" payload details ∧
          SaysText ["email", "ci"] "ci" details text) :
      TakesOver .kakao payload profile

section TakesOver

variable {json : Json} {text : String} {texts : List (Option String)} {field : Field Json}
  {sent : Option String} {record : Option (List (Option String))}

theorem present_eq_some_iff :
    present sent = some text ↔ sent = some text ∧ Text.allBlank text = false := by
  rw [present, Option.filter_eq_some_iff, Bool.not_eq_true']

theorem present_eq_some_iff_given (read : field.optional Json.asString? = some sent) :
    present sent = some text ↔
      field = .given (.string text) ∧ Text.allBlank text = false := by
  rw [present_eq_some_iff]
  refine and_congr_left fun _ => ?_
  cases field with
  | missing =>
    cases read
    simp
  | cutOff => cases read
  | given value =>
    cases value with
    | null =>
      cases read
      simp
    | string found =>
      cases read
      simp
    | boolean | number | array | object | unreadable => cases read

theorem getElem?_of_mapM {α β : Type} {items : List α} {read : α → Option β} {values : List β}
    (all : items.mapM read = some values) {place : Nat} {item : α}
    (held : items[place]? = some item) :
    ∃ value, values[place]? = some value ∧ read item = some value := by
  induction items generalizing values place with
  | nil => simp at held
  | cons first rest ih =>
    rw [List.mapM_cons] at all
    obtain ⟨value, told, all⟩ := Option.bind_eq_some_iff.1 all
    obtain ⟨others, told', same⟩ := Option.bind_eq_some_iff.1 all
    cases same
    cases place with
    | zero =>
      cases held
      exact ⟨value, rfl, told⟩
    | succ place => exact ih told' held

/-- A text is seen at a place exactly if the record says it there. -/
theorem textAt_eq_some_iff (read : readTexts names json = some texts) {place : Nat} {name : String}
    (held : names[place]? = some name) :
    textAt texts place = some text ↔ SaysText names name json text := by
  obtain ⟨field, told, all⟩ := Option.bind_eq_some_iff.1 read
  obtain ⟨sent, found, optional⟩ := getElem?_of_mapM all held
  rw [textAt, found, Option.join_some, present_eq_some_iff_given optional,
    Says.iff_given told (List.mem_of_getElem? held)]
  exact ⟨fun both => ⟨both.1, both.2⟩, fun stated => ⟨stated.said, stated.filled⟩⟩

/-- A text is seen at a place of a record exactly if the record is there and says it. -/
theorem textAt_record_eq_some_iff
    (read : field.orElse none (Json.nullable (readTexts names)) = some record) {place : Nat}
    {name : String} (held : names[place]? = some name) :
    textAt (record.getD []) place = some text ↔
      ∃ inner, field = .given inner ∧ SaysText names name inner text := by
  cases field with
  | missing | cutOff =>
    cases read
    refine iff_of_false (by simp [textAt, present]) ?_
    rintro ⟨_, ⟨⟩, _⟩
  | given value =>
    simp only [Field.given.injEq, exists_eq_left']
    change Json.nullable (readTexts names) value = some record at read
    unfold Json.nullable at read
    split at read
    · cases read
      exact iff_of_false (by simp [textAt, present]) fun stated => nomatch stated.said
    · obtain ⟨texts, told, rfl⟩ := Option.map_eq_some_iff.1 read
      exact textAt_eq_some_iff told held

theorem saysAccount_of_present {account : String} {json : Json} {names : List String}
    {name : String} {fields : String → Field Json} (told : Json.fields? names json = some fields)
    (member : name ∈ names) (read : (fields name).optional readAccount = some sent)
    (found : present sent = some account) : SaysAccount names name json account := by
  obtain ⟨rfl, _⟩ := present_eq_some_iff.1 found
  cases given : fields name with
  | missing | cutOff =>
    rw [given] at read
    cases read
  | given value =>
    have stated := (Says.iff_given told member).1 given
    rw [given] at read
    change Json.nullable readAccount value = some (some account) at read
    cases value with
    | string text =>
      cases read
      exact .text stated
    | number number =>
      obtain ⟨_, spelled, ⟨⟩⟩ := Option.map_eq_some_iff.1 read
      cases number with
      | integer value =>
        simp only [readAccount, Option.ite_none_right_eq_some, Option.some.injEq] at spelled
        obtain ⟨_, rfl⟩ := spelled
        exact .number stated
      | real | tooLarge => cases spelled
    | null | boolean | array | object | unreadable => cases read

theorem takesOver_ofGoogle {profile : Profile} (parsed : ofGoogle payload = .ok profile) :
    TakesOver .google payload profile := by
  unfold ofGoogle at parsed
  split at parsed
  · cases parsed
  · next texts read =>
    split at parsed
    · cases parsed
    · next account found =>
      cases parsed
      exact .google rfl ((textAt_eq_some_iff read rfl).1 found)
        (fun _ => textAt_eq_some_iff read rfl) (fun _ => textAt_eq_some_iff read rfl) rfl

theorem takesOver_ofKakao {profile : Profile} (parsed : ofKakao payload = .ok profile) :
    TakesOver .kakao payload profile := by
  unfold ofKakao at parsed
  split at parsed
  · cases parsed
  · next account properties details read =>
    split at parsed
    · cases parsed
    · next id found =>
      cases parsed
      obtain ⟨fields, told, read⟩ := Option.bind_eq_some_iff.1 read
      obtain ⟨sent, readId, read⟩ := Option.bind_eq_some_iff.1 read
      obtain ⟨first, readProperties, read⟩ := Option.bind_eq_some_iff.1 read
      obtain ⟨second, readDetails, read⟩ := Option.bind_eq_some_iff.1 read
      cases read
      have seen {name : String} {names : List String} {record : Option (List (Option String))}
          {inner text : String} {place : Nat}
          (member : name ∈ ["id", "properties", "kakao_account"])
          (read : (fields name).orElse none (Json.nullable (readTexts names)) = some record)
          (held : names[place]? = some inner) :
          textAt (record.getD []) place = some text ↔
            ∃ value, Says ["id", "properties", "kakao_account"] name payload value ∧
              SaysText names inner value text := by
        rw [textAt_record_eq_some_iff read held]
        simp only [Says.iff_given told member]
      exact .kakao rfl (saysAccount_of_present told (by simp) readId found)
        (allBlank_of_present found) (fun _ => seen (by simp) readProperties rfl)
        (fun _ => seen (by simp) readDetails rfl) (fun _ => seen (by simp) readDetails rfl)

/-- **A profile takes over what its payload says**, as it is said there. -/
theorem takesOver_ofPayload {provider : Provider} {profile : Profile}
    (parsed : ofPayload provider payload = .ok profile) : TakesOver provider payload profile := by
  cases provider with
  | google => exact takesOver_ofGoogle parsed
  | kakao => exact takesOver_ofKakao parsed

end TakesOver

end Profile

namespace Engine

/-! ## Logins with payloads that say the same -/

/-- Two payloads of a provider cannot be told apart by what is read of them. -/
structure Interchangeable (provider : Provider) (first second : Json) : Prop where
  /-- They give the same profile or lack the same. -/
  profile : Profile.ofPayload provider first = Profile.ofPayload provider second
  /-- They are logins of the same account or turned down alike. -/
  account : (Callback.ofUserinfo provider first).map Callback.account =
    (Callback.ofUserinfo provider second).map Callback.account
  /-- Logins of any account with them end alike and leave the same behind. -/
  resolved : ∀ account world, (resolve ⟨provider, account, first⟩).on world =
    (resolve ⟨provider, account, second⟩).on world

theorem resolve_eq {provider : Provider} {first second : Json}
    (same : Profile.ofPayload provider first = Profile.ofPayload provider second)
    (account : String) :
    resolve ⟨provider, account, first⟩ = resolve ⟨provider, account, second⟩ := by
  unfold resolve
  dsimp only
  rw [same]
  rfl

/-- **The payloads of a provider are normalised.**  What a profile says stands in its payload, the
login with a payload is one of its account, and payloads that differ in nothing that is asked for
are interchangeable. -/
theorem normalises_payloads (provider : Provider) :
    (∀ payload profile, Profile.ofPayload provider payload = .ok profile →
      Profile.TakesOver provider payload profile ∧
        Callback.ofUserinfo provider payload = .ok ⟨provider, profile.account, payload⟩) ∧
    (∀ payload reason, Profile.ofPayload provider payload = .error reason →
      Callback.ofUserinfo provider payload = .error reason) ∧
    ∀ first second, Alike provider first second → Interchangeable provider first second := by
  refine ⟨?_, ?_, ?_⟩
  · intro payload profile parsed
    refine ⟨Profile.takesOver_ofPayload parsed, ?_⟩
    rw [Callback.ofUserinfo, parsed]
    rfl
  · intro payload reason unread
    rw [Callback.ofUserinfo, unread]
    rfl
  · intro first second alike
    have same := Profile.ofPayload_of_alike alike
    refine ⟨same, ?_, fun account world => by rw [resolve_eq same]⟩
    rw [Callback.ofUserinfo, Callback.ofUserinfo, same]
    cases Profile.ofPayload provider second <;> rfl

namespace Sample

/-- A payload with a number for the account, a blank name and a field that nobody asks for. -/
def numbered : Json :=
  .object [("id", .ofInt 7), ("properties", .object [("nickname", .string " \t")]),
    ("kakao_account", .object [("email", .string "k@x.com"), ("age", .null)])]

/-- A payload with a text for the account, in another order and without a name. -/
def spelled : Json :=
  .object [("kakao_account", .object [("ci", .string ""), ("email", .string "k@x.com")]),
    ("extra", .array [.null]), ("id", .string "7")]

theorem alike_numbered_spelled : Alike .kakao numbered spelled := by
  have account : SameAccount [.number (.integer 7)] [.string "7"] :=
    .spelled (by decide) (by decide)
  refine .kakao account (.leftOut (.empty ?_) .missing) (.objects ?_)
  · rw [List.forall_mem_singleton]
    exact .blank (by decide)
  · simp only [List.forall_mem_cons]
    exact ⟨.equal _, .leftOut .missing (.blank (by decide)), List.forall_mem_nil _⟩

end Sample

/-- The profile of two payloads of one account. -/
theorem normalises_payloads_spelled :
    Profile.ofPayload .kakao Sample.numbered = .ok ⟨.kakao, "7", none, some "k@x.com", none⟩ ∧
      Profile.TakesOver .kakao Sample.numbered ⟨.kakao, "7", none, some "k@x.com", none⟩ ∧
      Interchangeable .kakao Sample.numbered Sample.spelled := by
  have parsed : Profile.ofPayload .kakao Sample.numbered =
      .ok ⟨.kakao, "7", none, some "k@x.com", none⟩ := by
    rfl
  exact ⟨parsed, ((normalises_payloads .kakao).1 _ _ parsed).1,
    (normalises_payloads .kakao).2.2 _ _ Sample.alike_numbered_spelled⟩

end Engine

end SignOn
