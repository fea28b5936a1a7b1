import SignOn.Proofs.Credential.Verdict
import SignOn.Proofs.Json.RoundTrip
import SignOn.Proofs.Time.Instant

/-!
# Issued credentials

The text that carries some claims has the parts of a credential, with the one algorithm in its
header, the claims as the value of its payload, and the signature that is computed anew when it is
verified.  So verifying gives back the claims it was issued for until they expire
(`Codec.verify_encode`), and two such texts are the same only for the same claims
(`Codec.encode_injective`).

All of this holds of claims whose times are integers of sixty-four bits with a sign, which the
claims of every credential issued within the calendar are.
-/

namespace SignOn

set_option autoImplicit false

/-! ## Claims as a payload -/

namespace Claims

/-- The times of the claims are integers of sixty-four bits with a sign. -/
structure InRange (claims : Claims) : Prop where
  issued_least : Json.Number.leastInteger ≤ claims.issuedAt
  issued_greatest : claims.issuedAt ≤ Codec.lastSecond
  expires_least : Json.Number.leastInteger ≤ claims.expiresAt
  expires_greatest : claims.expiresAt ≤ Codec.lastSecond

variable {claims : Claims}

theorem isPlain_toJson (inRange : claims.InRange) : Json.IsPlain claims.toJson := by
  obtain ⟨issuedLeast, issuedGreatest, expiresLeast, expiresGreatest⟩ := inRange
  have fits (value : Int) (least : Json.Number.leastInteger ≤ value)
      (greatest : value ≤ Codec.lastSecond) : Json.Number.Fits value := by
    refine ⟨least, greatest.trans ?_⟩
    decide
  have issued := fits claims.issuedAt issuedLeast issuedGreatest
  have expires := fits claims.expiresAt expiresLeast expiresGreatest
  simp [toJson, Json.ofInt, Json.IsPlain, Json.HavePlain, issued, expires]

/-- A payload of claims says nothing about what is looked at only in passing. -/
theorem isClaimSet_toJson (claims : Claims) : isClaimSet claims.toJson = true := by
  simp [isClaimSet, toJson, Json.fields?, Json.saysOnce, fieldOfMembers]

theorem ofJson?_toJson (inRange : claims.InRange) : ofJson? claims.toJson = some claims := by
  have issued : (Json.ofInt claims.issuedAt).asSigned64? = some claims.issuedAt := by
    have greatest : claims.issuedAt ≤ 9223372036854775807 := inRange.issued_greatest
    simpa [Json.asSigned64?, Json.ofInt, Json.asInteger?, Option.filter] using greatest
  have expires : (Json.ofInt claims.expiresAt).asSigned64? = some claims.expiresAt := by
    have greatest : claims.expiresAt ≤ 9223372036854775807 := inRange.expires_greatest
    simpa [Json.asSigned64?, Json.ofInt, Json.asInteger?, Option.filter] using greatest
  have provider : Provider.ofName? claims.provider.name = some claims.provider :=
    Provider.ofName?_name claims.provider
  have kind : TokenKind.ofName? claims.kind.name = some claims.kind := by
    cases claims.kind <;> rfl
  simp [ofJson?, toJson, Json.fields?, Json.saysOnce, memberNames, fieldOfMembers, Field.required,
    Json.asString?, Json.asTag?, issued, expires, provider, kind]

/-- The payload written for some claims denotes them. -/
theorem denotes_payload (inRange : claims.InRange) :
    Denotes payloadClaims? (Text.Base64Url.encode (Text.utf8 claims.text)) claims := by
  refine ⟨_, rfl, ?_⟩
  rw [text, Json.ofBytes?_text (isPlain_toJson inRange), Option.bind_some, payloadClaims?,
    isClaimSet_toJson, if_pos rfl, ofJson?_toJson inRange]

end Claims

/-! ## The header -/

/-- The header of all issued credentials, as a value. -/
def Header.issuedJson : Json :=
  .object [("typ", .string "JWT"), ("alg", .string "HS256")]

theorem Header.text_issuedJson : Header.issuedJson.text = Header.issuedText := by
  decide +kernel

/-- The header written for all credentials names the one algorithm. -/
theorem Header.denotes_issued :
    Denotes Header.ofJson? (Text.Base64Url.encode (Text.utf8 Header.issuedText)) ⟨.hs256⟩ := by
  refine ⟨_, rfl, ?_⟩
  have plain : Json.IsPlain Header.issuedJson := by
    simp [Header.issuedJson, Json.IsPlain, Json.HavePlain]
  rw [← Header.text_issuedJson, Json.ofBytes?_text plain, Option.bind_some]
  decide +kernel

/-! ## The text of a credential -/

namespace Codec

variable (codec : Codec) (claims : Claims)

/-- The parts of the credential that carries some claims. -/
def issuedParts : Parts where
  header := Text.Base64Url.encode (Text.utf8 Header.issuedText)
  payload := Text.Base64Url.encode (Text.utf8 claims.text)
  signature := codec.signature (Text.Base64Url.encode (Text.utf8 Header.issuedText) ++
    '.' :: Text.Base64Url.encode (Text.utf8 claims.text))

theorem toList_encode : (codec.encode claims).toList = (codec.issuedParts claims).text := by
  simp [encode, issuedParts, Parts.text, Parts.signed]

theorem frame_encode : (codec.issuedParts claims).Frame (codec.encode claims).toList :=
  ⟨codec.toList_encode claims, Text.Base64Url.point_notMem_encode _,
    Text.Base64Url.point_notMem_encode _⟩

theorem signed_issuedParts : (codec.issuedParts claims).Signed codec.secret := rfl

/-- No character of a credential is blank. -/
theorem not_isBlank_of_mem_encode {character : Char}
    (member : character ∈ (codec.encode claims).toList) : Text.isBlank character = false := by
  rw [toList_encode] at member
  exact Parts.not_isBlank_of_mem_text
    (fun _ inside => Text.Base64Url.not_isBlank_of_mem_encode inside)
    (fun _ inside => Text.Base64Url.not_isBlank_of_mem_encode inside)
    (fun _ inside => Text.Base64Url.not_isBlank_of_mem_encode inside) character member

theorem trim_encode : Text.trim (codec.encode claims) = codec.encode claims := by
  rw [Text.trim, Text.stripBoth_of_forall_not fun character member =>
    codec.not_isBlank_of_mem_encode claims member, String.ofList_toList]

/-! ## Verifying what was issued -/

variable {claims}

/-- An issued credential carries the claims it was issued for, if their expiry is not negative. -/
theorem carries_encode (inRange : claims.InRange) {found : Claims} :
    codec.Carries (codec.encode claims) found ↔ found = claims ∧ 0 ≤ claims.expiresAt := by
  have frame := codec.frame_encode claims
  rw [← codec.trim_encode claims] at frame
  constructor
  · rintro ⟨parts, other, _, body, _⟩
    obtain rfl := other.unique frame
    obtain rfl := body.1.unique (Claims.denotes_payload inRange)
    exact ⟨rfl, body.2⟩
  · rintro ⟨rfl, natural⟩
    exact ⟨_, frame, Header.denotes_issued, ⟨Claims.denotes_payload inRange, natural⟩,
      codec.signed_issuedParts found⟩

/-- An issued credential is accepted, with the claims it carries, until they expire. -/
theorem verify_encode (inRange : claims.InRange) (now : Instant) {found : Claims} :
    codec.verify now (codec.encode claims) = .ok found ↔
      found = claims ∧ 0 ≤ claims.expiresAt ∧ now.seconds < claims.expiresAt := by
  rw [verify_eq_ok_iff, carries_encode codec inRange]
  constructor
  · rintro ⟨⟨rfl, natural⟩, live⟩
    exact ⟨rfl, natural, live⟩
  · rintro ⟨rfl, natural, live⟩
    exact ⟨⟨rfl, natural⟩, live⟩

theorem encode_injective {first second : Claims} (inRange : first.InRange)
    (alsoInRange : second.InRange) (same : codec.encode first = codec.encode second) :
    first = second := by
  have frame := codec.frame_encode second
  rw [← same] at frame
  have payload := congrArg Parts.payload ((codec.frame_encode first).unique frame)
  have denoted := Claims.denotes_payload alsoInRange
  change Text.Base64Url.encode (Text.utf8 first.text) =
    Text.Base64Url.encode (Text.utf8 second.text) at payload
  rw [← payload] at denoted
  exact (Claims.denotes_payload inRange).unique denoted

/-! ## Issuing -/

/-- The claims of a credential issued at an instant for a lifetime. -/
def issuedClaims (now : Instant) (identity : UserId) (kind : TokenKind) (lifetime : Duration)
    (tokenId : String) : Claims :=
  ⟨identity.email, identity.provider, kind, tokenId, now.seconds,
    min (now.seconds + lifetime.seconds) lastSecond⟩

variable {now : Instant} {identity : UserId} {kind : TokenKind} {lifetime : Duration}
  {tokenId : String}

theorem issue_eq_ok_iff {text : String} :
    codec.issue now identity kind lifetime tokenId = .ok text ↔
      (lifetime.seconds : Int) ≤ lastSecond ∧
        text = codec.encode (issuedClaims now identity kind lifetime tokenId) := by
  by_cases long : (lifetime.seconds : Int) > lastSecond
  · simp only [issue, if_pos long, reduceCtorEq, false_iff]
    exact fun both => Int.not_lt.2 both.1 long
  · rw [issue, if_neg long, Except.ok.injEq, eq_comm]
    exact ⟨fun same => ⟨Int.not_lt.1 long, same⟩, fun both => both.2⟩

/-- A lifetime that does not lead beyond all seconds is not cut short. -/
theorem expiresAt_issuedClaims (short : now.seconds + lifetime.seconds ≤ lastSecond) :
    (issuedClaims now identity kind lifetime tokenId).expiresAt =
      now.seconds + lifetime.seconds :=
  Int.min_eq_left short

/-- The claims of what is issued within the calendar are in range. -/
theorem inRange_issuedClaims (within : now.isRepresentable = true) :
    (issuedClaims now identity kind lifetime tokenId).InRange := by
  rw [Instant.isRepresentable_iff, Instant.firstSecond, Instant.lastSecond] at within
  constructor <;> simp only [issuedClaims, Json.Number.leastInteger, lastSecond] <;> omega

/-- What is issued in the calendar from 1970 on carries its claims and expires with its lifetime, if
that ends within the calendar. -/
theorem carries_issued (natural : 0 ≤ now.seconds) (within : now.isRepresentable = true)
    (dated : now.seconds + lifetime.seconds ≤ Instant.lastSecond) :
    codec.Carries (codec.encode (issuedClaims now identity kind lifetime tokenId))
        (issuedClaims now identity kind lifetime tokenId) ∧
      (issuedClaims now identity kind lifetime tokenId).expiresAt =
        now.seconds + lifetime.seconds := by
  have expiry : (issuedClaims now identity kind lifetime tokenId).expiresAt = _ :=
    expiresAt_issuedClaims (Int.le_trans dated (by decide))
  refine ⟨(carries_encode codec (inRange_issuedClaims within)).2 ⟨rfl, ?_⟩, expiry⟩
  rw [expiry]
  omega

end Codec

end SignOn
