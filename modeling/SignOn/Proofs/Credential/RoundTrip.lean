import SignOn.Proofs.Credential.Issuing

/-!
# Issuing and verifying

What is issued is a text of three segments (`Codec.hasThreeSegments_encode`), and it verifies as
what it was issued as, for whoever holds the secret and with any blanks around it, until its expiry
is reached (`Codec.verifyKind_issue`).  Nothing is asked of the e-mail address, the identifier and
the lifetime; the saturated expiry is part of the claims that come back.
-/

namespace SignOn

set_option autoImplicit false

/-! ## Segments -/

namespace Text.Base64Url

theorem digit_mem_alphabet : ∀ value < 64, digit value ∈ alphabet := by decide

/-- A segment of a credential: something is there, and all of it is in the alphabet. -/
def IsSegment (characters : List Char) : Prop :=
  characters ≠ [] ∧ ∀ character ∈ characters, character ∈ alphabet

theorem encode_eq_nil_iff {bytes : List UInt8} : encode bytes = [] ↔ bytes = [] :=
  encode_injective.eq_iff' rfl

theorem isSegment_encode {bytes : List UInt8} (something : bytes ≠ []) :
    IsSegment (encode bytes) := by
  refine ⟨fun nothing => something (encode_eq_nil_iff.1 nothing), fun character member => ?_⟩
  obtain ⟨value, small, rfl⟩ := exists_digit_of_mem_encode member
  exact digit_mem_alphabet value small

theorem IsSegment.point_notMem {characters : List Char} (segment : IsSegment characters) :
    '.' ∉ characters :=
  fun member => absurd (segment.2 '.' member) (by decide)

end Text.Base64Url

namespace Parts

/-- The three parts in their order. -/
def segments (parts : Parts) : List (List Char) :=
  [parts.header, parts.payload, parts.signature]

/-- Parts without points are what their text is cut to at every point. -/
theorem splitOn_text {parts : Parts} (pointless : ∀ segment ∈ parts.segments, '.' ∉ segment) :
    parts.text.splitOn '.' = parts.segments := by
  have joined : ['.'].intercalate parts.segments = parts.text := by
    simp [segments, text, signed, List.intercalate]
  rw [← joined]
  exact List.splitOn_intercalate '.' pointless (List.cons_ne_nil _ _)

end Parts

/-- A text is three segments with points between them. -/
def HasThreeSegments (text : String) : Prop :=
  ∃ header payload signature : List Char,
    text.toList.splitOn '.' = [header, payload, signature] ∧
      ∀ segment ∈ [header, payload, signature], Text.Base64Url.IsSegment segment

/-- A part that denotes something is a segment, for no JSON text is empty. -/
theorem Denotes.isSegment {α : Type} {read : Json → Option α} {part : List Char} {value : α}
    (denotes : Denotes read part value) : Text.Base64Url.IsSegment part := by
  obtain ⟨bytes, rfl, found⟩ := denotes
  refine Text.Base64Url.isSegment_encode fun nothing => ?_
  have empty : Json.ofBytes? [] = none := by decide
  rw [nothing, empty, Option.bind_none] at found
  cases found

namespace Codec

variable (codec : Codec) {claims : Claims}

theorem isSegment_signature (characters : List Char) :
    Text.Base64Url.IsSegment (codec.signature characters) := by
  refine Text.Base64Url.isSegment_encode fun nothing => ?_
  have long := congrArg List.length nothing
  rw [Hash.length_hmacSha256] at long
  cases long

theorem isSegment_of_mem_issuedParts (inRange : claims.InRange) {segment : List Char}
    (member : segment ∈ (codec.issuedParts claims).segments) :
    Text.Base64Url.IsSegment segment := by
  simp only [Parts.segments, issuedParts, List.mem_cons, List.not_mem_nil, or_false] at member
  obtain rfl | rfl | rfl := member
  · exact Header.denotes_issued.isSegment
  · exact (Claims.denotes_payload inRange).isSegment
  · exact codec.isSegment_signature _

/-- A credential for some claims is three segments with points between them. -/
theorem hasThreeSegments_encode (inRange : claims.InRange) :
    HasThreeSegments (codec.encode claims) := by
  have segments (segment : List Char) (member : segment ∈ (codec.issuedParts claims).segments) :=
    codec.isSegment_of_mem_issuedParts inRange member
  refine ⟨_, _, _, ?_, segments⟩
  rw [toList_encode]
  exact Parts.splitOn_text fun segment member => (segments segment member).point_notMem

/-! ## The round trip -/

variable {codec}

/-- What a text carries depends on the secret alone. -/
theorem Carries.of_secret {reader : Codec} (same : reader.secret = codec.secret) {raw : String}
    (carries : codec.Carries raw claims) : reader.Carries raw claims := by
  rw [Carries, same]
  exact carries

theorem Carries.surround {raw before after : String} (carries : codec.Carries raw claims)
    (first : Text.allBlank before = true) (last : Text.allBlank after = true) :
    codec.Carries (before ++ raw ++ after) claims := by
  rw [← carries_trim, Text.trim_surround first last, carries_trim]
  exact carries

/-- What carries claims is accepted as their kind until they expire, is expired for every kind from
then on, and until then names both kinds when it is taken for the other. -/
theorem Carries.verifyKind_eq {raw : String} (carries : codec.Carries raw claims) (now : Instant)
    (kind : TokenKind) :
    codec.verifyKind now raw kind =
      if Instant.ofSeconds claims.expiresAt ≤ now then .error .expiredCredential
      else if claims.kind = kind then .ok claims
      else .error (.unsupportedFormat
        ("expected " ++ kind.name ++ " credential, got " ++ claims.kind.name)) := by
  by_cases reached : Instant.ofSeconds claims.expiresAt ≤ now
  · have expired := verify_of_carries carries
      (Int.not_lt.1 fun live => Instant.not_lt.2 reached (Instant.seconds_lt_iff.1 live))
    rw [verifyKind, expired, if_pos reached]
    rfl
  · have live := Instant.seconds_lt_iff.2 (Int.not_le.1 reached)
    rw [verifyKind, verify_eq_ok_iff.2 ⟨carries, live⟩, if_neg reached]
    rfl

/-- Whoever holds the secret reads an issued text back, with any blanks around it: before the
expiry as the claims it was issued for, if it is asked for as the kind it was issued as, and from
the expiry on as expired. -/
theorem verifyKind_issue (codec reader : Codec) (sameSecret : reader.secret = codec.secret)
    {issuedAt : Instant} {identity : UserId} {kind : TokenKind} {lifetime : Duration}
    {tokenId text : String} (within : issuedAt.isRepresentable = true)
    (since : 0 ≤ issuedAt.nanoseconds)
    (issued : codec.issue issuedAt identity kind lifetime tokenId = .ok text) :
    HasThreeSegments text ∧
      ∀ before after : String, Text.allBlank before = true → Text.allBlank after = true →
        ∀ (now : Instant) (asked : TokenKind),
          reader.verifyKind now (before ++ text ++ after) asked =
            if Instant.ofSeconds (min (issuedAt.seconds + lifetime.seconds) lastSecond) ≤ now then
              .error .expiredCredential
            else if kind = asked then
              .ok ⟨identity.email, identity.provider, kind, tokenId, issuedAt.seconds,
                min (issuedAt.seconds + lifetime.seconds) lastSecond⟩
            else
              .error (.unsupportedFormat
                ("expected " ++ asked.name ++ " credential, got " ++ kind.name)) := by
  obtain ⟨_, rfl⟩ := codec.issue_eq_ok_iff.1 issued
  have inRange : (issuedClaims issuedAt identity kind lifetime tokenId).InRange :=
    inRange_issuedClaims within
  have natural : 0 ≤ (issuedClaims issuedAt identity kind lifetime tokenId).expiresAt := by
    have begun : 0 ≤ issuedAt.seconds := Int.ediv_nonneg since (by decide)
    simp only [issuedClaims, lastSecond]
    omega
  refine ⟨codec.hasThreeSegments_encode inRange, fun before after first last now asked => ?_⟩
  have carries := (codec.carries_encode inRange).2 ⟨rfl, natural⟩
  exact ((carries.of_secret sameSecret).surround first last).verifyKind_eq now asked

/-- An address of quotes, points, a backslash and a control character, issued for half a second more
than a minute, is read back at the last nanosecond of the minute and is expired at its end. -/
theorem verifyKind_issue_odd_address :
    ∃ (codec : Codec) (text : String),
      codec.issue ⟨1700000000250000000⟩ ⟨"\"..\\\x01.\"@例え.jp", .kakao⟩ .access ⟨60500000000⟩ "7" =
          .ok text ∧
        HasThreeSegments text ∧
        codec.verifyKind ⟨1700000059999999999⟩ ("\t " ++ text ++ "\n") .access =
          .ok ⟨"\"..\\\x01.\"@例え.jp", .kakao, .access, "7", 1700000000, 1700000060⟩ ∧
        codec.verifyKind ⟨1700000060000000000⟩ ("\t " ++ text ++ "\n") .access =
          .error .expiredCredential ∧
        codec.verifyKind ⟨1700000059999999999⟩ ("\t " ++ text ++ "\n") .refresh =
          .error (.unsupportedFormat "expected refresh credential, got access") := by
  let codec : Codec := ⟨List.replicate 32 0, .ofSeconds 1800, .ofSeconds 1209600, by decide⟩
  have issued : codec.issue ⟨1700000000250000000⟩ ⟨"\"..\\\x01.\"@例え.jp", .kakao⟩ .access
      ⟨60500000000⟩ "7" = .ok _ := codec.issue_eq_ok_iff.2 ⟨by decide, rfl⟩
  obtain ⟨segments, read⟩ := verifyKind_issue codec codec rfl (by decide) (by decide) issued
  have surrounded := read "\t " "\n" (by decide) (by decide)
  exact ⟨codec, _, issued, segments, surrounded _ .access, surrounded _ .access,
    surrounded _ .refresh⟩

end Codec

end SignOn
