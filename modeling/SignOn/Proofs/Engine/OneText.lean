import SignOn.Proofs.Credential.RoundTrip
import SignOn.Proofs.Engine.Revocability

/-!
# One text for each credential

Whatever is accepted under a secret is three segments, the third of which is the signature of the
other two (`Codec.Carries.exists_parts`).  A segment is written in one way only, and the signature
is compared as it is written.  So two accepted texts that agree up to the last point are the same
but for the blanks around them (`Codec.Carries.trim_eq`), and so are two of which one begins as the
other does up to its last point, whatever follows there (`Codec.Carries.trim_eq_of_isPrefix`).

The mark of a revoked credential is found by the text without these blanks.  Hence a revoked
credential has no second text under which it is still accepted (`accepted_oneText`).
-/

namespace SignOn

set_option autoImplicit false

/-! ## What is signed -/

/-- What a text says before its last point, without the blanks around it, if it has a point. -/
def signedPart? (raw : String) : Option (List Char) :=
  (Text.splitLast? '.' (Text.trim raw).toList).map Prod.fst

namespace Parts

variable {first second : Parts} {secret : List UInt8}

theorem text_eq_of_signed (here : first.Signed secret) (there : second.Signed secret)
    (same : first.signed = second.signed) : first.text = second.text := by
  have signatures : first.signature = second.signature := by
    change first.header ++ '.' :: first.payload = second.header ++ '.' :: second.payload at same
    rw [here, there, same]
  rw [text, text, same, signatures]

/-- Texts are cut at their first two points alike if neither part before them has one. -/
theorem signed_eq_of_isPrefix (inFirst : ∀ segment ∈ first.segments, '.' ∉ segment)
    (inSecond : ∀ segment ∈ second.segments, '.' ∉ segment)
    (begins : first.signed ++ ['.'] <+: second.text) : first.signed = second.signed := by
  simp only [segments, List.forall_mem_cons] at inFirst inSecond
  obtain ⟨rest, continued⟩ := begins
  have texts : first.header ++ '.' :: (first.payload ++ '.' :: rest) =
      second.header ++ '.' :: (second.payload ++ '.' :: second.signature) := by
    simpa [signed, text] using continued
  have outer := congrArg (Text.splitFirst? '.') texts
  rw [Text.splitFirst?_append inFirst.1, Text.splitFirst?_append inSecond.1] at outer
  obtain ⟨headers, payloads⟩ := Prod.mk.inj (Option.some.inj outer)
  have inner := congrArg (Text.splitFirst? '.') payloads
  rw [Text.splitFirst?_append inFirst.2.1, Text.splitFirst?_append inSecond.2.1] at inner
  rw [signed, signed, headers, (Prod.mk.inj (Option.some.inj inner)).1]

end Parts

namespace Codec

section Carries

variable {codec : Codec} {raw other : String} {claims others : Claims}

/-- A text that carries claims is three segments, and the third is the signature of the others. -/
theorem Carries.exists_parts (carries : codec.Carries raw claims) :
    ∃ parts : Parts, (Text.trim raw).toList = parts.text ∧
      (∀ segment ∈ parts.segments, Text.Base64Url.IsSegment segment) ∧
      parts.Signed codec.secret := by
  obtain ⟨parts, frame, head, body, signed⟩ := carries
  refine ⟨parts, frame.1, ?_, signed⟩
  have last : Text.Base64Url.IsSegment parts.signature := by
    rw [signed]
    exact codec.isSegment_signature _
  simp only [Parts.segments, List.forall_mem_cons]
  exact ⟨head.isSegment, body.1.isSegment, last, List.forall_mem_nil _⟩

theorem Carries.hasThreeSegments (carries : codec.Carries raw claims) :
    HasThreeSegments (Text.trim raw) := by
  obtain ⟨parts, text, segments, _⟩ := carries.exists_parts
  refine ⟨_, _, _, ?_, segments⟩
  rw [text]
  exact Parts.splitOn_text fun segment member => (segments segment member).point_notMem

theorem signedPart?_of_text {parts : Parts} (text : (Text.trim raw).toList = parts.text)
    (pointless : '.' ∉ parts.signature) : signedPart? raw = some parts.signed := by
  rw [signedPart?, text, Parts.text, Text.splitLast?_append pointless]
  rfl

/-- Under one secret, what is signed has one text. -/
theorem Carries.trim_eq_of_isPrefix (here : codec.Carries raw claims)
    (there : codec.Carries other others) {signed : List Char}
    (signs : signedPart? raw = some signed)
    (begins : signed ++ ['.'] <+: (Text.trim other).toList) : Text.trim other = Text.trim raw := by
  obtain ⟨first, text, segments, signature⟩ := here.exists_parts
  obtain ⟨second, otherText, otherSegments, otherSignature⟩ := there.exists_parts
  have pointless (segment : List Char) (member : segment ∈ first.segments) : '.' ∉ segment :=
    (segments segment member).point_notMem
  have signedFirst := signedPart?_of_text text (pointless _ (by simp [Parts.segments]))
  obtain rfl := Option.some.inj (signedFirst.symm.trans signs)
  rw [otherText] at begins
  have same := Parts.signed_eq_of_isPrefix pointless
    (fun segment member => (otherSegments segment member).point_notMem) begins
  apply String.toList_injective
  rw [text, otherText, Parts.text_eq_of_signed signature otherSignature same]

/-- Two texts that carry claims and agree up to the last point agree. -/
theorem Carries.trim_eq (here : codec.Carries raw claims) (there : codec.Carries other others)
    (same : signedPart? raw = signedPart? other) : Text.trim raw = Text.trim other := by
  obtain ⟨parts, text, segments, _⟩ := there.exists_parts
  have signs := signedPart?_of_text text
    (segments parts.signature (by simp [Parts.segments])).point_notMem
  refine (here.trim_eq_of_isPrefix there (same.trans signs) ?_).symm
  rw [text, Parts.text]
  exact ⟨parts.signature, by simp⟩

end Carries

end Codec

namespace Engine

open Operation

/-! ## Revoking one text -/

theorem isRevoked_eq_of_markKey {first second : String} (same : markKey first = markKey second) :
    isRevoked first = isRevoked second := by
  rw [isRevoked, isRevoked, same]

/-- Revoking succeeds only on what expires at a date of the calendar. -/
theorem isRepresentable_of_on_revoke {codec : Codec} {token : String} {claims : Claims}
    {world after : World} (carries : codec.Carries token claims)
    (revoked : (revoke codec token).on world = (.ok (.ok ()), after)) :
    (expiryOf claims).isRepresentable = true := by
  by_contra undated
  have untold : codec.remaining world.clock token = malformed "exp out of range" :=
    remaining_of_undated carries (Bool.not_eq_true _ ▸ undated)
  rw [on_revoke_of_error untold] at revoked
  cases revoked

/-- What is known of two texts that are accepted under one secret, the first with some claims. -/
structure OneText (codec : Codec) (claims : Claims) (first second : String) : Prop where
  /-- Each is three segments without its blanks, and no more. -/
  segments : HasThreeSegments (Text.trim first) ∧ HasThreeSegments (Text.trim second)
  /-- If they agree up to the last point, they agree but for the blanks around them, and have the
  same key. -/
  agree : signedPart? first = signedPart? second →
    Text.trim first = Text.trim second ∧ markKey first = markKey second
  /-- They do so even if the second goes on in another way where the first has its last point. -/
  extended : ∀ signed, signedPart? first = some signed →
    signed ++ ['.'] <+: (Text.trim second).toList → Text.trim second = Text.trim first
  /-- Then revoking the first at an instant at which it is accepted revokes the second, until they
  expire. -/
  revoked : signedPart? first = signedPart? second →
    ∀ world after : World, world.clock.isRepresentable = true →
      codec.verify world.clock first = .ok claims →
      (revoke codec first).on world = (.ok (.ok ()), after) →
        ∀ later, Meantime codec first after later →
          ((isRevoked second).on later).1 =
            .ok (.ok (decide (later.clock.seconds < claims.expiresAt)))
  /-- Revoking the first succeeds whenever it is accepted, if it expires at a date of the
  calendar. -/
  revocable : (expiryOf claims).isRepresentable = true →
    ∀ world : World, world.clock.isRepresentable = true →
      codec.verify world.clock first = .ok claims →
        ((revoke codec first).on world).1 = .ok (.ok ())

/-- **An accepted credential has one text.**  Of two texts that are accepted under the same secret,
at whatever instants, neither is the other in another writing. -/
theorem accepted_oneText {codec reader : Codec} (sameSecret : reader.secret = codec.secret)
    {now later : Instant} {first second : String} {claims others : Claims}
    (accepted : codec.verify now first = .ok claims)
    (acceptedToo : reader.verify later second = .ok others) :
    OneText codec claims first second := by
  have here := (Codec.verify_eq_ok_iff.1 accepted).1
  have there := (Codec.verify_eq_ok_iff.1 acceptedToo).1.of_secret sameSecret.symm
  have agree (same : signedPart? first = signedPart? second) :
      Text.trim first = Text.trim second ∧ markKey first = markKey second := by
    have texts := here.trim_eq there same
    refine ⟨texts, ?_⟩
    rw [← markKey_trim first, texts, markKey_trim]
  have revocable (world : World) (within : world.clock.isRepresentable = true)
      (dated : (expiryOf claims).isRepresentable = true) :=
    (revocable_of_carries here within dated).revoked world claims (Int.le_refl _)
  refine ⟨⟨here.hasThreeSegments, there.hasThreeSegments⟩, agree,
    fun signed signs begins => here.trim_eq_of_isPrefix there signs begins, ?_, ?_⟩
  · intro same world after within live revoked last meantime
    obtain ⟨left, ran, told⟩ :=
      revocable world within (isRepresentable_of_on_revoke here revoked) live
    obtain rfl : left = after := (Prod.mk.inj (ran.symm.trans revoked)).2
    rw [← isRevoked_eq_of_markKey (agree same).2]
    exact told last meantime
  · intro dated world within live
    obtain ⟨after, ran, _⟩ := revocable world within dated live
    rw [ran]

/-- The access credential of a first login, presented with a tab before it and a line break after it
ten minutes later. -/
theorem accepted_oneText_blanks :
    OneText Sample.service.codec
        (Codec.issuedClaims Sample.world.clock Sample.identity .access
          Sample.service.codec.accessLifetime (Sample.world.tokenIds 0))
        Sample.pair.accessToken ("\t" ++ Sample.pair.accessToken ++ "\n") ∧
      signedPart? Sample.pair.accessToken =
        signedPart? ("\t" ++ Sample.pair.accessToken ++ "\n") := by
  have inRange : (Codec.issuedClaims Sample.world.clock Sample.identity .access
      Sample.service.codec.accessLifetime (Sample.world.tokenIds 0)).InRange :=
    Codec.inRange_issuedClaims (by decide)
  have carries := (Codec.carries_encode Sample.service.codec inRange).2 ⟨rfl, by decide⟩
  have surrounded :
      Sample.service.codec.Carries ("\t" ++ Sample.pair.accessToken ++ "\n") _ :=
    carries.surround (by decide) (by decide)
  have accepted : Sample.service.codec.verify Sample.world.clock Sample.pair.accessToken = .ok _ :=
    Codec.verify_eq_ok_iff.2 ⟨carries, by decide⟩
  have acceptedToo : Sample.service.codec.verify (.ofSeconds 1700000600)
      ("\t" ++ Sample.pair.accessToken ++ "\n") = .ok _ :=
    Codec.verify_eq_ok_iff.2 ⟨surrounded, by decide⟩
  refine ⟨accepted_oneText rfl accepted acceptedToo, ?_⟩
  rw [signedPart?, signedPart?, Text.trim_surround (by decide) (by decide)]

end Engine

end SignOn
