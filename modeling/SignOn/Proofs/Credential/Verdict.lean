import SignOn.Proofs.Credential.Framing
import SignOn.Proofs.Text.Trim
import SignOn.Proofs.Time.Instant

/-!
# What verifying comes to

The verdict on a text is the first cause of failure that applies, in the order blank, not framed,
a header that denotes none, a foreign algorithm, a payload that denotes no claims, an expiry that
has been reached, a signature that is not the one computed anew; a text to which none applies is
accepted with the claims of its payload.  The verdict is stated over the text alone, without the
passes in which it is read.

Verifying reads the text three times, with and without the signature.  That the passes agree is the
content of `Codec.verify_eq`, and verifying gives exactly the verdict (`Codec.verify_eq_iff`).
-/

namespace SignOn

set_option autoImplicit false

/-! ## The verdict -/

/-- A payload part denotes no claims that can expire, for a reason that is told. -/
inductive NoClaims (part : List Char) : String → Prop where
  | unreadable {detail : String} (cause : Unreadable payloadClaims? part detail) :
      NoClaims part detail
  | negativeExpiry {claims : Claims} (read : Denotes payloadClaims? part claims)
      (negative : claims.expiresAt < 0) : NoClaims part "Missing required claim: exp"

/-- A part denotes claims whose expiry is not negative. -/
def Claims.StandIn (claims : Claims) (part : List Char) : Prop :=
  Denotes payloadClaims? part claims ∧ 0 ≤ claims.expiresAt

/-- The signature of parts is the base64 text of the authentication code of the other two, with the
point between them, under the secret. -/
def Parts.Signed (parts : Parts) (secret : List UInt8) : Prop :=
  parts.signature = Text.Base64Url.encode (Hash.hmacSha256 secret
    (Text.utf8 (String.ofList (parts.header ++ '.' :: parts.payload))))

/-- The verdict on a text without blanks around it, under a secret and at an instant. -/
inductive Verdict (secret : List UInt8) (now : Instant) (text : List Char) :
    Except Rejection Claims → Prop where
  | blank (nothing : text = []) : Verdict secret now text (.error .emptyCredential)
  | unframed (something : text ≠ []) (points : text.count '.' < 2) :
      Verdict secret now text (.error (.malformedCredential "InvalidToken"))
  | headless {parts : Parts} {detail : String} (frame : parts.Frame text)
      (cause : Unreadable Header.ofJson? parts.header detail) :
      Verdict secret now text (.error (.malformedCredential detail))
  | foreign {parts : Parts} {header : Header} (frame : parts.Frame text)
      (head : Denotes Header.ofJson? parts.header header) (other : header.algorithm ≠ .hs256) :
      Verdict secret now text
        (.error (.unsupportedFormat ("algorithm " ++ header.algorithm.name)))
  | claimless {parts : Parts} {detail : String} (frame : parts.Frame text)
      (head : Denotes Header.ofJson? parts.header ⟨.hs256⟩) (cause : NoClaims parts.payload detail) :
      Verdict secret now text (.error (.malformedCredential detail))
  | expired {parts : Parts} {claims : Claims} (frame : parts.Frame text)
      (head : Denotes Header.ofJson? parts.header ⟨.hs256⟩) (body : claims.StandIn parts.payload)
      (reached : claims.expiresAt ≤ now.seconds) :
      Verdict secret now text (.error .expiredCredential)
  | forged {parts : Parts} {claims : Claims} (frame : parts.Frame text)
      (head : Denotes Header.ofJson? parts.header ⟨.hs256⟩) (body : claims.StandIn parts.payload)
      (live : now.seconds < claims.expiresAt) (unsigned : ¬ parts.Signed secret) :
      Verdict secret now text (.error .invalidSignature)
  | accepted {parts : Parts} {claims : Claims} (frame : parts.Frame text)
      (head : Denotes Header.ofJson? parts.header ⟨.hs256⟩) (body : claims.StandIn parts.payload)
      (live : now.seconds < claims.expiresAt) (signed : parts.Signed secret) :
      Verdict secret now text (.ok claims)

/-! ## One pass for three -/

/-- The parts of a text that the first pass lets through. -/
def acceptableParts (raw : String) : Except Rejection Parts :=
  match Parts.ofText? (Text.trim raw).toList with
  | none => if (Text.trim raw).toList = [] then .error .emptyCredential else malformed "InvalidToken"
  | some parts =>
      match readPart parts.header Header.ofJson? with
      | .error rejection => .error rejection
      | .ok header =>
          if header.algorithm = .hs256 then .ok parts
          else .error (.unsupportedFormat ("algorithm " ++ header.algorithm.name))

/-- What the first pass lets through is framed under a header of the one algorithm. -/
theorem acceptable_eq (raw : String) :
    acceptable raw = (acceptableParts raw).map fun _ => (Text.trim raw).toList := by
  simp only [acceptable, acceptableParts, peekHeader, ← Text.toList_trim, List.isEmpty_iff]
  cases cut : Parts.ofText? (Text.trim raw).toList with
  | none =>
    by_cases nothing : (Text.trim raw).toList = []
    · simp only [nothing, if_true, Except.map]
    · simp only [nothing, if_false, malformed, Except.map]
  | some parts =>
    have something : (Text.trim raw).toList ≠ [] := by
      intro nothing
      rw [nothing] at cut
      cases cut
    cases read : readPart parts.header Header.ofJson? with
    | error rejection => simp only [something, if_false, read, Except.map]
    | ok header =>
      by_cases ours : header.algorithm = .hs256
      · simp only [something, if_false, read, ours, if_true, Except.map]
      · simp only [something, if_false, read, ours, Except.map]

theorem acceptableParts_eq_ok_iff {raw : String} {parts : Parts} :
    acceptableParts raw = .ok parts ↔
      parts.Frame (Text.trim raw).toList ∧ Denotes Header.ofJson? parts.header ⟨.hs256⟩ := by
  constructor
  · intro found
    unfold acceptableParts at found
    split at found
    · split_ifs at found
      cases found
    · next cut =>
      split at found
      · cases found
      · next header read =>
        split_ifs at found with ours
        obtain rfl := Except.ok.inj found
        obtain ⟨algorithm⟩ := header
        obtain rfl : algorithm = .hs256 := ours
        exact ⟨Parts.ofText?_eq_some_iff.1 cut, readPart_eq_ok_iff.1 read⟩
  · rintro ⟨frame, head⟩
    simp only [acceptableParts, Parts.ofText?_eq_some_iff.2 frame, readPart_eq_ok_iff.2 head,
      if_true]

namespace Codec

variable (codec : Codec)

/-- A later pass over a text that the first one lets through checks the signature, if that counts,
and reads the payload. -/
theorem decode_of_acceptable {raw : String} {parts : Parts}
    (found : acceptableParts raw = .ok parts) (signatureCounts : Bool) :
    codec.decode signatureCounts (Text.trim raw).toList =
      if signatureCounts && !codec.isSigned parts then .error .invalidSignature
      else claimsOfPart parts.payload := by
  obtain ⟨frame, head⟩ := acceptableParts_eq_ok_iff.1 found
  simp [decode, Parts.ofText?_eq_some_iff.2 frame, readPart_eq_ok_iff.2 head]

/-- The three passes of verifying come to one: the parts, the claims, the expiry, the signature. -/
theorem verify_eq (now : Instant) (raw : String) :
    codec.verify now raw =
      match acceptableParts raw with
      | .error rejection => .error rejection
      | .ok parts =>
          match claimsOfPart parts.payload with
          | .error rejection => .error rejection
          | .ok claims =>
              if claims.expiresAt ≤ now.seconds then .error .expiredCredential
              else if codec.isSigned parts then .ok claims
              else .error .invalidSignature := by
  unfold verify
  rw [acceptable_eq]
  cases found : acceptableParts raw with
  | error rejection => rfl
  | ok parts =>
    have unchecked := codec.decode_of_acceptable found false
    have checked := codec.decode_of_acceptable found true
    simp only [Bool.false_and, Bool.false_eq_true, if_false] at unchecked
    simp only [Except.map, bind, Except.bind, unchecked, checked]
    cases claimsOfPart parts.payload with
    | error rejection => rfl
    | ok claims =>
      by_cases reached : claims.expiresAt ≤ now.seconds
      · simp [Claims.isExpiredAt, reached]
      · by_cases signed : codec.isSigned parts = true
        · simp [Claims.isExpiredAt, reached, signed]
        · simp [Claims.isExpiredAt, reached, signed]

/-- Asking for the time left takes the signature before the payload. -/
theorem remaining_eq (now : Instant) (raw : String) :
    codec.remaining now raw =
      match acceptableParts raw with
      | .error rejection => .error rejection
      | .ok parts =>
          if codec.isSigned parts then
            match claimsOfPart parts.payload with
            | .error rejection => .error rejection
            | .ok claims =>
                if (Instant.ofSeconds claims.expiresAt).isRepresentable then
                  .ok ((Instant.ofSeconds claims.expiresAt).nanoseconds - now.nanoseconds)
                else malformed "exp out of range"
          else .error .invalidSignature := by
  unfold remaining
  rw [acceptable_eq]
  cases found : acceptableParts raw with
  | error rejection => rfl
  | ok parts =>
    have checked := codec.decode_of_acceptable found true
    simp only [Except.map, bind, Except.bind, checked]
    by_cases signed : codec.isSigned parts = true
    · simp only [signed, Bool.not_true, Bool.and_false, Bool.false_eq_true, if_false, if_true]
      cases claimsOfPart parts.payload <;> rfl
    · simp [signed]

theorem isSigned_iff (parts : Parts) : codec.isSigned parts = true ↔ parts.Signed codec.secret := by
  rw [isSigned, decide_eq_true_iff, eq_comm]
  rfl

end Codec

/-! ## Claims of a payload -/

theorem claimsOfPart_eq_ok_iff {part : List Char} {claims : Claims} :
    claimsOfPart part = .ok claims ↔ claims.StandIn part := by
  constructor
  · intro found
    unfold claimsOfPart at found
    split at found
    · cases found
    · next result read =>
      split_ifs at found with negative
      · cases found
      · obtain rfl := Except.ok.inj found
        exact ⟨readPart_eq_ok_iff.1 read, Int.not_lt.1 negative⟩
  · rintro ⟨read, natural⟩
    simp only [claimsOfPart, readPart_eq_ok_iff.2 read, Int.not_lt.2 natural, if_false]

theorem claimsOfPart_eq_error_iff {part : List Char} {rejection : Rejection} :
    claimsOfPart part = .error rejection ↔
      ∃ detail, rejection = .malformedCredential detail ∧ NoClaims part detail := by
  constructor
  · intro failed
    unfold claimsOfPart at failed
    split at failed
    · next cause unread =>
      obtain rfl := Except.error.inj failed
      obtain ⟨detail, rfl, cause⟩ := readPart_eq_error_iff.1 unread
      exact ⟨detail, rfl, .unreadable cause⟩
    · next claims read =>
      split_ifs at failed with negative
      obtain rfl := Except.error.inj failed
      exact ⟨_, rfl, .negativeExpiry (readPart_eq_ok_iff.1 read) negative⟩
  · rintro ⟨detail, rfl, cause | ⟨read, negative⟩⟩
    · simp only [claimsOfPart, readPart_eq_error_iff.2 ⟨_, rfl, cause⟩]
    · simp only [claimsOfPart, readPart_eq_ok_iff.2 read, negative, if_true, malformed]

/-! ## Verifying gives the verdict -/

/-- The text behind a credential that the first pass turns away. -/
theorem verdict_of_unacceptable {secret : List UInt8} {now : Instant} {raw : String}
    {rejection : Rejection} (failed : acceptableParts raw = .error rejection) :
    Verdict secret now (Text.trim raw).toList (.error rejection) := by
  unfold acceptableParts at failed
  split at failed
  · next uncut =>
    split_ifs at failed with nothing
    · obtain rfl := Except.error.inj failed
      exact .blank nothing
    · obtain rfl := Except.error.inj failed
      exact .unframed nothing (Parts.ofText?_eq_none_iff.1 uncut)
  · next parts cut =>
    have frame := Parts.ofText?_eq_some_iff.1 cut
    split at failed
    · next cause unread =>
      obtain rfl := Except.error.inj failed
      obtain ⟨detail, rfl, cause⟩ := readPart_eq_error_iff.1 unread
      exact .headless frame cause
    · next header read =>
      split_ifs at failed with ours
      obtain rfl := Except.error.inj failed
      exact .foreign frame (readPart_eq_ok_iff.1 read) ours

theorem Codec.verdict_verify (codec : Codec) (now : Instant) (raw : String) :
    Verdict codec.secret now (Text.trim raw).toList (codec.verify now raw) := by
  rw [codec.verify_eq]
  cases found : acceptableParts raw with
  | error rejection => exact verdict_of_unacceptable found
  | ok parts =>
    obtain ⟨frame, head⟩ := acceptableParts_eq_ok_iff.1 found
    cases read : claimsOfPart parts.payload with
    | error rejection =>
      obtain ⟨detail, rfl, cause⟩ := claimsOfPart_eq_error_iff.1 read
      simp only [read]
      exact .claimless frame head cause
    | ok claims =>
      have body := claimsOfPart_eq_ok_iff.1 read
      by_cases reached : claims.expiresAt ≤ now.seconds
      · simp only [read, reached, if_true]
        exact .expired frame head body reached
      · have live := Int.not_le.1 reached
        by_cases signed : codec.isSigned parts = true
        · simp only [read, reached, signed, if_true, if_false]
          exact .accepted frame head body live ((codec.isSigned_iff parts).1 signed)
        · simp only [read, reached, signed, if_false]
          exact .forged frame head body live fun same => signed ((codec.isSigned_iff parts).2 same)

/-- A text of a foreign algorithm, or one that has no readable header, or none at all, is turned
away by the first pass. -/
theorem acceptableParts_of_headless {raw : String} {parts : Parts} {detail : String}
    (frame : parts.Frame (Text.trim raw).toList)
    (cause : Unreadable Header.ofJson? parts.header detail) :
    acceptableParts raw = .error (.malformedCredential detail) := by
  simp only [acceptableParts, Parts.ofText?_eq_some_iff.2 frame,
    readPart_eq_error_iff.2 ⟨_, rfl, cause⟩]

theorem Codec.verify_of_verdict (codec : Codec) {now : Instant} {raw : String}
    {outcome : Except Rejection Claims}
    (verdict : Verdict codec.secret now (Text.trim raw).toList outcome) :
    codec.verify now raw = outcome := by
  rw [codec.verify_eq]
  cases verdict with
  | blank nothing =>
    have uncut : Parts.ofText? [] = none := rfl
    simp only [acceptableParts, nothing, uncut, if_true]
  | unframed something points =>
    simp only [acceptableParts, Parts.ofText?_eq_none_iff.2 points, something, if_false, malformed]
  | headless frame cause => simp only [acceptableParts_of_headless frame cause]
  | foreign frame head other =>
    simp only [acceptableParts, Parts.ofText?_eq_some_iff.2 frame, readPart_eq_ok_iff.2 head, other,
      if_false]
  | claimless frame head cause =>
    simp only [acceptableParts_eq_ok_iff.2 ⟨frame, head⟩,
      claimsOfPart_eq_error_iff.2 ⟨_, rfl, cause⟩]
  | expired frame head body reached =>
    simp only [acceptableParts_eq_ok_iff.2 ⟨frame, head⟩, claimsOfPart_eq_ok_iff.2 body, reached,
      if_true]
  | forged frame head body live unsigned =>
    simp only [acceptableParts_eq_ok_iff.2 ⟨frame, head⟩, claimsOfPart_eq_ok_iff.2 body,
      Int.not_le.2 live, codec.isSigned_iff, unsigned, if_false]
  | accepted frame head body live signed =>
    simp only [acceptableParts_eq_ok_iff.2 ⟨frame, head⟩, claimsOfPart_eq_ok_iff.2 body,
      Int.not_le.2 live, codec.isSigned_iff, signed, if_true, if_false]

/-- Verifying a text gives exactly the verdict on it without the blanks around it. -/
theorem Codec.verify_eq_iff (codec : Codec) (now : Instant) (raw : String)
    (outcome : Except Rejection Claims) :
    codec.verify now raw = outcome ↔
      Verdict codec.secret now (Text.trim raw).toList outcome := by
  constructor
  · rintro rfl
    exact codec.verdict_verify now raw
  · exact codec.verify_of_verdict

namespace Verdict.Sample

def codec : Codec :=
  ⟨List.replicate 32 0, .ofSeconds 1800, .ofSeconds 1209600, Nat.le_refl minimumSecretLength⟩

def header : String := "eyJhbGciOiJIUzI1NiJ9"

def payload : String :=
  "eyJzdWIiOiJhQHguY29tIiwicHJvdmlkZXIiOiJnb29nbGUiLCJ0eXAiOiJhY2Nlc3MiLCJqdGkiOiI3IiwiaWF0Ijow" ++
    "LCJleHAiOjE4MDB9"

/-- What the payload denotes. -/
def claims : Claims := ⟨"a@x.com", .google, .access, "7", 0, 1800⟩

/-- The base64 text of the authentication code of the header and the payload under the secret. -/
def stamp : String :=
  String.ofList (Text.Base64Url.encode (Hash.hmacSha256 (List.replicate 32 0)
    (Text.utf8 (header ++ "." ++ payload))))

/-- The parts that stand in a text with points between them. -/
def parts (first second third : String) : Parts := ⟨first.toList, second.toList, third.toList⟩

theorem denotes_header (second third : String) :
    Denotes Header.ofJson? (parts header second third).header ⟨.hs256⟩ := by
  dsimp only [parts]
  exact readPart_eq_ok_iff.1 (by decide +kernel)

theorem standIn_payload (first third : String) :
    claims.StandIn (parts first payload third).payload := by
  dsimp only [parts]
  exact claimsOfPart_eq_ok_iff.1 (by decide +kernel)

theorem signed_parts : (parts header payload stamp).Signed codec.secret := by
  have signed : String.ofList (header.toList ++ '.' :: payload.toList) =
      header ++ "." ++ payload := by
    simp [← String.toList_inj]
  dsimp only [Parts.Signed, parts]
  rw [signed, stamp, String.toList_ofList]
  rfl

theorem toList_forgery : "AAAA".toList = Text.Base64Url.encode [0, 0, 0] := by decide

/-- An authentication code has more bytes than three. -/
theorem not_signed_parts : ¬ (parts header payload "AAAA").Signed codec.secret := by
  intro signed
  have short := Text.Base64Url.encode_injective (toList_forgery.symm.trans signed)
  have long := congrArg List.length short
  rw [Hash.length_hmacSha256] at long
  cases long

/-- A text has neither points nor blanks. -/
def IsPlain (text : String) : Prop :=
  '.' ∉ text.toList ∧ ∀ character ∈ text.toList, Text.isBlank character = false

theorem isPlain_of_encode {text : String} {bytes : List UInt8}
    (written : text.toList = Text.Base64Url.encode bytes) : IsPlain text := by
  rw [IsPlain, written]
  exact ⟨Text.Base64Url.point_notMem_encode bytes,
    fun _ => Text.Base64Url.not_isBlank_of_mem_encode⟩

theorem isPlain_of_denotes {α : Type} {read : Json → Option α} {text : String} {value : α}
    (denotes : Denotes read text.toList value) : IsPlain text := by
  obtain ⟨bytes, written, _⟩ := denotes
  exact isPlain_of_encode written

theorem isPlain_header : IsPlain header := isPlain_of_denotes (denotes_header "" "")

theorem isPlain_payload : IsPlain payload := isPlain_of_denotes (standIn_payload "" "").1

theorem isPlain_stamp : IsPlain stamp := isPlain_of_encode String.toList_ofList

theorem frame_parts {first second third : String} (start : IsPlain first) (middle : IsPlain second)
    (finish : IsPlain third) :
    (parts first second third).Frame
      (Text.trim (first ++ "." ++ second ++ "." ++ third)).toList := by
  have whole : (first ++ "." ++ second ++ "." ++ third).toList = (parts first second third).text := by
    simp [parts, Parts.text, Parts.signed]
  refine ⟨?_, middle.1, finish.1⟩
  rw [Text.toList_trim, whole]
  exact Text.stripBoth_of_forall_not
    (Parts.not_isBlank_of_mem_text start.2 middle.2 finish.2)

end Verdict.Sample

open Verdict.Sample in
/-- A credential that is good for half an hour, with blanks around it, is accepted up to the last
nanosecond and is expired from then on.  Under another's stamp it is forged, which its expiry hides.
The other texts fail for what is looked at before the expiry. -/
theorem Codec.verify_eq_iff_each_cause :
    codec.verify ⟨1799999999999⟩
          (" \t" ++ (header ++ "." ++ payload ++ "." ++ stamp) ++ "\n") =
        .ok ⟨"a@x.com", .google, .access, "7", 0, 1800⟩ ∧
      codec.verify ⟨1800000000000⟩
          (" \t" ++ (header ++ "." ++ payload ++ "." ++ stamp) ++ "\n") =
        .error .expiredCredential ∧
      codec.verify ⟨1799999999999⟩ (header ++ "." ++ payload ++ "." ++ "AAAA") =
        .error .invalidSignature ∧
      codec.verify ⟨1800000000000⟩ (header ++ "." ++ payload ++ "." ++ "AAAA") =
        .error .expiredCredential ∧
      codec.verify ⟨1800000000000⟩ " \t" = .error .emptyCredential ∧
      codec.verify ⟨1800000000000⟩ "a.b" = .error (.malformedCredential "InvalidToken") ∧
      codec.verify ⟨1800000000000⟩ ("!" ++ "." ++ payload ++ "." ++ stamp) =
        .error (.malformedCredential "Base64 error") ∧
      codec.verify ⟨1800000000000⟩ ("eyJhbGciOiJIUzM4NCJ9" ++ "." ++ payload ++ "." ++ stamp) =
        .error (.unsupportedFormat "algorithm HS384") ∧
      codec.verify ⟨1800000000000⟩ (header ++ "." ++ "e30" ++ "." ++ stamp) =
        .error (.malformedCredential "JSON error") := by
  have whole := frame_parts isPlain_header isPlain_payload isPlain_stamp
  have forgery := frame_parts isPlain_header isPlain_payload (isPlain_of_encode toList_forgery)
  refine ⟨?accepted, ?expired, ?forged, ?late, ?blank, ?unframed, ?headless, ?foreign, ?claimless⟩
  case accepted =>
    rw [codec.verify_eq_iff, Text.trim_surround (by decide) (by decide)]
    exact .accepted whole (denotes_header _ _) (standIn_payload _ _) (by decide) signed_parts
  case expired =>
    rw [codec.verify_eq_iff, Text.trim_surround (by decide) (by decide)]
    exact .expired whole (denotes_header _ _) (standIn_payload _ _) (by decide)
  case forged =>
    rw [codec.verify_eq_iff]
    exact .forged forgery (denotes_header _ _) (standIn_payload _ _) (by decide) not_signed_parts
  case late =>
    rw [codec.verify_eq_iff]
    exact .expired forgery (denotes_header _ _) (standIn_payload _ _) (by decide)
  case blank => exact (codec.verify_eq_iff _ _ _).2 (.blank (by decide))
  case unframed => exact (codec.verify_eq_iff _ _ _).2 (.unframed (by decide) (by decide))
  case headless =>
    have plain : IsPlain "!" := ⟨by decide, by simp [Text.isBlank, Text.blankRanges]⟩
    have unwritten := Text.Base64Url.decode_eq_none_iff.1
      (show Text.Base64Url.decode "!".toList = none by decide)
    rw [codec.verify_eq_iff]
    exact .headless (frame_parts plain isPlain_payload isPlain_stamp) (.notBase64 unwritten)
  case foreign =>
    have head : Denotes Header.ofJson? "eyJhbGciOiJIUzM4NCJ9".toList ⟨.hs384⟩ :=
      readPart_eq_ok_iff.1 (by decide +kernel)
    have other : Header.algorithm ⟨.hs384⟩ ≠ .hs256 := by decide
    rw [codec.verify_eq_iff]
    exact .foreign (frame_parts (isPlain_of_denotes head) isPlain_payload isPlain_stamp) head other
  case claimless =>
    have part : "e30".toList = Text.Base64Url.encode [123, 125] := by decide
    rw [codec.verify_eq_iff]
    exact .claimless (frame_parts isPlain_header (isPlain_of_encode part) isPlain_stamp)
      (denotes_header _ _) (.unreadable (.notJson part rfl))

/-! ## Texts that carry claims -/

namespace Codec

variable (codec : Codec) {raw : String} {claims : Claims}

/-- A text is a correctly signed credential that carries some claims, expired or not. -/
def Carries (raw : String) (claims : Claims) : Prop :=
  ∃ parts : Parts, parts.Frame (Text.trim raw).toList ∧
    Denotes Header.ofJson? parts.header ⟨.hs256⟩ ∧ claims.StandIn parts.payload ∧
    parts.Signed codec.secret

variable {codec}

/-- A text carries one set of claims at most. -/
theorem Carries.unique {other : Claims} (here : codec.Carries raw claims)
    (there : codec.Carries raw other) : claims = other := by
  obtain ⟨parts, frame, _, body, _⟩ := here
  obtain ⟨others, otherFrame, _, otherBody, _⟩ := there
  obtain rfl := frame.unique otherFrame
  exact body.1.unique otherBody.1

theorem verify_eq_ok_iff {now : Instant} :
    codec.verify now raw = .ok claims ↔
      codec.Carries raw claims ∧ now.seconds < claims.expiresAt := by
  constructor
  · intro accepted
    have verdict := codec.verdict_verify now raw
    rw [accepted] at verdict
    cases verdict with
    | accepted frame head body live signed => exact ⟨⟨_, frame, head, body, signed⟩, live⟩
  · rintro ⟨⟨parts, frame, head, body, signed⟩, live⟩
    exact codec.verify_of_verdict (.accepted frame head body live signed)

/-- What carries claims is expired from the second of their expiry on. -/
theorem verify_of_carries (carries : codec.Carries raw claims) {now : Instant}
    (reached : claims.expiresAt ≤ now.seconds) :
    codec.verify now raw = .error .expiredCredential := by
  obtain ⟨parts, frame, head, body, _⟩ := carries
  exact codec.verify_of_verdict (.expired frame head body reached)

theorem verifyKind_eq_ok_iff {now : Instant} {kind : TokenKind} :
    codec.verifyKind now raw kind = .ok claims ↔
      codec.verify now raw = .ok claims ∧ claims.kind = kind := by
  unfold verifyKind
  cases codec.verify now raw with
  | error rejection => simp [bind, Except.bind]
  | ok found =>
    by_cases same : found.kind = kind
    · simp only [bind, Except.bind, same, if_true, Except.ok.injEq]
      exact ⟨fun equal => ⟨equal, equal ▸ same⟩, fun both => both.1⟩
    · simp only [bind, Except.bind, same, if_false, reduceCtorEq, Except.ok.injEq, false_iff]
      rintro ⟨rfl, equal⟩
      exact same equal

theorem remaining_eq_ok_iff {now : Instant} {left : Int} :
    codec.remaining now raw = .ok left ↔
      ∃ claims : Claims, codec.Carries raw claims ∧
        (Instant.ofSeconds claims.expiresAt).isRepresentable = true ∧
        left = (Instant.ofSeconds claims.expiresAt).nanoseconds - now.nanoseconds := by
  rw [remaining_eq]
  constructor
  · intro found
    split at found
    · cases found
    · next parts acceptable =>
      obtain ⟨frame, head⟩ := acceptableParts_eq_ok_iff.1 acceptable
      split_ifs at found with signed
      split at found
      · cases found
      · next claims read =>
        split_ifs at found with within
        · obtain rfl := Except.ok.inj found
          exact ⟨claims, ⟨parts, frame, head, claimsOfPart_eq_ok_iff.1 read,
            (codec.isSigned_iff parts).1 signed⟩, within, rfl⟩
        · cases found
  · rintro ⟨claims, ⟨parts, frame, head, body, signed⟩, within, rfl⟩
    simp only [acceptableParts_eq_ok_iff.2 ⟨frame, head⟩, claimsOfPart_eq_ok_iff.2 body,
      (codec.isSigned_iff parts).2 signed, within, if_true]

/-! ### Limits -/

theorem acceptable_trim (raw : String) : acceptable (Text.trim raw) = acceptable raw := by
  rw [acceptable, Text.toList_trim, Text.stripBoth_stripBoth, acceptable]

theorem carries_trim : codec.Carries (Text.trim raw) claims ↔ codec.Carries raw claims := by
  rw [Carries, Text.trim_trim, Carries]

theorem carries_of_trim_eq {given presented : String} (same : Text.trim given = Text.trim presented)
    (carries : codec.Carries given claims) : codec.Carries presented claims := by
  rwa [← carries_trim, ← same, carries_trim]

/-- What is accepted at some instant was accepted at every earlier one, with the same claims. -/
theorem verifyKind_of_le {now later : Instant} {kind : TokenKind} (ordered : now ≤ later)
    (accepted : codec.verifyKind later raw kind = .ok claims) :
    codec.verifyKind now raw kind = .ok claims := by
  rw [verifyKind_eq_ok_iff, verify_eq_ok_iff] at accepted ⊢
  obtain ⟨⟨carries, live⟩, same⟩ := accepted
  exact ⟨⟨carries, Int.lt_of_le_of_lt (Instant.seconds_le_seconds ordered) live⟩, same⟩

/-- Whenever a text is accepted, its claims are the same. -/
theorem verifyKind_unique {now later : Instant} {kind : TokenKind} {others : Claims}
    (here : codec.verifyKind now raw kind = .ok claims)
    (there : codec.verifyKind later raw kind = .ok others) : claims = others := by
  rw [verifyKind_eq_ok_iff, verify_eq_ok_iff] at here there
  exact here.1.1.unique there.1.1

theorem verifyKind_trim (codec : Codec) (now : Instant) (raw : String) (kind : TokenKind) :
    codec.verifyKind now (Text.trim raw) kind = codec.verifyKind now raw kind := by
  simp only [verifyKind, verify, acceptable_trim]

end Codec

end SignOn
