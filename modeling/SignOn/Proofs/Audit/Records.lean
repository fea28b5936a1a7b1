import SignOn.Audit.Event
import SignOn.Proofs.Json.RoundTrip
import SignOn.Proofs.Time.Rfc3339

/-!
# Records and their texts

What is kept of an audited operation is the text of its record.  The text denotes the record's JSON
value whatever the user, the outcome and the origin are made of, and all of the value's members are
read back; so a record is read back from its text exactly when its timestamp is
(`Event.ofText?_text_iff`).  A record that was read from any text, with members in another order,
a tag given as an object or an offset from universal time, has a timestamp of the calendar, and its
own text is therefore the one form that reading and writing leave as it is.  The log names operations
from a table of its own, which agrees with the tags of records (`Operation.tag_eq_name`).
-/

namespace SignOn.Audit

set_option autoImplicit false

/-! ## Tags -/

/-- Records tag an operation by its name in the log. -/
theorem Operation.tag_eq_name (operation : Operation) : operation.tag = operation.name := by
  cases operation <;> decide

theorem Operation.ofTag?_tag (operation : Operation) :
    Operation.ofTag? operation.tag = some operation := by
  cases operation <;> rfl

theorem Level.ofTag?_tag (level : Level) : Level.ofTag? level.tag = some level := by
  cases level <;> rfl

namespace Event

variable {event : Event}

/-! ## Records as values -/

theorem isPlain_toJson (event : Event) : Json.IsPlain event.toJson := by
  simp [toJson, Json.IsPlain, Json.HavePlain]

/-- All of a record is read back from its value as it is, but the timestamp from its text. -/
theorem ofJson?_toJson (event : Event) :
    ofJson? event.toJson =
      (Timestamp.ofText? event.timestamp.text).map fun timestamp =>
        { event with timestamp := timestamp } := by
  simp [ofJson?, toJson, Json.fields?, Json.saysOnce, memberNames, fieldOfMembers, Field.required,
    Json.asString?, Json.asTag?, Operation.ofTag?_tag, Level.ofTag?_tag, Option.map_eq_bind]

/-- The timestamp of a record is read from some text. -/
theorem exists_timestamp {json : Json} (read : ofJson? json = some event) :
    ∃ text, Timestamp.ofText? text = some event.timestamp := by
  simp only [ofJson?, Option.bind_eq_bind, Option.bind_eq_some_iff] at read
  obtain ⟨field, -, _, -, _, -, _, -, _, -, _, -, timestamp, found, same⟩ := read
  obtain rfl := Option.some.inj same
  generalize field "timestamp" = stamp at found
  cases stamp with
  | given value =>
    obtain ⟨text, -, denoted⟩ := Option.bind_eq_some_iff.1 found
    exact ⟨text, denoted⟩
  | missing => cases found
  | cutOff => cases found

/-! ## Records as texts -/

/-- The text of a record denotes its value. -/
theorem json_text (event : Event) : Json.ofText? event.text = some event.toJson :=
  Json.ofBytes?_text event.isPlain_toJson

theorem ofText?_text_iff : ofText? event.text = some event ↔ event.timestamp.OnCalendar := by
  rw [ofText?, json_text, Option.bind_some, ofJson?_toJson, ← Timestamp.ofText?_text_iff,
    Option.map_eq_some_iff]
  constructor
  · rintro ⟨timestamp, read, same⟩
    obtain rfl : timestamp = event.timestamp := congrArg Event.timestamp same
    exact read
  · exact fun read => ⟨_, read, rfl⟩

theorem onCalendar_of_ofText? {text : String} (read : ofText? text = some event) :
    event.timestamp.OnCalendar := by
  obtain ⟨json, -, found⟩ := Option.bind_eq_some_iff.1 read
  obtain ⟨text, denoted⟩ := exists_timestamp found
  exact Timestamp.onCalendar_of_ofText? denoted

/-- **Records survive their texts.**  A record is read back from its text, whatever it holds, exactly
when the calendar has its timestamp.  A record that was read from any text is read back from its own,
which is written again as it is.  The type in the text of any record is the name that its operation has in the log. -/
theorem records_survive_text :
    (∀ event : Event, ofText? event.text = some event ↔ event.timestamp.OnCalendar) ∧
    (∀ (text : String) (event : Event), ofText? text = some event →
      ofText? event.text = some event ∧ (ofText? event.text).map Event.text = some event.text) ∧
    ∀ event : Event,
      (Json.ofText? event.text).bind (·.member? "type") = some (.string event.operation.name) := by
  refine ⟨fun event => ofText?_text_iff, fun text event read => ?_, fun event => ?_⟩
  · have back := ofText?_text_iff.2 (onCalendar_of_ofText? read)
    exact ⟨back, by rw [back, Option.map_some]⟩
  · rw [json_text, ← Operation.tag_eq_name]
    rfl

/-- A leap second at the end of the year before the year 0 is kept, with quotes, controls and a lone
accent beside it, and so is the last nanosecond of the calendar.  A record with its members in another
order, its level as an object and a time behind universal time in the year 12345 is written in the
one form from then on. -/
theorem records_survive_text_odd :
    let ending : Event := ⟨.rateLimitExceeded, "\"\\\x00\x1f\u0301例🙂", "\n\t/\u2028", "", .error,
      ⟨⟨-62167219200876543211⟩, true⟩⟩
    let latest : Event := { ending with timestamp := .ofInstant ⟨8210266876799999999999⟩ }
    let spelled :=
      "\x7b\"level\":\x7b\"WARN\":null\x7d,\"ip\":\"\",\"type\":\"LOGIN\",\"note\":[1]," ++
        "\"timestamp\":\" +12345-2-3t4:5:6.5-01 30 \",\"user\":\"a\",\"message\":\"\\u000a\"\x7d"
    let found : Event := ⟨.login, "a", "\n", "", .warn, ⟨⟨327406253706500000000⟩, false⟩⟩
    ofText? ending.text = some ending ∧ ofText? latest.text = some latest ∧
      ofText? spelled = some found ∧ ofText? found.text = some found ∧
      found.text =
        "\x7b\"type\":\"LOGIN\",\"user\":\"a\",\"message\":\"\\n\",\"ip\":\"\",\"level\":\"WARN\"," ++
          "\"timestamp\":\"+12345-02-03T05:35:06.500Z\"\x7d" ∧
      (Json.ofText? found.text).bind (·.member? "type") = some (.string "LOGIN") := by
  intro ending latest spelled found
  obtain ⟨kept, settled, tagged⟩ := records_survive_text
  have read : ofText? spelled = some found := by decide +kernel
  exact ⟨(kept ending).2 ⟨by decide, by decide⟩,
    (kept latest).2 (Timestamp.onCalendar_ofInstant_iff.2 (by decide)), read,
    (settled spelled found read).1, by decide +kernel, tagged found⟩

end Event

end SignOn.Audit
