import SessionLayer.Json.Basic
import SessionLayer.Settings.Basic

/-!
# Settings from a document

Settings are read from a JSON document that need only name what it changes. A
group of settings is an object whose members stand in any order, or an array of
its values in their usual order. Unknown members are ignored; a known member
that is repeated, and a value of the wrong type or out of range, make the whole
document invalid.
-/

namespace SessionLayer.Document

/-- Reads a value of one type, if the JSON value is one. -/
abbrev Decoder (α : Type) := Json → Option α

/-- A number without a sign, a fraction or an exponent, below `bound`. -/
def natural (bound : Nat) : Decoder Nat
  | .number literal => Digits.below? bound 10 literal
  | _ => none

/-- A number of sixty-four bits. -/
def word64 : Decoder Nat := natural UInt64.size

/-- A number of thirty-two bits. -/
def word32 : Decoder Nat := natural UInt32.size

/-- A truth value. -/
def flag : Decoder Bool
  | .bool value => some value
  | _ => none

/-- A text. -/
def text : Decoder String
  | .text value => value
  | _ => none

/-- The key and value of a member whose key spells a text. -/
def keyed (member : Option String × Json) : Option (String × Json) :=
  member.1.map fun key => (key, member.2)

/-- The value of a name among members, `none` in the result if it has none; no
result if it has several. -/
def unique (members : List (String × Json)) (name : String) : Option (Option Json) :=
  match members.filter fun member => member.1 = name with
  | [] => some none
  | [member] => some (some member.2)
  | _ => none

/-- The values of a group, one for each of its names. -/
def group (names : List String) : Decoder (List (Option Json))
  | .object members => do
    let members ← members.mapM keyed
    names.mapM (unique members)
  | .array items =>
    if items.length ≤ names.length then
      some (items.map some ++ List.replicate (names.length - items.length) none)
    else none
  | _ => none

/-- A value, or the usual one where the document names none. -/
def orUsual {α : Type} (decoder : Decoder α) (usual : α) : Option Json → Option α
  | none => some usual
  | some value => decoder value

/-- A value that the document has to name. -/
def required {α : Type} (decoder : Decoder α) (value : Option Json) : Option α :=
  value.bind decoder

/-- A table from locales to templates. Of a locale that is repeated the last
template counts. -/
def localized : Decoder LocalizedText
  | .object members => do
    let templates ← members.mapM fun member => do
      let (locale, template) ← keyed member
      return (locale, ← text template)
    return templates.foldl (fun all entry => all.add entry.1 entry.2) .empty
  | _ => none

/-- What a flood brings, by its name. -/
def actionNamed : String → Option PenaltyAction
  | "disconnect" => some .disconnect
  | "ban" => some .ban
  | _ => none

/-- What a flood brings: its name alone, or as the one key of an object in front
of null. -/
def action : Decoder PenaltyAction
  | .text name => name.bind actionNamed
  | .object [(name, .null)] => name.bind actionNamed
  | _ => none

/-- A window needs both its length and its limit. -/
def windowLimit : Decoder WindowLimit := fun value => do
  match ← group ["window_ms", "max_count"] value with
  | [windowMs, maxCount] =>
    return { windowMs := ← required word64 windowMs, maxCount := ← required word32 maxCount }
  | _ => none

/-- The settings of sessions. -/
def sessionSettings : Decoder SessionSettings := fun value => do
  let usual : SessionSettings := {}
  match ← group ["pending_capacity", "received_history", "retransmit_after_ms",
    "unresponsive_after_ms", "message_ordering", "reorder_capacity", "reorder_timeout_ms"]
    value with
  | [pendingCapacity, receivedHistory, retransmitAfterMs, unresponsiveAfterMs, messageOrdering,
      reorderCapacity, reorderTimeoutMs] =>
    return {
      pendingCapacity := ← orUsual word64 usual.pendingCapacity pendingCapacity
      receivedHistory := ← orUsual word64 usual.receivedHistory receivedHistory
      retransmitAfterMs := ← orUsual word64 usual.retransmitAfterMs retransmitAfterMs
      unresponsiveAfterMs := ← orUsual word64 usual.unresponsiveAfterMs unresponsiveAfterMs
      messageOrdering := ← orUsual flag usual.messageOrdering messageOrdering
      reorderCapacity := ← orUsual word64 usual.reorderCapacity reorderCapacity
      reorderTimeoutMs := ← orUsual word64 usual.reorderTimeoutMs reorderTimeoutMs }
  | _ => none

/-- The settings of flood control. -/
def floodSettings : Decoder FloodSettings := fun value => do
  let usual : FloodSettings := {}
  match ← group ["max_packet_size_bytes", "reliable", "unreliable", "warnings_window_ms",
    "max_warnings"] value with
  | [maxPacketSize, reliable, unreliable, warningsWindowMs, maxWarnings] =>
    return {
      maxPacketSize := ← orUsual word64 usual.maxPacketSize maxPacketSize
      reliable := ← orUsual windowLimit usual.reliable reliable
      unreliable := ← orUsual windowLimit usual.unreliable unreliable
      warningsWindowMs := ← orUsual word64 usual.warningsWindowMs warningsWindowMs
      maxWarnings := ← orUsual word64 usual.maxWarnings maxWarnings }
  | _ => none

/-- The settings of penalties. -/
def penaltyPolicy : Decoder PenaltyPolicy := fun value => do
  let usual : PenaltyPolicy := {}
  match ← group ["action", "ban_after_disconnects", "disconnect_tracking_ms", "ban_duration_secs",
    "disconnect_message", "ban_message", "ban_notice_interval_ms"] value with
  | [chosen, banAfterDisconnects, disconnectTrackingMs, banDurationSecs, disconnectMessage,
      banMessage, banNoticeIntervalMs] =>
    return {
      action := ← orUsual action usual.action chosen
      banAfterDisconnects := ← orUsual word32 usual.banAfterDisconnects banAfterDisconnects
      disconnectTrackingMs := ← orUsual word64 usual.disconnectTrackingMs disconnectTrackingMs
      banDurationSecs := ← orUsual word64 usual.banDurationSecs banDurationSecs
      disconnectMessage := ← orUsual localized usual.disconnectMessage disconnectMessage
      banMessage := ← orUsual localized usual.banMessage banMessage
      banNoticeIntervalMs := ← orUsual word64 usual.banNoticeIntervalMs banNoticeIntervalMs }
  | _ => none

/-- The settings of an endpoint. -/
def endpointSettings : Decoder EndpointSettings := fun value => do
  let usual : EndpointSettings := {}
  match ← group ["session", "rate_limit", "penalty", "default_locale"] value with
  | [session, flood, penalty, defaultLocale] =>
    return {
      session := ← orUsual sessionSettings usual.session session
      flood := ← orUsual floodSettings usual.flood flood
      penalty := ← orUsual penaltyPolicy usual.penalty penalty
      defaultLocale := ← orUsual text usual.defaultLocale defaultLocale }
  | _ => none

/-- The settings of a server. -/
def serverSettings : Decoder ServerSettings := fun value => do
  let usual : ServerSettings := {}
  match ← group ["bind", "sweep_interval_ms", "recv_buffer_bytes", "endpoint"] value with
  | [bind, sweepIntervalMs, recvBufferBytes, endpoint] =>
    return {
      bind := ← orUsual text usual.bind bind
      sweepIntervalMs := ← orUsual word64 usual.sweepIntervalMs sweepIntervalMs
      recvBufferBytes := ← orUsual word64 usual.recvBufferBytes recvBufferBytes
      endpoint := ← orUsual endpointSettings usual.endpoint endpoint }
  | _ => none

/-- The settings that a document describes. -/
def read {α : Type} (decoder : Decoder α) (document : String) : Option α :=
  (Json.parse document).bind decoder

end SessionLayer.Document
