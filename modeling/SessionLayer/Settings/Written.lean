import SessionLayer.Settings.Document

/-!
# Settings as a document

Settings are written as a JSON document that names every setting, in the order
in which an array would list them. Reading such a document gives the settings
back, as long as the numbers are in range.
-/

namespace SessionLayer.Document

/-- A number, in decimal digits. -/
def ofNat (value : Nat) : Json := .number (Nat.toDigits 10 value)

/-- A text. -/
def ofText (value : String) : Json := .text (some value)

/-- An object with these members. -/
def ofMembers (members : List (String × Json)) : Json :=
  .object (members.map fun member => (some member.1, member.2))

/-- A text in several locales, as an object. -/
def ofLocalized (text : LocalizedText) : Json :=
  ofMembers (text.templates.entries.map fun entry => (entry.1, ofText entry.2))

/-- What a flood brings, by its name. -/
def ofAction : PenaltyAction → Json
  | .disconnect => ofText "disconnect"
  | .ban => ofText "ban"

/-- The settings of a window. -/
def ofWindowLimit (limit : WindowLimit) : Json :=
  ofMembers [("window_ms", ofNat limit.windowMs), ("max_count", ofNat limit.maxCount)]

/-- The settings of sessions. -/
def ofSessionSettings (settings : SessionSettings) : Json :=
  ofMembers
    [("pending_capacity", ofNat settings.pendingCapacity),
      ("received_history", ofNat settings.receivedHistory),
      ("retransmit_after_ms", ofNat settings.retransmitAfterMs),
      ("unresponsive_after_ms", ofNat settings.unresponsiveAfterMs),
      ("message_ordering", .bool settings.messageOrdering),
      ("reorder_capacity", ofNat settings.reorderCapacity),
      ("reorder_timeout_ms", ofNat settings.reorderTimeoutMs)]

/-- The settings of flood control. -/
def ofFloodSettings (settings : FloodSettings) : Json :=
  ofMembers
    [("max_packet_size_bytes", ofNat settings.maxPacketSize),
      ("reliable", ofWindowLimit settings.reliable),
      ("unreliable", ofWindowLimit settings.unreliable),
      ("warnings_window_ms", ofNat settings.warningsWindowMs),
      ("max_warnings", ofNat settings.maxWarnings)]

/-- The settings of penalties. -/
def ofPenaltyPolicy (policy : PenaltyPolicy) : Json :=
  ofMembers
    [("action", ofAction policy.action),
      ("ban_after_disconnects", ofNat policy.banAfterDisconnects),
      ("disconnect_tracking_ms", ofNat policy.disconnectTrackingMs),
      ("ban_duration_secs", ofNat policy.banDurationSecs),
      ("disconnect_message", ofLocalized policy.disconnectMessage),
      ("ban_message", ofLocalized policy.banMessage),
      ("ban_notice_interval_ms", ofNat policy.banNoticeIntervalMs)]

/-- The settings of an endpoint. -/
def ofEndpointSettings (settings : EndpointSettings) : Json :=
  ofMembers
    [("session", ofSessionSettings settings.session),
      ("rate_limit", ofFloodSettings settings.flood),
      ("penalty", ofPenaltyPolicy settings.penalty),
      ("default_locale", ofText settings.defaultLocale)]

/-- The settings of a server. -/
def ofServerSettings (settings : ServerSettings) : Json :=
  ofMembers
    [("bind", ofText settings.bind),
      ("sweep_interval_ms", ofNat settings.sweepIntervalMs),
      ("recv_buffer_bytes", ofNat settings.recvBufferBytes),
      ("endpoint", ofEndpointSettings settings.endpoint)]

end SessionLayer.Document
