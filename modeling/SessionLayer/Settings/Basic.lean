import SessionLayer.Text.Localized
import SessionLayer.Time

/-!
# Settings

Everything that can be set about sessions, flood control, penalties and the
server, with the usual values as defaults. `EndpointSettings.validated` raises
the values that an endpoint cannot work with.
-/

namespace SessionLayer

/-- How a session keeps packets reliable and in order. -/
structure SessionSettings where
  /-- How many sent packets are remembered until they are acknowledged. -/
  pendingCapacity : Nat := 8
  /-- How many received numbers are remembered to recognise repeats. -/
  receivedHistory : Nat := 8
  /-- A packet is sent again when it is unacknowledged for this long. -/
  retransmitAfterMs : Nat := 1500
  /-- A peer that acknowledges nothing for longer than this is given up. -/
  unresponsiveAfterMs : Nat := 8000
  /-- Whether reliable payloads are handed up in the order of their numbers. -/
  messageOrdering : Bool := false
  /-- How many payloads wait for a gap in front of them. -/
  reorderCapacity : Nat := 32
  /-- A payload that waits this long gives up on the gap. -/
  reorderTimeoutMs : Nat := 5000
  deriving DecidableEq, Inhabited

namespace SessionSettings

/-- After how long a packet is sent again. -/
def retransmitAfter (settings : SessionSettings) : Span := .ofMillis settings.retransmitAfterMs

/-- After how long a silent peer is given up. -/
def unresponsiveAfter (settings : SessionSettings) : Span := .ofMillis settings.unresponsiveAfterMs

/-- How long a payload waits for a gap. -/
def reorderTimeout (settings : SessionSettings) : Span := .ofMillis settings.reorderTimeoutMs

end SessionSettings

/-- At most `maxCount` datagrams in a window. -/
structure WindowLimit where
  windowMs : Nat
  maxCount : Nat
  deriving DecidableEq

/-- The length of a window. -/
def WindowLimit.window (limit : WindowLimit) : Span := .ofMillis limit.windowMs

/-- How much a single peer may send. -/
structure FloodSettings where
  /-- Larger datagrams are dropped before anything else is looked at. -/
  maxPacketSize : Nat := 4096
  reliable : WindowLimit := ⟨4000, 20⟩
  unreliable : WindowLimit := ⟨1000, 10⟩
  /-- Older warnings are forgotten. -/
  warningsWindowMs : Nat := 120000
  /-- So many warnings bring a penalty. -/
  maxWarnings : Nat := 3
  deriving DecidableEq, Inhabited

namespace FloodSettings

/-- How long a warning counts. -/
def warningsWindow (settings : FloodSettings) : Span := .ofMillis settings.warningsWindowMs

end FloodSettings

/-- What a flood brings. -/
inductive PenaltyAction
  /-- The end of the session, and a ban when it happens again and again. -/
  | disconnect
  /-- A ban at once. -/
  | ban
  deriving DecidableEq

/-- What happens to those who flood. -/
structure PenaltyPolicy where
  action : PenaltyAction := .disconnect
  /-- So many disconnections of one host bring a ban; zero stands for never. -/
  banAfterDisconnects : Nat := 3
  /-- How long a disconnection counts. -/
  disconnectTrackingMs : Nat := 600000
  banDurationSecs : Nat := 3600
  /-- What a player is told whose session ends for flooding. -/
  disconnectMessage : LocalizedText :=
    .single "en" "You have been disconnected for sending too many packets."
  /-- What a banned player is told; the first place is for the duration. -/
  banMessage : LocalizedText := .single "en" "You have been banned for %1."
  /-- The least time between two notices to one host. -/
  banNoticeIntervalMs : Nat := 10000

namespace PenaltyPolicy

instance : Inhabited PenaltyPolicy := ⟨{}⟩

/-- How long a disconnection counts. -/
def disconnectTracking (policy : PenaltyPolicy) : Span := .ofMillis policy.disconnectTrackingMs

/-- How long a ban lasts. -/
def banDuration (policy : PenaltyPolicy) : Span := .ofSeconds policy.banDurationSecs

/-- The least time between two notices to one host. -/
def banNoticeInterval (policy : PenaltyPolicy) : Span := .ofMillis policy.banNoticeIntervalMs

/-- Whether two policies say the same. -/
def same (p q : PenaltyPolicy) : Bool :=
  p.action = q.action && p.banAfterDisconnects = q.banAfterDisconnects
    && p.disconnectTrackingMs = q.disconnectTrackingMs && p.banDurationSecs = q.banDurationSecs
    && p.disconnectMessage.same q.disconnectMessage && p.banMessage.same q.banMessage
    && p.banNoticeIntervalMs = q.banNoticeIntervalMs

end PenaltyPolicy

/-- Everything an endpoint has to know. -/
structure EndpointSettings where
  session : SessionSettings := {}
  flood : FloodSettings := {}
  penalty : PenaltyPolicy := {}
  /-- The locale for those whose own has no template. -/
  defaultLocale : String := "en"

namespace EndpointSettings

instance : Inhabited EndpointSettings := ⟨{}⟩

/-- The settings with unusable values raised: lists have room for one item,
datagrams for the header of a packet, and some locale is the usual one. -/
def validated (settings : EndpointSettings) : EndpointSettings :=
  { settings with
    session :=
      { settings.session with
        pendingCapacity := max settings.session.pendingCapacity 1
        receivedHistory := max settings.session.receivedHistory 1
        reorderCapacity := max settings.session.reorderCapacity 1 }
    flood := { settings.flood with maxPacketSize := max settings.flood.maxPacketSize 3 }
    defaultLocale := if settings.defaultLocale = "" then "en" else settings.defaultLocale }

/-- Whether two settings say the same. -/
def same (s t : EndpointSettings) : Bool :=
  s.session = t.session && s.flood = t.flood && s.penalty.same t.penalty
    && s.defaultLocale = t.defaultLocale

end EndpointSettings

/-- The largest datagram that the network carries. -/
def maxDatagramSize : Nat := 65507

/-- Everything a server has to know. -/
structure ServerSettings where
  /-- The address that the server listens on. -/
  bind : String := "0.0.0.0:22023"
  /-- The time between two sweeps; zero stands for never. -/
  sweepIntervalMs : Nat := 2000
  recvBufferBytes : Nat := maxDatagramSize
  endpoint : EndpointSettings := {}

namespace ServerSettings

instance : Inhabited ServerSettings := ⟨{}⟩

/-- The time between two sweeps. -/
def sweepInterval (settings : ServerSettings) : Span := .ofMillis settings.sweepIntervalMs

/-- Sizes are counted in sixty-four bits. -/
def sizeBound : Nat := UInt64.size

/-- The size of the buffer that datagrams are received into. It has room for one
byte more than the largest datagram that is let through, so that a larger one
shows; beyond that it is no larger than a datagram can be. -/
def receiveBuffer (settings : ServerSettings) : Nat :=
  let floor := min (settings.endpoint.flood.maxPacketSize + 1) (sizeBound - 1)
  min (max settings.recvBufferBytes floor) (max maxDatagramSize floor)

/-- Whether two settings say the same. -/
def same (s t : ServerSettings) : Bool :=
  s.bind = t.bind && s.sweepIntervalMs = t.sweepIntervalMs
    && s.recvBufferBytes = t.recvBufferBytes && s.endpoint.same t.endpoint

end ServerSettings

end SessionLayer
