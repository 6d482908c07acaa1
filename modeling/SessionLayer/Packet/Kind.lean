import SessionLayer.Wire.Fault

/-!
# Kinds of packets

The first byte of a datagram names its kind. The kind alone decides whether the
receiver answers with an acknowledgement and which limit the datagram counts
against, so flood control can act before anything else is decoded.
-/

namespace SessionLayer

/-- What a datagram is for. -/
inductive PacketKind
  | unreliable
  | reliable
  | hello
  | disconnect
  | acknowledge
  | ping
  deriving DecidableEq

/-- The two classes of datagrams that are limited apart from each other. -/
inductive TrafficClass
  | reliable
  | unreliable
  deriving DecidableEq

/-- The name of a class. -/
def TrafficClass.name : TrafficClass → String
  | .reliable => "Reliable"
  | .unreliable => "Unreliable"

namespace PacketKind

/-- The first byte of a datagram of this kind. -/
def tag : PacketKind → UInt8
  | .unreliable => 0x00
  | .reliable => 0x01
  | .hello => 0x08
  | .disconnect => 0x09
  | .acknowledge => 0x0a
  | .ping => 0x0c

/-- The kind that a first byte names. -/
def ofTag (tag : UInt8) : Except WireFault PacketKind :=
  match tag with
  | 0x00 => .ok .unreliable
  | 0x01 => .ok .reliable
  | 0x08 => .ok .hello
  | 0x09 => .ok .disconnect
  | 0x0a => .ok .acknowledge
  | 0x0c => .ok .ping
  | _ => .error (.unknownKind tag)

/-- The kind of a datagram, from its first byte alone. -/
def peek : Bytes → Except WireFault PacketKind
  | [] => .error .empty
  | tag :: _ => ofTag tag

/-- Whether the sender waits for an acknowledgement. -/
def isReliable : PacketKind → Bool
  | .reliable | .hello | .ping => true
  | .unreliable | .disconnect | .acknowledge => false

/-- The class whose limit a datagram of this kind counts against. -/
def trafficClass (kind : PacketKind) : TrafficClass :=
  if kind.isReliable then .reliable else .unreliable

/-- The name of a kind. -/
def name : PacketKind → String
  | .unreliable => "Unreliable"
  | .reliable => "Reliable"
  | .hello => "Hello"
  | .disconnect => "Disconnect"
  | .acknowledge => "Acknowledge"
  | .ping => "Ping"

@[simp] theorem ofTag_tag (kind : PacketKind) : ofTag kind.tag = .ok kind := by
  cases kind <;> rfl

theorem eq_tag_of_ofTag {tag : UInt8} {kind : PacketKind} (named : ofTag tag = .ok kind) :
    tag = kind.tag := by
  unfold ofTag at named
  split at named <;> cases named <;> rfl

/-- A datagram is of the kind whose byte comes first. -/
theorem peek_eq_ok_iff {bytes : Bytes} {kind : PacketKind} :
    peek bytes = .ok kind ↔ bytes.head? = some kind.tag := by
  cases bytes with
  | nil => simp [peek]
  | cons tag rest =>
    rw [peek, List.head?_cons, Option.some.injEq]
    constructor
    · exact eq_tag_of_ofTag
    · rintro rfl
      exact ofTag_tag kind

end PacketKind

end SessionLayer
