/-!
# Bytes, and why they are refused

A datagram is a list of bytes. `WireFault` lists every reason for which bytes
are not a packet, or a packet has no bytes, and `WireFault.message` is the one
place where these reasons get their wording.
-/

namespace SessionLayer

/-- The bytes of a datagram, or of a part of one, in order. -/
abbrev Bytes := List UInt8

/-- The fields whose length is written in sixteen bits, so that they can be too
large to write. -/
inductive SizedField
  | messageBody
  | platformName
  | disconnectMessage
  deriving DecidableEq

/-- How a field is called in the text of a fault. -/
def SizedField.name : SizedField → String
  | .messageBody => "root message body"
  | .platformName => "platform name"
  | .disconnectMessage => "disconnect message"

/-- Why bytes are refused as a packet, or a packet cannot be written. -/
inductive WireFault
  /-- A datagram without a single byte. -/
  | empty
  /-- The first byte names no kind of packet. -/
  | unknownKind (tag : UInt8)
  /-- A field asks for `needed` bytes where only `remaining` are left. -/
  | truncated (needed remaining : Nat)
  /-- A packed integer goes on past its fifth byte. -/
  | packedOverflow
  /-- The bytes of a text are not UTF-8. -/
  | invalidUtf8
  /-- A field is longer than its length prefix can say. -/
  | tooLarge (field : SizedField)
  /-- The fields are complete and still break a rule of framing. -/
  | malformed (detail : String)
  deriving DecidableEq

/-- The digit for a value below sixteen, in lower case. -/
def hexDigit (value : Nat) : Char :=
  if value < 10 then Char.ofNat (48 + value) else Char.ofNat (87 + value)

/-- Two lower-case hexadecimal digits for a byte. -/
def hexByte (byte : UInt8) : List Char :=
  [hexDigit (byte.toNat / 16), hexDigit (byte.toNat % 16)]

/-- The text of a fault. -/
def WireFault.message : WireFault → String
  | .empty => "empty datagram"
  | .unknownKind tag => "unknown packet kind 0x" ++ String.ofList (hexByte tag)
  | .truncated needed remaining =>
    "truncated: needed " ++ toString needed ++ " more byte(s), " ++ toString remaining
      ++ " remaining"
  | .packedOverflow => "packed integer overflows 32 bits"
  | .invalidUtf8 => "invalid utf-8 in string field"
  | .tooLarge field => "field too large: " ++ field.name
  | .malformed detail => "malformed packet: " ++ detail

end SessionLayer
