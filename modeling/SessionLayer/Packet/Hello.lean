import SessionLayer.Identity.ChatMode
import SessionLayer.Identity.Language
import SessionLayer.Identity.Platform
import SessionLayer.Identity.Version
import SessionLayer.Wire.Field

/-!
# Greetings

A client opens a session by saying who it is. Older clients stop after their
name, so each later field is read only where its bytes are present and otherwise
keeps the value it has in the shortest greeting.
-/

namespace SessionLayer

/-- What a client says of itself when it opens a session. -/
structure Hello where
  /-- The version of the transport that the client speaks. -/
  transport : UInt8
  version : ClientVersion
  displayName : String
  /-- The last nonce that the client received. -/
  lastNonce : UInt32
  language : Language
  chatMode : ChatMode
  platform : Platform
  platformName : String
  deriving DecidableEq

namespace Hello

/-- The shortest greeting: a build and a name, everything else as usual. -/
def brief (version : ClientVersion) (displayName : String) : Hello where
  transport := 1
  version := version
  displayName := displayName
  lastNonce := 0
  language := default
  chatMode := default
  platform := default
  platformName := ""

/-- The last field: a frame with the platform as its tag and the platform's name
as its body. An empty body stands for an empty name, and what follows the name
inside the frame is ignored. -/
def readPlatform : Reader (Platform × String) := do
  let size ← Reader.u16le
  let platform := Platform.ofTag (← Reader.u8)
  let body ← Reader.bytes size.toNat
  if body.isEmpty then return (platform, "")
  match Reader.text.run body with
  | .ok platformName _ => return (platform, platformName)
  | .error fault _ => throw fault

/-- Reads a greeting. -/
def read : Reader Hello := do
  let transport ← Reader.u8
  let version := ClientVersion.ofPacked (← Reader.i32le)
  let displayName ← Reader.text
  let usual := brief version displayName
  let lastNonce ← Reader.ifPresent 4 usual.lastNonce Reader.u32le
  let language ← Reader.ifPresent 4 usual.language (Language.ofFlag <$> Reader.u32le)
  let chatMode ← Reader.ifPresent 1 usual.chatMode (ChatMode.ofByte <$> Reader.u8)
  let (platform, platformName) ←
    Reader.ifPresent 3 (usual.platform, usual.platformName) readPlatform
  return { transport, version, displayName, lastNonce, language, chatMode, platform, platformName }

/-- The bytes of a greeting, or a refusal of a platform name whose length does
not fit. -/
def encode (hello : Hello) : Except WireFault Bytes :=
  let platformName := Wire.text hello.platformName
  if platformName.length < 65536 then
    .ok (hello.transport :: Wire.i32le hello.version.toPacked ++ Wire.text hello.displayName
      ++ Wire.u32le hello.lastNonce ++ Wire.u32le hello.language.flag
      ++ hello.chatMode.byte :: Wire.u16le (UInt16.ofNat platformName.length)
      ++ hello.platform.tag :: platformName)
  else .error (.tooLarge .platformName)

/-- Every part of a greeting is the one that its number on the wire stands for. -/
def Canonical (hello : Hello) : Prop :=
  hello.version.Canonical ∧ hello.language.Canonical ∧ hello.chatMode.Canonical
    ∧ hello.platform.Canonical

instance (hello : Hello) : Decidable hello.Canonical :=
  inferInstanceAs (Decidable (_ ∧ _ ∧ _ ∧ _))

end Hello

end SessionLayer
