import SessionLayer.Identity.ClientId
import SessionLayer.Packet.Basic

/-!
# What a session goes through and tells

The stages of a session, what it keeps of a greeting, what it hands up, why it
ends, and why a command to it fails.
-/

namespace SessionLayer

/-- The stages of a session. A session that was left never opens again. -/
inductive SessionState
  /-- The client has not said who it is. -/
  | unidentified
  | identified
  /-- One side has ended the session. -/
  | disconnecting
  | disconnected
  deriving DecidableEq

namespace SessionState

/-- Whether packets are still taken. -/
def isOpen : SessionState → Bool
  | .unidentified | .identified => true
  | .disconnecting | .disconnected => false

/-- The name of a stage. -/
def name : SessionState → String
  | .unidentified => "Unidentified"
  | .identified => "Identified"
  | .disconnecting => "Disconnecting"
  | .disconnected => "Disconnected"

end SessionState

/-- What a session keeps of a greeting. -/
structure ClientIdentity where
  displayName : String
  version : ClientVersion
  /-- The version of the transport that the client speaks. -/
  transport : UInt8
  language : Language
  chatMode : ChatMode
  platform : Platform
  platformName : String
  deriving DecidableEq

/-- What a session keeps of this greeting. -/
def ClientIdentity.ofHello (hello : Hello) : ClientIdentity where
  displayName := hello.displayName
  version := hello.version
  transport := hello.transport
  language := hello.language
  chatMode := hello.chatMode
  platform := hello.platform
  platformName := hello.platformName

/-- Why a session ended. -/
inductive DisconnectCause
  /-- The peer ended it. -/
  | byPeer (farewell : Option Farewell)
  /-- The peer fell silent. -/
  | timeout
  /-- The peer sent too much. -/
  | rateLimited (farewell : Farewell)
  /-- The host of the peer is banned. -/
  | banned (farewell : Farewell)
  /-- The server ended it. -/
  | byServer (farewell : Farewell)
  deriving DecidableEq

namespace DisconnectCause

/-- The farewell that came in or went out. -/
def farewell? : DisconnectCause → Option Farewell
  | .byPeer farewell => farewell
  | .timeout => none
  | .rateLimited farewell | .banned farewell | .byServer farewell => some farewell

/-- The reason that came in or went out; none at all counts as `none`. -/
def reason (cause : DisconnectCause) : DisconnectReason :=
  (cause.farewell?.map Farewell.reason).getD .none

/-- How a cause is shown to people. -/
def text (cause : DisconnectCause) : String :=
  match cause with
  | .byPeer _ => "remote (" ++ cause.reason.text ++ ")"
  | .timeout => "timeout"
  | .rateLimited _ => "rate limited"
  | .banned _ => "banned"
  | .byServer _ => "local (" ++ cause.reason.text ++ ")"

end DisconnectCause

/-- What a session hands up after a packet. -/
inductive Inbound
  /-- The client said who it is. -/
  | identified
  | deliver (payload : Payload) (reliable : Bool)
  /-- The peer ended the session. -/
  | peerLeft (farewell : Option Farewell)
  deriving DecidableEq

/-- Why a command to a session cannot be carried out. -/
inductive SessionFault
  /-- There is no session with this client. -/
  | notFound (client : ClientId)
  /-- The client has not said who it is. -/
  | notIdentified (client : ClientId)
  /-- The session is over. -/
  | closed (client : ClientId)
  /-- The packet has no datagram. -/
  | encode (fault : WireFault)
  deriving DecidableEq

/-- The text of a fault. -/
def SessionFault.message : SessionFault → String
  | .notFound client => "no session for client " ++ client.text
  | .notIdentified client => "client " ++ client.text ++ " has not identified"
  | .closed client => "session for client " ++ client.text ++ " is closed"
  | .encode fault => "failed to encode packet: " ++ fault.message

end SessionLayer
