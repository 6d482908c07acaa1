import SessionLayer.Session.State

/-!
# Why a server fails

A server meets the faults of its socket, of packets, of sessions and of its
settings, and it takes no commands once it has stopped.
-/

namespace SessionLayer

/-- What goes wrong with a socket. The operating system describes its own
faults. -/
inductive SocketFault
  | bindFailed (description : String)
  | sendFailed (description : String)
  | receiveFailed (description : String)
  /-- The datagram is larger than the network carries. -/
  | datagramTooLarge (size : Nat)
  | shutDown
  deriving DecidableEq

/-- The text of a socket fault. -/
def SocketFault.message : SocketFault → String
  | .bindFailed description => "bind failed: " ++ description
  | .sendFailed description => "send failed: " ++ description
  | .receiveFailed description => "receive failed: " ++ description
  | .datagramTooLarge size => "datagram of " ++ toString size ++ " bytes exceeds the UDP limit"
  | .shutDown => "transport shut down"

/-- Why a server cannot do what it is asked. -/
inductive ServerFault
  | transport (fault : SocketFault)
  | protocol (fault : WireFault)
  | session (fault : SessionFault)
  | settings (description : String)
  /-- The server has stopped. -/
  | closed
  deriving DecidableEq

namespace ServerFault

/-- The part of the server that a fault comes from. -/
def layer : ServerFault → String
  | .transport _ => "Transport"
  | .protocol _ => "Protocol"
  | .session _ => "Session"
  | .settings _ => "Config"
  | .closed => "ServerClosed"

/-- The text of a fault. -/
def message : ServerFault → String
  | .transport fault => fault.message
  | .protocol fault => fault.message
  | .session fault => fault.message
  | .settings description => "invalid configuration: " ++ description
  | .closed => "server has shut down"

end ServerFault

end SessionLayer
