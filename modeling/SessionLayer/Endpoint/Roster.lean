import SessionLayer.Session.Basic

/-!
# The roster of sessions

The roster holds the session of every peer by the address of the peer, and for
every client the address under which it is found. A new peer gets the next
client number.
-/

namespace SessionLayer

/-- The sessions of all peers, and where each client is found. -/
structure Roster where
  sessions : Table Address Session
  clients : Table ClientId Address
  /-- The number of the next client. -/
  nextClient : ClientId
  settings : SessionSettings
  flood : FloodSettings

namespace Roster

/-- A roster without sessions. Clients are numbered from one. -/
def empty (settings : SessionSettings) (flood : FloodSettings) : Roster where
  sessions := .empty
  clients := .empty
  nextClient := ⟨1⟩
  settings := settings
  flood := flood

/-- The session of a peer. -/
def get? (roster : Roster) (remote : Address) : Option Session := roster.sessions.get? remote

/-- Where a client is found. -/
def addressOf? (roster : Roster) (client : ClientId) : Option Address := roster.clients.get? client

/-- The session of a client. -/
def byClient? (roster : Roster) (client : ClientId) : Option Session :=
  (roster.addressOf? client).bind roster.get?

/-- The addresses of all peers that have a session. -/
def addresses (roster : Roster) : List Address := roster.sessions.keys

/-- How many sessions there are. -/
def size (roster : Roster) : Nat := roster.sessions.size

/-- Stores the session of a peer. -/
def put (roster : Roster) (remote : Address) (session : Session) : Roster :=
  { roster with sessions := roster.sessions.insert remote session }

/-- The session of a peer, made if there is none; also says whether it was
made. -/
def lookupOrCreate (roster : Roster) (remote : Address) (now : Instant) :
    Except Halt (Session × Bool × Roster) :=
  match roster.get? remote with
  | some session => .ok (session, false, roster)
  | none => do
    let client := roster.nextClient
    let session ← Session.create client remote roster.settings roster.flood now
    return (session, true,
      { roster with
        sessions := roster.sessions.insert remote session
        clients := roster.clients.insert client remote
        nextClient := client.next })

/-- Takes out the session of a peer, and with it the entry of its client. -/
def remove (roster : Roster) (remote : Address) : Option Session × Roster :=
  match roster.get? remote with
  | none => (none, roster)
  | some session =>
    (some session,
      { roster with
        sessions := roster.sessions.erase remote
        clients := roster.clients.erase session.client })

end Roster

end SessionLayer
