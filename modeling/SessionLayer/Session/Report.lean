import SessionLayer.Session.Basic
import SessionLayer.Text.Duration
import SessionLayer.Text.Quoted

/-!
# How sessions are shown

A session has a short form for people and a long form that shows its parts by
name. The long form ends in two points because it leaves parts out.
-/

namespace SessionLayer

/-- Named parts between braces. -/
def recordText (name : String) (parts : List (String × String)) (more : Bool) : String :=
  let shown := parts.map fun part => part.1 ++ ": " ++ part.2
  let shown := if more then shown ++ [".."] else shown
  name ++ " \x7b " ++ String.intercalate ", " shown ++ " \x7d"

/-- The text of a value that may be absent. -/
def optionText {α : Type} (text : α → String) : Option α → String
  | none => "None"
  | some value => "Some(" ++ text value ++ ")"

/-- The long form of a build. -/
def ClientVersion.partsText (version : ClientVersion) : String :=
  recordText "ClientVersion"
    [("year", toString version.year.toNat), ("month", toString version.month.toNat),
      ("day", toString version.day.toNat), ("build", toString version.build.toNat)] false

/-- The long form of what a client said of itself. -/
def ClientIdentity.partsText (identity : ClientIdentity) : String :=
  recordText "ClientIdentity"
    [("display_name", Quoted.quote identity.displayName),
      ("client_version", identity.version.partsText),
      ("hazel_version", toString identity.transport.toNat),
      ("language", identity.language.text),
      ("chat_mode", identity.chatMode.text),
      ("platform", identity.platform.text),
      ("platform_name", Quoted.quote identity.platformName)] false

namespace Session

/-- The long form of a session. -/
def partsText (session : Session) : String :=
  recordText "Session"
    [("client_id", "ClientId(" ++ toString session.client.value.toNat ++ ")"),
      ("remote", session.remote.text),
      ("state", session.state.name),
      ("identity", optionText ClientIdentity.partsText session.identity),
      ("round_trip", optionText Span.figures session.roundTrip),
      ("unacked", toString session.unackedCount)] true

/-- The round trip in whole milliseconds, or a question mark. -/
def pingText (session : Session) : String :=
  match session.roundTrip with
  | some span => toString span.millis ++ "ms"
  | none => "?"

/-- The short form of a session: the client, its address, its round trip and its
room. -/
def text (session : Session) (rooms : RoomTable) : String :=
  session.client.text ++ " (" ++ session.remote.text ++ ") ping=" ++ session.pingText
    ++ " room=" ++ ((session.room.bind rooms.name?).getD "none")

end Session

end SessionLayer
