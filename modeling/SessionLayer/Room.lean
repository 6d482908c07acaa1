import SessionLayer.Data.Table

/-!
# Rooms

A session may sit in a room, which it does not keep alive: it knows the key of
the room, and the table of rooms says whether the room still exists. A key is
never given out twice, so a session that outlives its room does not find itself
in another one of the same name.
-/

namespace SessionLayer

/-- What a session knows its room by. -/
structure RoomKey where
  value : Nat
  deriving DecidableEq

/-- The rooms that exist, each with its name. -/
structure RoomTable where
  nextKey : Nat
  names : Table RoomKey String

namespace RoomTable

/-- No room exists yet. -/
def empty : RoomTable := ⟨0, .empty⟩

instance : Inhabited RoomTable := ⟨empty⟩

/-- The name of a room, if the room exists. -/
def name? (rooms : RoomTable) (key : RoomKey) : Option String := rooms.names.get? key

/-- Whether a room exists. -/
def exists? (rooms : RoomTable) (key : RoomKey) : Bool := rooms.names.contains key

/-- The key of the room with this name, if there is one. -/
def find? (rooms : RoomTable) (name : String) : Option RoomKey :=
  (rooms.names.entries.find? fun entry => entry.2 = name).map Prod.fst

/-- The room with this name, made if there is none. -/
def ensure (rooms : RoomTable) (name : String) : RoomKey × RoomTable :=
  match rooms.find? name with
  | some key => (key, rooms)
  | none =>
    let key : RoomKey := ⟨rooms.nextKey⟩
    (key, { nextKey := rooms.nextKey + 1, names := rooms.names.insert key name })

/-- Ends the room with this name and says whether there was one. -/
def drop (rooms : RoomTable) (name : String) : Bool × RoomTable :=
  match rooms.find? name with
  | some key => (true, { rooms with names := rooms.names.erase key })
  | none => (false, rooms)

end RoomTable

end SessionLayer
