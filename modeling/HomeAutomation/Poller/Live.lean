/-
  HomeAutomation.Poller.Live

  What is known of the rooms that are polled. A tick of a room begins by being counted and ends,
  once its sensor has been read, by noting what was read or why nothing could be read. Ticks of one
  room and of different rooms may overlap.
-/
import HomeAutomation.Json.Value

namespace HomeAutomation

/-- What is known of a room. -/
structure RoomStatus where
  /-- The snapshot that was read last. -/
  lastSnapshot : Option Json := none
  /-- Why the last reading failed, if it did. -/
  lastError : Option String := none
  /-- How many ticks have begun. -/
  ticks : Nat := 0
  /-- How many readings have failed. -/
  failures : Nat := 0
  deriving Repr, Inhabited

/-- What is known of the rooms. -/
abbrev Live := Table RoomStatus

namespace Live

/-- Nothing is known of the rooms yet. -/
def ofRooms (rooms : List String) : Live :=
  rooms.foldl (fun live room => Table.set live room {}) []

/-- What is known of a room. -/
def status (live : Live) (room : String) : RoomStatus := (Table.get? live room).getD {}

/-- Changes what is known of a room. -/
def modify (live : Live) (room : String) (f : RoomStatus → RoomStatus) : Live :=
  Table.set live room (f (live.status room))

/-- A tick of a room begins. -/
def begin (live : Live) (room : String) : Live :=
  live.modify room fun status => { status with ticks := status.ticks + 1 }

/-- The sensor of a room has been read, or could not be. -/
def finish (live : Live) (room : String) : Except String Json → Live
  | .ok snapshot => live.modify room fun status =>
      { status with lastSnapshot := some snapshot, lastError := none }
  | .error reason => live.modify room fun status =>
      { status with lastError := some reason, failures := status.failures + 1 }

/-- What reports show of a room. The room has been read if it has a snapshot. -/
def statusFields (time : String) (status : RoomStatus) : Table Json :=
  [("last_snapshot", status.lastSnapshot.getD .null),
   ("last_ok_utc", if status.lastSnapshot.isSome then .text time else .null),
   ("last_error", .ofText? status.lastError), ("ticks", .integer status.ticks),
   ("failures", .integer status.failures)]

/-- What reports show of the rooms. -/
def toJson (live : Live) (time : String) : Json :=
  .object (live.map fun (room, status) => (room, .object (statusFields time status)))

end Live

end HomeAutomation
