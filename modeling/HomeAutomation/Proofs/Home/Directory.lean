/-
  HomeAutomation.Proofs.Home.Directory

  Which configured devices can be found.  A device is asked for by the name of its
  room, in any spelling with the same normal form, and by its type.  The first
  entry for both answers, but only entries of rooms count that no later room of
  the same name replaces (`standing`).  Where no name is repeated these are all
  rooms; where one is, a device of the earlier room may be out of reach.
-/

import Mathlib.Data.List.Induction
import HomeAutomation.Proofs.Home.Config
import HomeAutomation.Proofs.Text.Normal

namespace HomeAutomation

-- ============================================================================
-- Rooms of a directory
-- ============================================================================

/-- Of the rooms with one name the last is found. -/
theorem Directory.room?_ofRooms (rooms : List Room) (location : String) :
    (ofRooms rooms).room? location
      = rooms.reverse.find? (Text.normalize ·.name == Text.normalize location) := by
  induction rooms using List.reverseRecOn with
  | nil => rfl
  | append_singleton rooms room ih =>
    have entered : ofRooms (rooms ++ [room]) = (ofRooms rooms).insert room := by
      rw [ofRooms, List.foldl_concat]
      rfl
    have found : ((ofRooms rooms).insert room).room? location
        = Table.get? ((ofRooms rooms).entries.set (Text.normalize room.name) room)
            (Text.normalize location) := rfl
    rw [entered, found, List.reverse_concat, List.find?_cons]
    by_cases same : Text.normalize room.name = Text.normalize location
    · rw [beq_iff_eq.2 same, same, Table.get?_set_self]
    · rw [beq_eq_false_iff_ne.2 same, Table.get?_set_ne _ _ (Ne.symm same)]
      exact ih

namespace HomeConfig

-- ============================================================================
-- Entries of a configuration
-- ============================================================================

/-- The rooms that a configuration lists. -/
def roomEntries (home : Json) : List Json := (entriesOf? home.fields "rooms").getD []

/-- The devices that a room lists. -/
def deviceEntries (room : Json) : List Json := (entriesOf? room.fields "devices").getD []

/-- The normal form of the name of a room. -/
def nameOf? (room : Json) : Option String :=
  ((room.field? "name").bind Json.text?).map Text.normalize

/-- The lower-case form of the type of a device. -/
def kindOf? (device : Json) : Option String :=
  ((device.field? "type").bind Json.text?).map Text.lower

/-- The devices of rooms in order, each with its room. -/
def placed (rooms : List Json) : List (Json × Json) :=
  rooms.flatMap fun room => (deviceEntries room).map (room, ·)

/-- Whether a device in a room has a type and the room a name. -/
def isFor (name kind : String) (entry : Json × Json) : Bool :=
  nameOf? entry.1 == some name && kindOf? entry.2 == some kind

/-- The rooms that no later room of the same name replaces. -/
def standing : List Json → List Json
  | [] => []
  | room :: later =>
    if later.any (nameOf? · == nameOf? room) then standing later else room :: standing later

theorem placed_cons (room : Json) (later : List Json) :
    placed (room :: later) = (deviceEntries room).map (room, ·) ++ placed later :=
  List.flatMap_cons

/-- Where no name is repeated all rooms stand. -/
theorem standing_eq_self {rooms : List Json} (distinct : (rooms.map nameOf?).Nodup) :
    standing rooms = rooms := by
  induction rooms with
  | nil => rfl
  | cons room later ih =>
    rw [List.map_cons, List.nodup_cons] at distinct
    have unreplaced : later.any (nameOf? · == nameOf? room) = false := by
      rw [Bool.eq_false_iff]
      intro replaced
      obtain ⟨other, member, same⟩ := List.any_eq_true.1 replaced
      exact distinct.1 (List.mem_map.2 ⟨other, member, eq_of_beq same⟩)
    rw [standing, unreplaced, if_neg Bool.false_ne_true, ih distinct.2]

/-- The devices of a room that are for a name and a type. -/
theorem find?_isFor_room (name kind : String) (room : Json) :
    ((deviceEntries room).map (room, ·)).find? (isFor name kind)
      = if nameOf? room = some name then
          ((deviceEntries room).find? (kindOf? · == some kind)).map (room, ·)
        else none := by
  rw [List.find?_map]
  split
  · rename_i named
    refine congrArg (Option.map _) (congrArg (List.find? · _) (funext fun device => ?_))
    simp [isFor, named]
  · rename_i unnamed
    have none : (deviceEntries room).find? (isFor name kind ∘ (room, ·)) = none := by
      rw [List.find?_eq_none]
      intro device _
      simp [isFor, unnamed]
    rw [none]
    rfl

/-- The first device for a name and a type among rooms that stand is the first of its type in the
    last room of the name. -/
theorem find?_isFor_standing (name kind : String) (rooms : List Json) :
    (placed (standing rooms)).find? (isFor name kind)
      = (rooms.reverse.find? (nameOf? · == some name)).bind fun room =>
          ((deviceEntries room).find? (kindOf? · == some kind)).map (room, ·) := by
  induction rooms with
  | nil => rfl
  | cons room later ih =>
    rw [List.reverse_cons, List.find?_append, List.find?_singleton, standing]
    by_cases named : nameOf? room = some name
    · have same : (nameOf? room == some name) = true := beq_iff_eq.2 named
      rw [same, if_pos rfl, named]
      cases last : later.reverse.find? (nameOf? · == some name) with
      | some other =>
        have replaced : later.any (nameOf? · == some name) = true := by
          have member := List.mem_reverse.1 (List.mem_of_find?_eq_some last)
          have same := List.find?_some last
          exact List.any_eq_true.2 ⟨other, member, same⟩
        rw [if_pos replaced, ih, last]
        rfl
      | none =>
        have unreplaced : ¬later.any (nameOf? · == some name) = true := by
          intro replaced
          obtain ⟨other, member, same⟩ := List.any_eq_true.1 replaced
          exact List.find?_eq_none.1 last other (List.mem_reverse.2 member) same
        rw [if_neg unreplaced, placed_cons, List.find?_append, find?_isFor_room, if_pos named, ih,
          last]
        simp
    · have other : (nameOf? room == some name) = false := by simpa using named
      rw [other, if_neg Bool.false_ne_true, Option.or_none, ← ih]
      split
      · rfl
      · rw [placed_cons, List.find?_append, find?_isFor_room, if_neg named, Option.none_or]

-- ============================================================================
-- Entries and what they describe
-- ============================================================================

/-- The name of a room is in normal form. -/
theorem DescribesRoom.normalize_name {entry : Json} {room : Room} (h : DescribesRoom entry room) :
    Text.normalize room.name = room.name := by
  obtain ⟨-, -, -⟩ := h
  exact Text.normalize_normalize _

/-- An entry has the name of the room that it describes. -/
theorem DescribesRoom.nameOf?_beq {entry : Json} {room : Room} (h : DescribesRoom entry room)
    (name : String) : (nameOf? entry == some name) = (Text.normalize room.name == name) := by
  rw [h.normalize_name]
  obtain ⟨named, -, -⟩ := h
  simp [nameOf?, Json.field?, named, Json.text?]

theorem DescribesRoom.devices {entry : Json} {room : Room} (h : DescribesRoom entry room) :
    List.Forall₂ (DescribesDevice room.name (sensorHost entry.fields)) (deviceEntries entry)
      room.devices := by
  obtain ⟨-, listed, each⟩ := h
  simpa [deviceEntries, Json.fields, listed] using each

/-- An entry has the type of the device that it describes. -/
theorem DescribesDevice.kindOf?_beq {name : String} {roomHost entry : Json} {device : DeviceTarget}
    (h : DescribesDevice name roomHost entry device) (kind : String) :
    (kindOf? entry == some kind) = (device.deviceType == kind) := by
  obtain ⟨-, typed⟩ := h
  simp [kindOf?, Json.field?, typed, Json.text?]

/-- What an entry says of the device that it describes. -/
theorem DescribesDevice.eq {name : String} {roomHost entry : Json} {device : DeviceTarget}
    (h : DescribesDevice name roomHost entry device) :
    device = ⟨(entry.field "device_id").label, deviceHost roomHost entry.fields, device.deviceType,
      name⟩ := by
  obtain ⟨identified, -⟩ := h
  simp [Json.field, Json.field?, identified, Json.fields]

theorem DescribesHome.rooms {home : Json} {rooms : List Room} (h : DescribesHome home rooms) :
    List.Forall₂ DescribesRoom (roomEntries home) rooms := by
  obtain ⟨listed, each⟩ := h
  simpa [roomEntries, Json.fields, listed] using each

/-- What is found among entries is found among what they describe. -/
theorem find?_forall₂ {α β : Type} {R : α → β → Prop} {p : α → Bool} {q : β → Bool}
    {entries : List α} {results : List β} (each : List.Forall₂ R entries results)
    (agree : ∀ {entry result}, R entry result → p entry = q result) :
    entries.find? p = none ∧ results.find? q = none ∨
      ∃ entry result, entries.find? p = some entry ∧ results.find? q = some result ∧
        R entry result := by
  induction each with
  | nil => exact .inl ⟨rfl, rfl⟩
  | @cons entry result entries results first _ ih =>
    rw [List.find?_cons, List.find?_cons, agree first]
    cases found : q result with
    | true => exact .inr ⟨entry, result, rfl, rfl, first⟩
    | false => exact ih

-- ============================================================================
-- Devices that are found
-- ============================================================================

/-- For every spelling of the name of a room and every type of devices, the first entry for both in
    a room that stands is the device that is found, at its own host or the one of its room; without
    such an entry none is.  All rooms stand if no two have the same name. -/
theorem resolve_configured {home : Json} {rooms : List Room}
    (accepted : readRooms home = .ok rooms) :
    (∀ location kind, (Directory.ofRooms rooms).resolve location kind
      = match (placed (standing (roomEntries home))).find?
            (isFor (Text.normalize location) kind) with
        | some (room, device) => .ok ⟨(device.field "device_id").label,
            deviceHost (sensorHost room.fields) device.fields, kind, Text.normalize location⟩
        | none => .error ⟨location, kind⟩) ∧
      (((roomEntries home).map nameOf?).Nodup →
        standing (roomEntries home) = roomEntries home) := by
  refine ⟨fun location kind => ?_, standing_eq_self⟩
  have described := List.forall₂_reverse_iff.2 (readRooms_eq_ok_iff.1 accepted).rooms
  rw [Directory.resolve, Directory.room?_ofRooms, find?_isFor_standing]
  rcases find?_forall₂ described fun h => h.nameOf?_beq (Text.normalize location) with
    ⟨unlisted, unfound⟩ | ⟨entry, room, listed, found, h⟩
  · rw [unlisted, unfound]
    rfl
  · have named := List.find?_some found
    rw [beq_iff_eq, h.normalize_name] at named
    rw [listed, found, Option.bind_some, Option.bind_some]
    rcases find?_forall₂ h.devices fun h => h.kindOf?_beq kind with
      ⟨unlisted, unfound⟩ | ⟨device, target, listed, found, h'⟩
    · rw [unlisted, unfound]
      rfl
    · have typed := List.find?_some found
      rw [beq_iff_eq] at typed
      rw [listed, found, h'.eq, typed, named]
      rfl

/-- A hall that is listed twice, first with a lamp and then with a fan. -/
def twoHalls : Json :=
  .object [("rooms", .list
    [.object [("name", .text "Hall"), ("devices", .list
      [.object [("device_id", .text "lamp"), ("type", .text "light")]])],
     .object [("name", .text " hall "), ("sensor_host", .text "10.0.0.2"), ("devices", .list
      [.object [("device_id", .integer 7), ("type", .text "Fan")]])]])]

/-- What a device is found as: its id, the text of its host, its type and its room. -/
def shown (device : DeviceTarget) : String × Option String × String × String :=
  (device.deviceId, device.host.text?, device.deviceType, device.location)

/-- The fan is found in any spelling of the hall, and no other type is. -/
theorem resolve_configured_twoHalls : ∃ rooms, readRooms twoHalls = .ok rooms ∧
    ((Directory.ofRooms rooms).resolve "HALL" "fan").toOption.map shown
      = some ("7", some "10.0.0.2", "fan", "hall") ∧
    (Directory.ofRooms rooms).resolve "HALL" "ac" = .error ⟨"HALL", "ac"⟩ := by
  obtain ⟨rooms, accepted⟩ : ∃ rooms, readRooms twoHalls = .ok rooms := ⟨_, rfl⟩
  have found := (resolve_configured accepted).1
  have unlisted : (placed (standing (roomEntries twoHalls))).find?
      (isFor (Text.normalize "HALL") "ac") = none := by
    have view : ((placed (standing (roomEntries twoHalls))).find?
      (isFor (Text.normalize "HALL") "ac")).isNone = true := by decide +kernel
    exact Option.isNone_iff_eq_none.1 view
  refine ⟨rooms, accepted, ?_, ?_⟩
  · rw [found]
    decide +kernel
  · rw [found, unlisted]

/-- The lamp, though the first entry for a light in the hall, is out of reach, since the second hall
    replaces the first. -/
theorem replaced_twoHalls : ∃ rooms, readRooms twoHalls = .ok rooms ∧
    ((placed (roomEntries twoHalls)).find? (isFor (Text.normalize "Hall") "light")).map
      (fun entry => (entry.2.field "device_id").label) = some "lamp" ∧
    ((Directory.ofRooms rooms).resolve "Hall" "light").toOption.map shown = none := by
  refine ⟨_, rfl, ?_, ?_⟩ <;> decide +kernel

end HomeConfig

end HomeAutomation
