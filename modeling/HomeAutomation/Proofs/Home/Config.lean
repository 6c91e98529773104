/-
  HomeAutomation.Proofs.Home.Config

  What a home configuration has to look like.  `DescribesHome` says which rooms a
  value describes.  A value that describes none has a first fault, in the order
  in which rooms and devices stand in it (`HomeFault`).  Reading gives the rooms
  that are described, or that fault.

  `load_outcomes` says from this what becomes of every configuration file: a name
  that is missing gives way to the built-in home like a file that is no JSON, but
  a value of a wrong kind, or one that goes too deep, makes loading fail.
-/

import Mathlib.Data.List.Forall2
import HomeAutomation.Home.Config
import HomeAutomation.Proofs.Rule.Parser

namespace HomeAutomation

namespace HomeConfig

-- ============================================================================
-- Lists that are read item by item
-- ============================================================================

section Items

variable {α β ε : Type} {f : α → Except ε β} {items : List α} {e : ε}

/-- A list is read if each of its items is. -/
theorem mapM_eq_ok_iff {results : List β} :
    items.mapM f = .ok results ↔
      List.Forall₂ (fun item result => f item = .ok result) items results := by
  induction items generalizing results with
  | nil =>
    rw [List.mapM_nil]
    constructor
    · intro h
      cases h
      exact .nil
    · intro h
      cases h
      rfl
  | cons item items ih =>
    rw [List.mapM_cons, bind_eq_ok_iff]
    constructor
    · rintro ⟨result, first, h⟩
      obtain ⟨more, others, h⟩ := bind_eq_ok_iff.1 h
      cases h
      exact .cons first (ih.1 others)
    · intro h
      cases h with
      | cons first others => exact ⟨_, first, bind_eq_ok_iff.2 ⟨_, ih.2 others, rfl⟩⟩

/-- Reading a list stops at the first item that has a fault. -/
theorem mapM_eq_error_iff :
    items.mapM f = .error e ↔ ∃ before item after, items = before ++ item :: after ∧
      (∀ earlier ∈ before, ∃ result, f earlier = .ok result) ∧ f item = .error e := by
  induction items with
  | nil =>
    rw [List.mapM_nil]
    constructor
    · intro h
      cases h
    · rintro ⟨before, item, after, split, -⟩
      exact absurd split (by simp)
  | cons first items ih =>
    rw [List.mapM_cons, bind_eq_error_iff]
    constructor
    · rintro (fault | ⟨result, fine, h⟩)
      · exact ⟨[], first, items, rfl, by simp, fault⟩
      · rcases bind_eq_error_iff.1 h with later | ⟨more, -, h⟩
        · obtain ⟨before, item, after, rfl, each, fault⟩ := ih.1 later
          refine ⟨first :: before, item, after, rfl, ?_, fault⟩
          intro earlier member
          rcases List.mem_cons.1 member with rfl | member
          · exact ⟨result, fine⟩
          · exact each earlier member
        · cases h
    · rintro ⟨before, item, after, split, each, fault⟩
      cases before with
      | nil =>
        obtain ⟨rfl, -⟩ := List.cons.inj split
        exact .inl fault
      | cons earlier before =>
        obtain ⟨rfl, rest⟩ := List.cons.inj split
        obtain ⟨result, fine⟩ := each first List.mem_cons_self
        have later := ih.2 ⟨before, item, after, rest,
          fun other member => each other (List.mem_cons_of_mem _ member), fault⟩
        exact .inr ⟨result, fine, bind_eq_error_iff.2 (.inl later)⟩

end Items

-- ============================================================================
-- Descriptions
-- ============================================================================

/-- The entries of a list; what is empty has none, and nothing else is a list. -/
def entries? : Json → Option (List Json)
  | .list items => some items
  | .object [] => some []
  | .text value => if value = "" then some [] else none
  | _ => none

/-- The entries of a field of an object; a field that is missing has none. -/
def entriesOf? (fields : Table Json) (key : String) : Option (List Json) :=
  match fields.get? key with
  | some given => entries? given
  | none => some []

/-- The host of the sensor of a room. -/
def sensorHost (room : Table Json) : Json := (room.get? "sensor_host").getD (.text "")

/-- The host of a device: its own, unless that is missing or empty, or else the one of its room. -/
def deviceHost (roomHost : Json) (device : Table Json) : Json :=
  match device.get? "host" with
  | some own => if own.isTrue then own else roomHost
  | none => roomHost

/-- The device that a value describes in a room. -/
inductive DescribesDevice (room : String) (roomHost : Json) : Json → DeviceTarget → Prop
  | device {fields : Table Json} {id : Json} {kind : String}
      (identified : fields.get? "device_id" = some id)
      (typed : fields.get? "type" = some (.text kind)) :
      DescribesDevice room roomHost (.object fields)
        ⟨id.label, deviceHost roomHost fields, Text.lower kind, room⟩

/-- The room that a value describes. -/
inductive DescribesRoom : Json → Room → Prop
  | room {fields : Table Json} {name : String} {entries : List Json} {devices : List DeviceTarget}
      (named : fields.get? "name" = some (.text name))
      (listed : entriesOf? fields "devices" = some entries)
      (each : List.Forall₂ (DescribesDevice (Text.normalize name) (sensorHost fields))
        entries devices) :
      DescribesRoom (.object fields) ⟨Text.normalize name, sensorHost fields, devices⟩

/-- The rooms that a home configuration describes. -/
inductive DescribesHome : Json → List Room → Prop
  | home {fields : Table Json} {entries : List Json} {rooms : List Room}
      (listed : entriesOf? fields "rooms" = some entries)
      (each : List.Forall₂ DescribesRoom entries rooms) : DescribesHome (.object fields) rooms

-- ============================================================================
-- Faults
-- ============================================================================

/-- Why a value describes no device. -/
inductive DeviceFault : Json → ConfigError → Prop
  | kind {value : Json} (other : ∀ fields, value ≠ .object fields) : DeviceFault value .wrongKind
  | unidentified {fields : Table Json} (missing : fields.get? "device_id" = none) :
      DeviceFault (.object fields) (.missingField "device_id")
  | untyped {fields : Table Json} {id : Json} (identified : fields.get? "device_id" = some id)
      (missing : fields.get? "type" = none) : DeviceFault (.object fields) (.missingField "type")
  | mistyped {fields : Table Json} {id given : Json}
      (identified : fields.get? "device_id" = some id) (found : fields.get? "type" = some given)
      (other : ∀ kind, given ≠ .text kind) : DeviceFault (.object fields) .notAnObject

/-- The first fault of a value that describes no room. -/
inductive RoomFault : Json → ConfigError → Prop
  | kind {value : Json} (other : ∀ fields, value ≠ .object fields) : RoomFault value .wrongKind
  | unnamed {fields : Table Json} (missing : fields.get? "name" = none) :
      RoomFault (.object fields) (.missingField "name")
  | misnamed {fields : Table Json} {given : Json} (found : fields.get? "name" = some given)
      (other : ∀ name, given ≠ .text name) : RoomFault (.object fields) .notAnObject
  | unlisted {fields : Table Json} {name : String} (named : fields.get? "name" = some (.text name))
      (unlisted : entriesOf? fields "devices" = none) : RoomFault (.object fields) .wrongKind
  | device {fields : Table Json} {name : String} {before after : List Json} {entry : Json}
      {e : ConfigError} (named : fields.get? "name" = some (.text name))
      (listed : entriesOf? fields "devices" = some (before ++ entry :: after))
      (each : ∀ earlier ∈ before, ∃ device,
        DescribesDevice (Text.normalize name) (sensorHost fields) earlier device)
      (fault : DeviceFault entry e) : RoomFault (.object fields) e

/-- The first fault of a value that describes no home. -/
inductive HomeFault : Json → ConfigError → Prop
  | kind {value : Json} (other : ∀ fields, value ≠ .object fields) : HomeFault value .notAnObject
  | unlisted {fields : Table Json} (unlisted : entriesOf? fields "rooms" = none) :
      HomeFault (.object fields) .wrongKind
  | room {fields : Table Json} {before after : List Json} {entry : Json} {e : ConfigError}
      (listed : entriesOf? fields "rooms" = some (before ++ entry :: after))
      (each : ∀ earlier ∈ before, ∃ room, DescribesRoom earlier room)
      (fault : RoomFault entry e) : HomeFault (.object fields) e

-- ============================================================================
-- Fields
-- ============================================================================

variable {value : Json} {fields : Table Json} {key : String} {e : ConfigError}

theorem required_eq_ok_iff {given : Json} :
    required (.object fields) key = .ok given ↔ fields.get? key = some given := by
  cases found : fields.get? key <;> simp [required, found]

theorem required_eq_error_iff :
    required (.object fields) key = .error e
      ↔ fields.get? key = none ∧ e = .missingField key := by
  cases found : fields.get? key <;> simp [required, found, eq_comm]

/-- A value is an object or it is none. -/
theorem object_or_other (value : Json) :
    (∃ fields, value = .object fields) ∨ ∀ fields, value ≠ .object fields := by
  by_cases object : ∃ fields, value = .object fields
  · exact .inl object
  · exact .inr fun fields same => object ⟨fields, same⟩

/-- What is no object has no fields. -/
theorem required_of_ne_object (other : ∀ fields, value ≠ .object fields) (key : String) :
    required value key = .error .wrongKind := by
  cases value with
  | object fields => exact absurd rfl (other fields)
  | _ => rfl

theorem fieldOr_of_ne_object (other : ∀ fields, value ≠ .object fields) (key : String)
    (standIn : Json) : fieldOr value key standIn = .error .notAnObject := by
  cases value with
  | object fields => exact absurd rfl (other fields)
  | _ => rfl

theorem textOf_eq_ok_iff {text : String} : textOf value = .ok text ↔ value = .text text := by
  cases value <;> simp [textOf]

theorem textOf_eq_error_iff :
    textOf value = .error e ↔ (∀ text, value ≠ .text text) ∧ e = .notAnObject := by
  cases value <;> simp [textOf, eq_comm]

/-- A required text is there, or missing, or no text. -/
theorem requiredText_eq_ok_iff {text : String} :
    required (.object fields) key >>= textOf = .ok text ↔ fields.get? key = some (.text text) := by
  simp only [bind_eq_ok_iff, required_eq_ok_iff, textOf_eq_ok_iff]
  constructor
  · rintro ⟨_, found, rfl⟩
    exact found
  · intro found
    exact ⟨_, found, rfl⟩

theorem requiredText_eq_error_iff :
    required (.object fields) key >>= textOf = .error e ↔
      fields.get? key = none ∧ e = .missingField key ∨
      ∃ given, fields.get? key = some given ∧ (∀ text, given ≠ .text text) ∧ e = .notAnObject := by
  simp only [bind_eq_error_iff, required_eq_ok_iff, required_eq_error_iff, textOf_eq_error_iff]

/-- What stands for the host of a device. -/
theorem ite_isTrue_eq_deviceHost (fields : Table Json) (roomHost : Json) :
    (if ((fields.get? "host").getD .null).isTrue then (fields.get? "host").getD .null else roomHost)
      = deviceHost roomHost fields := by
  unfold deviceHost
  cases fields.get? "host" <;> rfl

-- ============================================================================
-- Reading what is listed
-- ============================================================================

section Listed

variable {β : Type} {read : Json → Except ConfigError β}

/-- Reads the entries of a list, if it is one. -/
def readEntries (read : Json → Except ConfigError β) :
    Option (List Json) → Except ConfigError (List β)
  | some entries => entries.mapM read
  | none => .error .wrongKind

theorem readEntries_eq_ok_iff {listed : Option (List Json)} {results : List β} :
    readEntries read listed = .ok results ↔ ∃ entries, listed = some entries ∧
      List.Forall₂ (fun entry result => read entry = .ok result) entries results := by
  cases listed <;> simp [readEntries, mapM_eq_ok_iff]

theorem readEntries_eq_error_iff {listed : Option (List Json)} :
    readEntries read listed = .error e ↔ listed = none ∧ e = .wrongKind ∨
      ∃ before entry after, listed = some (before ++ entry :: after) ∧
        (∀ earlier ∈ before, ∃ result, read earlier = .ok result) ∧ read entry = .error e := by
  cases listed with
  | none => simp [readEntries, eq_comm]
  | some entries => simp [readEntries, mapM_eq_error_iff]

/-- A value whose entries must not be texts is read entry by entry.  What is listed of texts and of
    the keys of objects are texts. -/
theorem listed_bind_mapM (texts : ∀ text, read (.text text) = .error .wrongKind) (value : Json) :
    (listed value >>= fun items => items.mapM read) = readEntries read (entries? value) := by
  cases value with
  | list items => rfl
  | object fields =>
    cases fields with
    | nil => rfl
    | cons field more =>
      exact mapM_eq_error_iff.2 ⟨[], .text field.1, more.map fun field => .text field.1, rfl,
        by simp, texts field.1⟩
  | text text =>
    rcases characters : text.toList with _ | ⟨c, more⟩
    · obtain rfl : text = "" := String.toList_injective characters
      rfl
    · have filled : text ≠ "" := by
        rintro rfl
        cases characters
      have items : (listed (.text text) >>= fun items => items.mapM read)
          = (text.toList.map fun c => Json.text (String.ofList [c])).mapM read := rfl
      rw [items, characters, entries?, if_neg filled]
      exact mapM_eq_error_iff.2 ⟨[], .text (String.ofList [c]),
        more.map fun c => .text (String.ofList [c]), rfl, by simp, texts _⟩
  | _ => rfl

/-- The same for the entries of a field, of which a missing one has none. -/
theorem fieldOr_bind_listed (texts : ∀ text, read (.text text) = .error .wrongKind)
    (fields : Table Json) (key : String) :
    (fieldOr (.object fields) key (.list []) >>= fun given =>
        listed given >>= fun items => items.mapM read)
      = readEntries read (entriesOf? fields key) := by
  have given : (fieldOr (.object fields) key (.list []) >>= fun given =>
        listed given >>= fun items => items.mapM read)
      = listed ((fields.get? key).getD (.list [])) >>= fun items => items.mapM read := rfl
  rw [given, listed_bind_mapM texts, entriesOf?]
  cases fields.get? key <;> rfl

end Listed

-- ============================================================================
-- Devices
-- ============================================================================

section Device

variable {room : String} {roomHost : Json} {device : DeviceTarget}

/-- How a device is read from the fields of an object. -/
theorem readDevice_object (room : String) (roomHost : Json) (fields : Table Json) :
    readDevice room roomHost (.object fields)
      = (do
          let id ← required (.object fields) "device_id"
          let kind ← required (.object fields) "type" >>= textOf
          return ⟨id.label, deviceHost roomHost fields, Text.lower kind, room⟩) := by
  rw [← ite_isTrue_eq_deviceHost]
  unfold readDevice
  simp only [bind_assoc]
  rfl

theorem readDevice_of_ne_object (other : ∀ fields, value ≠ .object fields) (room : String)
    (roomHost : Json) : readDevice room roomHost value = .error .wrongKind := by
  rw [readDevice, required_of_ne_object other]
  rfl

/-- A device is read as it is described. -/
theorem readDevice_eq_ok_iff :
    readDevice room roomHost value = .ok device ↔ DescribesDevice room roomHost value device := by
  constructor
  · intro h
    rcases object_or_other value with ⟨fields, rfl⟩ | other
    · rw [readDevice_object] at h
      obtain ⟨id, identified, h⟩ := bind_eq_ok_iff.1 h
      obtain ⟨kind, typed, h⟩ := bind_eq_ok_iff.1 h
      obtain rfl := Except.ok.inj h
      exact .device (required_eq_ok_iff.1 identified) (requiredText_eq_ok_iff.1 typed)
    · rw [readDevice_of_ne_object other] at h
      cases h
  · rintro ⟨identified, typed⟩
    rw [readDevice_object]
    exact bind_eq_ok_iff.2 ⟨_, required_eq_ok_iff.2 identified,
      bind_eq_ok_iff.2 ⟨_, requiredText_eq_ok_iff.2 typed, rfl⟩⟩

/-- A device is not read if it has a fault. -/
theorem readDevice_eq_error_iff :
    readDevice room roomHost value = .error e ↔ DeviceFault value e := by
  constructor
  · intro h
    rcases object_or_other value with ⟨fields, rfl⟩ | other
    · rw [readDevice_object] at h
      rcases bind_eq_error_iff.1 h with fault | ⟨id, identified, h⟩
      · obtain ⟨missing, rfl⟩ := required_eq_error_iff.1 fault
        exact .unidentified missing
      · have identified := required_eq_ok_iff.1 identified
        rcases bind_eq_error_iff.1 h with fault | ⟨kind, -, h⟩
        · rcases requiredText_eq_error_iff.1 fault with ⟨missing, rfl⟩ | ⟨given, found, other, rfl⟩
          · exact .untyped identified missing
          · exact .mistyped identified found other
        · cases h
    · rw [readDevice_of_ne_object other] at h
      cases h
      exact .kind other
  · intro fault
    cases fault with
    | kind other => exact readDevice_of_ne_object other room roomHost
    | unidentified missing =>
      rw [readDevice_object]
      exact bind_eq_error_iff.2 (.inl (required_eq_error_iff.2 ⟨missing, rfl⟩))
    | untyped identified missing =>
      rw [readDevice_object]
      exact bind_eq_error_iff.2 (.inr ⟨_, required_eq_ok_iff.2 identified,
        bind_eq_error_iff.2 (.inl (requiredText_eq_error_iff.2 (.inl ⟨missing, rfl⟩)))⟩)
    | mistyped identified found other =>
      rw [readDevice_object]
      exact bind_eq_error_iff.2 (.inr ⟨_, required_eq_ok_iff.2 identified,
        bind_eq_error_iff.2
          (.inl (requiredText_eq_error_iff.2 (.inr ⟨_, found, other, rfl⟩)))⟩)

end Device

-- ============================================================================
-- Rooms
-- ============================================================================

/-- How a room is read from the fields of an object. -/
theorem readRoom_object (fields : Table Json) :
    readRoom (.object fields)
      = (do
          let name ← required (.object fields) "name" >>= textOf
          let devices ← readEntries (readDevice (Text.normalize name) (sensorHost fields))
            (entriesOf? fields "devices")
          return ⟨Text.normalize name, sensorHost fields, devices⟩) := by
  have texts (name text : String) :
      readDevice (Text.normalize name) (sensorHost fields) (.text text) = .error .wrongKind := rfl
  simp only [← fieldOr_bind_listed (texts _)]
  unfold readRoom
  simp only [bind_assoc]
  rfl

theorem readRoom_of_ne_object (other : ∀ fields, value ≠ .object fields) :
    readRoom value = .error .wrongKind := by
  rw [readRoom, required_of_ne_object other]
  rfl

/-- A room is read as it is described. -/
theorem readRoom_eq_ok_iff {room : Room} :
    readRoom value = .ok room ↔ DescribesRoom value room := by
  constructor
  · intro h
    rcases object_or_other value with ⟨fields, rfl⟩ | other
    · rw [readRoom_object] at h
      obtain ⟨name, named, h⟩ := bind_eq_ok_iff.1 h
      obtain ⟨devices, read, h⟩ := bind_eq_ok_iff.1 h
      obtain rfl := Except.ok.inj h
      obtain ⟨entries, listed, each⟩ := readEntries_eq_ok_iff.1 read
      exact .room (requiredText_eq_ok_iff.1 named) listed
        (each.imp fun _ _ => readDevice_eq_ok_iff.1)
    · rw [readRoom_of_ne_object other] at h
      cases h
  · rintro ⟨named, listed, each⟩
    have devices := readEntries_eq_ok_iff.2 ⟨_, listed,
      each.imp fun _ _ => readDevice_eq_ok_iff.2⟩
    rw [readRoom_object]
    exact bind_eq_ok_iff.2 ⟨_, requiredText_eq_ok_iff.2 named,
      bind_eq_ok_iff.2 ⟨_, devices, rfl⟩⟩

/-- A room is not read if it has a fault. -/
theorem readRoom_eq_error_iff : readRoom value = .error e ↔ RoomFault value e := by
  constructor
  · intro h
    rcases object_or_other value with ⟨fields, rfl⟩ | other
    · rw [readRoom_object] at h
      rcases bind_eq_error_iff.1 h with fault | ⟨name, named, h⟩
      · rcases requiredText_eq_error_iff.1 fault with ⟨missing, rfl⟩ | ⟨given, found, other, rfl⟩
        · exact .unnamed missing
        · exact .misnamed found other
      · have named := requiredText_eq_ok_iff.1 named
        rcases bind_eq_error_iff.1 h with fault | ⟨devices, -, h⟩
        · rcases readEntries_eq_error_iff.1 fault with
            ⟨unlisted, rfl⟩ | ⟨before, entry, after, listed, each, fault⟩
          · exact .unlisted named unlisted
          · exact .device named listed
              (fun earlier member => (each earlier member).imp fun _ => readDevice_eq_ok_iff.1)
              (readDevice_eq_error_iff.1 fault)
        · cases h
    · rw [readRoom_of_ne_object other] at h
      cases h
      exact .kind other
  · intro fault
    cases fault with
    | kind other => exact readRoom_of_ne_object other
    | unnamed missing =>
      rw [readRoom_object]
      exact bind_eq_error_iff.2 (.inl (requiredText_eq_error_iff.2 (.inl ⟨missing, rfl⟩)))
    | misnamed found other =>
      rw [readRoom_object]
      exact bind_eq_error_iff.2
        (.inl (requiredText_eq_error_iff.2 (.inr ⟨_, found, other, rfl⟩)))
    | unlisted named unlisted =>
      rw [readRoom_object]
      exact bind_eq_error_iff.2 (.inr ⟨_, requiredText_eq_ok_iff.2 named,
        bind_eq_error_iff.2 (.inl (readEntries_eq_error_iff.2 (.inl ⟨unlisted, rfl⟩)))⟩)
    | device named listed each fault =>
      rw [readRoom_object]
      refine bind_eq_error_iff.2 (.inr ⟨_, requiredText_eq_ok_iff.2 named,
        bind_eq_error_iff.2 (.inl (readEntries_eq_error_iff.2 (.inr ⟨_, _, _, listed, ?_,
          readDevice_eq_error_iff.2 fault⟩)))⟩)
      intro earlier member
      exact (each earlier member).imp fun _ => readDevice_eq_ok_iff.2

-- ============================================================================
-- Homes
-- ============================================================================

/-- How the rooms of a home are read from the fields of an object. -/
theorem readRooms_object (fields : Table Json) :
    readRooms (.object fields) = readEntries readRoom (entriesOf? fields "rooms") :=
  fieldOr_bind_listed (fun _ => rfl) fields "rooms"

theorem readRooms_of_ne_object (other : ∀ fields, value ≠ .object fields) :
    readRooms value = .error .notAnObject := by
  rw [readRooms, fieldOr_of_ne_object other]
  rfl

/-- The rooms of a home are read as they are described. -/
theorem readRooms_eq_ok_iff {rooms : List Room} :
    readRooms value = .ok rooms ↔ DescribesHome value rooms := by
  constructor
  · intro h
    rcases object_or_other value with ⟨fields, rfl⟩ | other
    · rw [readRooms_object] at h
      obtain ⟨entries, listed, each⟩ := readEntries_eq_ok_iff.1 h
      exact .home listed (each.imp fun _ _ => readRoom_eq_ok_iff.1)
    · rw [readRooms_of_ne_object other] at h
      cases h
  · rintro ⟨listed, each⟩
    rw [readRooms_object]
    exact readEntries_eq_ok_iff.2 ⟨_, listed, each.imp fun _ _ => readRoom_eq_ok_iff.2⟩

/-- The rooms of a home are not read if it has a fault. -/
theorem readRooms_eq_error_iff : readRooms value = .error e ↔ HomeFault value e := by
  constructor
  · intro h
    rcases object_or_other value with ⟨fields, rfl⟩ | other
    · rw [readRooms_object] at h
      rcases readEntries_eq_error_iff.1 h with
        ⟨unlisted, rfl⟩ | ⟨before, entry, after, listed, each, fault⟩
      · exact .unlisted unlisted
      · exact .room listed
          (fun earlier member => (each earlier member).imp fun _ => readRoom_eq_ok_iff.1)
          (readRoom_eq_error_iff.1 fault)
    · rw [readRooms_of_ne_object other] at h
      cases h
      exact .kind other
  · intro fault
    cases fault with
    | kind other => exact readRooms_of_ne_object other
    | unlisted unlisted =>
      rw [readRooms_object]
      exact readEntries_eq_error_iff.2 (.inl ⟨unlisted, rfl⟩)
    | room listed each fault =>
      rw [readRooms_object]
      exact readEntries_eq_error_iff.2 (.inr ⟨_, _, _, listed,
        fun earlier member => (each earlier member).imp fun _ => readRoom_eq_ok_iff.2,
        readRoom_eq_error_iff.2 fault⟩)

-- ============================================================================
-- Files
-- ============================================================================

/-- The rooms that a source leads to: those that it describes, or the built-in home where it cannot
    be read, is no JSON or lacks a name that is needed. -/
inductive LeadsTo : Source → List Room → Prop
  | bundled : LeadsTo .bundled HomeConfig.bundled
  | unreadable : LeadsTo .unreadable builtIn
  | malformed {text : String} {error : Json.ReadError} (unread : Json.read text = .error error)
      (shallow : error.fault ≠ .tooDeep) : LeadsTo (.content text) builtIn
  | incomplete {text key : String} {value : Json} (read : Json.read text = .ok value)
      (fault : HomeFault value (.missingField key)) : LeadsTo (.content text) builtIn
  | described {text : String} {value : Json} {rooms : List Room}
      (read : Json.read text = .ok value) (describes : DescribesHome value rooms) :
      LeadsTo (.content text) rooms

/-- Why loading a source fails: it goes too deep, or a value in it is of a wrong kind where nothing
    before it is missing. -/
inductive Defeats : Source → ConfigError → Prop
  | tooDeep {text : String} {offset : Nat} (unread : Json.read text = .error ⟨.tooDeep, offset⟩) :
      Defeats (.content text) .tooDeep
  | misshapen {text : String} {value : Json} {e : ConfigError} (read : Json.read text = .ok value)
      (fault : HomeFault value e) (present : ∀ key, e ≠ .missingField key) :
      Defeats (.content text) e

theorem load_of_read_error {text : String} {error : Json.ReadError}
    (unread : Json.read text = .error error) :
    load (.content text) = if error.fault = .tooDeep then .error .tooDeep else .ok builtIn := by
  obtain ⟨fault, offset⟩ := error
  unfold load
  dsimp only
  rw [unread]
  cases fault <;> rfl

theorem load_of_read_ok {text : String} (read : Json.read text = .ok value) :
    load (.content text)
      = match readRooms value with
        | .error (.missingField _) => .ok builtIn
        | result => result := by
  unfold load
  dsimp only
  rewrite [read]
  rfl

theorem LeadsTo.load_eq {source : Source} {rooms : List Room} (h : LeadsTo source rooms) :
    load source = .ok rooms := by
  cases h with
  | bundled => rfl
  | unreadable => rfl
  | malformed unread shallow => rw [load_of_read_error unread, if_neg shallow]
  | incomplete read fault => rw [load_of_read_ok read, readRooms_eq_error_iff.2 fault]
  | described read describes => rw [load_of_read_ok read, readRooms_eq_ok_iff.2 describes]

theorem Defeats.load_eq {source : Source} (h : Defeats source e) : load source = .error e := by
  cases h with
  | tooDeep unread => rw [load_of_read_error unread, if_pos rfl]
  | misshapen read fault present =>
    rw [load_of_read_ok read, readRooms_eq_error_iff.2 fault]
    cases e with
    | missingField key => exact absurd rfl (present key)
    | _ => rfl

/-- A source leads to rooms, or it makes loading fail. -/
theorem leadsTo_or_defeats (source : Source) :
    (∃ rooms, LeadsTo source rooms) ∨ ∃ e, Defeats source e := by
  cases source with
  | bundled => exact .inl ⟨_, .bundled⟩
  | unreadable => exact .inl ⟨_, .unreadable⟩
  | content text =>
    cases read : Json.read text with
    | error error =>
      obtain ⟨fault, offset⟩ := error
      by_cases deep : fault = .tooDeep
      · exact .inr ⟨_, .tooDeep (deep ▸ read)⟩
      · exact .inl ⟨_, .malformed read deep⟩
    | ok value =>
      cases rooms : readRooms value with
      | ok described => exact .inl ⟨_, .described read (readRooms_eq_ok_iff.1 rooms)⟩
      | error e =>
        have fault := readRooms_eq_error_iff.1 rooms
        by_cases missing : ∃ key, e = .missingField key
        · obtain ⟨key, rfl⟩ := missing
          exact .inl ⟨_, .incomplete read fault⟩
        · exact .inr ⟨_, .misshapen read fault (not_exists.1 missing)⟩

/-- What becomes of every source: it leads to rooms, or it makes loading fail. -/
theorem load_outcomes (source : Source) :
    (∀ rooms, load source = .ok rooms ↔ LeadsTo source rooms) ∧
      ∀ e, load source = .error e ↔ Defeats source e := by
  have outcome := leadsTo_or_defeats source
  refine ⟨fun rooms => ⟨fun h => ?_, LeadsTo.load_eq⟩, fun e => ⟨fun h => ?_, Defeats.load_eq⟩⟩
  · rcases outcome with ⟨rooms', leads⟩ | ⟨e, defeats⟩
    · obtain rfl : rooms' = rooms := Except.ok.inj (leads.load_eq.symm.trans h)
      exact leads
    · exact nomatch defeats.load_eq.symm.trans h
  · rcases outcome with ⟨rooms, leads⟩ | ⟨e', defeats⟩
    · exact nomatch leads.load_eq.symm.trans h
    · obtain rfl : e' = e := Except.error.inj (defeats.load_eq.symm.trans h)
      exact defeats

/-- A list in the place of a home configuration makes loading fail. -/
theorem load_fails_list : load (.content "[]") = .error .notAnObject := by
  rfl

end HomeConfig

end HomeAutomation
