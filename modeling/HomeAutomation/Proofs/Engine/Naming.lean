/-
  HomeAutomation.Proofs.Engine.Naming

  One name in three places: in a rule text, as a key of a snapshot and as a room
  of the home.  Snapshots and the home go by the normal form of the name.  A rule
  text spaces comparison signs as well, also within the name, so that the three
  mean the same place if and only if the words of the name are whole.
-/

import HomeAutomation.Proofs.Engine.Registration
import HomeAutomation.Proofs.Rule.Location

namespace HomeAutomation

-- ============================================================================
-- Rooms
-- ============================================================================

namespace Directory

/-- Rooms are entered under the normal forms of their names. -/
theorem normalize_name_of_mem {rooms : List Room} {entry : String × Room}
    (h : entry ∈ (ofRooms rooms).entries) : Text.normalize entry.2.name = entry.1 := by
  have kept : ∀ entry ∈ (ofRooms rooms).entries, Text.normalize entry.2.name = entry.1 := by
    refine List.foldlRecOn (motive := fun directory : Directory =>
      ∀ entry ∈ directory.entries, Text.normalize entry.2.name = entry.1) rooms insert
      (by simp [empty]) ?_
    intro directory named room _ entry h
    rcases Table.mem_of_mem_set h with rfl | h
    · rfl
    · exact named entry h
  exact kept entry h

/-- The room that is found for a name has the name, but for its normal form. -/
theorem normalize_name_of_room? {rooms : List Room} {name : String} {room : Room}
    (h : (ofRooms rooms).room? name = some room) :
    Text.normalize room.name = Text.normalize name := by
  have named := normalize_name_of_mem (Table.mem_of_get? h)
  exact named

/-- A room is found by the normal form of its name, too. -/
theorem room?_normalize (directory : Directory) (name : String) :
    directory.room? (Text.normalize name) = directory.room? name := by
  rw [room?, Text.normalize_normalize]
  rfl

end Directory

-- ============================================================================
-- Readings
-- ============================================================================

/-- A snapshot of one value is one reading, at the normal form of the name. -/
theorem Snapshot.readings_single {key metric : String} {rank : Nat}
    (known : metricOfKey? key = some (metric, rank)) (name : String) (value : Json) :
    readings (.object [(key, .object [(name, value)])])
      = .ok [⟨metric, Text.normalize name, value⟩] := by
  simp [readings, occurrences, known, enter]

/-- The event of a rule is told the readings that its condition watches, and no others. -/
theorem RuleBook.Linked.mem_matching_iff {range : SetPointRange} {book : RuleBook}
    (linked : Linked range book) (indexed : book.events.Indexed) {entry : String × Handle}
    (h : entry ∈ book.rules) {rule : Rule} (parsed : Rule.parse range entry.2.text = .ok rule)
    (metric location : String) :
    entry.2.event ∈ book.events.matching metric location
      ↔ (metric, location) = rule.condition.key := by
  obtain ⟨rule', backed⟩ := linked.backed entry h
  obtain rfl : rule' = rule := Except.ok.inj (backed.parsed.symm.trans parsed)
  obtain ⟨e, he, same⟩ := backed.watches
  obtain ⟨same_metric, same_location, -⟩ := Condition.same_iff.1 same
  have key : e.condition.key = rule'.condition.key := Prod.ext same_metric same_location
  rw [indexed.matching_eq, List.mem_filter, and_iff_right backed.registered,
    EventRegistry.watches, he]
  simp [key, eq_comm]

-- ============================================================================
-- Agreement
-- ============================================================================

namespace Activity

variable {σ : Type} {backend : Backend σ} {activity : Activity σ} {initial : Engine σ}
  {log : List Contact}

/-- A rule that switches the light on at a location can be read, by motion there or by heat, and
    its action is for the location of its condition.  That is the normal form of the name if and
    only if the words of the name are whole; then, and only then, its event is told what snapshots
    say under the name, and its action finds the room of that name. -/
theorem Reached.naming_agrees_iff (reached : Reached backend initial log activity) {name : String}
    (filled : Text.normalize name ≠ "") (unsplit : "then" ∉ Text.words (Text.normalize name)) :
    ∃ location,
      Rule.parse initial.range ("if motion in " ++ name ++ " then light on")
        = .ok ⟨.motion location true, lightOn location⟩ ∧
      Rule.parse initial.range ("if temp > 25 in " ++ name ++ " then light on")
        = .ok ⟨.compare "temperature" .greater 25 location, lightOn location⟩ ∧
      (location = Text.normalize name
        ↔ ∀ w ∈ Text.words (Text.normalize name), Condition.IsWhole w) ∧
      (∀ entry ∈ activity.engine.book.rules, ∀ key metric rank value,
        entry.2.text = "if motion in " ++ name ++ " then light on" ∧ metric = "motion" ∨
          entry.2.text = "if temp > 25 in " ++ name ++ " then light on" ∧
            metric = "temperature" →
        Snapshot.metricOfKey? key = some (metric, rank) →
        ∃ reading, Snapshot.readings (.object [(key, .object [(name, value)])]) = .ok [reading] ∧
          reading.value = value ∧
          (entry.2.event ∈ activity.engine.book.events.matching reading.metric reading.location
            ↔ location = Text.normalize name)) ∧
      ∀ rooms room, (Directory.ofRooms rooms).room? name = some room →
        ((Directory.ofRooms rooms).room? location = some room ↔ location = Text.normalize name) ∧
        ∀ device, room.devices.find? (·.deviceType == "light") = some device →
          location = Text.normalize name →
          (Directory.ofRooms rooms).resolve (lightOn location).location
            (lightOn location).device.name = .ok device := by
  rw [Text.words_normalize] at unsplit ⊢
  have worded : Text.normalWords name ≠ [] := by
    intro none
    exact filled (by rw [Text.normalize, none]; rfl)
  have motion := Rule.parse_motion initial.range worded unsplit
  have heat := Rule.parse_heat initial.range worded unsplit
  refine ⟨ruleLocation name, motion, heat, ruleLocation_eq_iff, ?told, ?found⟩
  case told =>
    intro entry h key metric rank value rule known
    have condition : ∃ rule, Rule.parse initial.range entry.2.text = .ok rule ∧
        rule.condition.key = (metric, ruleLocation name) := by
      rcases rule with ⟨text, rfl⟩ | ⟨text, rfl⟩
      · exact ⟨_, text ▸ motion, rfl⟩
      · exact ⟨_, text ▸ heat, rfl⟩
    obtain ⟨rule, parsed, watches⟩ := condition
    refine ⟨_, Snapshot.readings_single known name value, rfl, ?_⟩
    rw [reached.linked.mem_matching_iff reached.sound.indexed h parsed, watches]
    exact ⟨fun same => (congrArg Prod.snd same).symm, fun same => by rw [same]⟩
  case found =>
    intro rooms room here
    have same_room (agrees : ruleLocation name = Text.normalize name) :
        (Directory.ofRooms rooms).room? (ruleLocation name) = some room := by
      rw [agrees, Directory.room?_normalize]
      exact here
    refine ⟨⟨fun found => ?_, same_room⟩, fun device light agrees => ?_⟩
    · have there := Directory.normalize_name_of_room? found
      rw [normalize_ruleLocation] at there
      exact there.symm.trans (Directory.normalize_name_of_room? here)
    · rw [lightOn, DeviceKind.name, Directory.resolve, same_room agrees]
      simp only [Option.bind_some, light]

/-- A home of one room with a lamp that goes on by motion in the room. -/
def oneRoom (name : String) : Activity Unit :=
  let engine : Engine Unit :=
    { directory := .ofRooms [⟨name, .null, [⟨"lamp", .null, "light", name⟩]⟩]
      range := ⟨16, 30⟩
      outside := () }
  ({ engine } : Activity _).submit (.register ("if motion in " ++ name ++ " then light on") none)

/-- A room whose name has an arrow in it: the rule can be read, but its event is told nothing about
    the room, and its action does not find the lamp. -/
theorem naming_apart_arrow :
    Text.normalize "hall->attic" = "hall->attic" ∧
      Text.words (Text.normalize "hall->attic") = ["hall->attic"] ∧
      (Rule.parse ⟨16, 30⟩ ("if motion in " ++ "hall->attic" ++ " then light on")).toOption.map
          (fun rule => (rule.condition.location, rule.action.location))
        = some ("hall- > attic", "hall- > attic") ∧
      (oneRoom "hall->attic").engine.book.rules.map (·.2.event) = [0] ∧
      (oneRoom "hall->attic").engine.book.events.matching "motion" (Text.normalize "hall->attic")
        = [] ∧
      ((oneRoom "hall->attic").engine.directory.resolve "hall->attic" "light").toOption.map
        (·.deviceId) = some "lamp" ∧
      ((oneRoom "hall->attic").engine.directory.resolve "hall- > attic" "light").toOption.map
        (·.deviceId) = none := by
  decide +kernel

/-- A sign that stands alone, and letters with more than one lower-case form, do no harm. -/
theorem naming_agrees_odos : ∃ (initial : Engine Unit) (activity : Activity Unit)
      (entry : String × Handle) (reading : SensorReading),
    Reached Backend.obliging initial [] activity ∧ entry ∈ activity.engine.book.rules ∧
      Snapshot.readings (.object [("motion", .object [("ΟΔΟΣ > 2", .bool true)])])
        = .ok [reading] ∧
      entry.2.event ∈ activity.engine.book.events.matching reading.metric reading.location := by
  have view : (oneRoom "ΟΔΟΣ > 2").engine.book.rules.map (·.2.text)
      = ["if motion in " ++ "ΟΔΟΣ > 2" ++ " then light on"] := by decide +kernel
  have reached : Reached Backend.obliging _ [] (oneRoom "ΟΔΟΣ > 2") := (Reached.start rfl).submit _
  obtain ⟨entry, h, text⟩ : ∃ entry ∈ (oneRoom "ΟΔΟΣ > 2").engine.book.rules,
      entry.2.text = "if motion in " ++ "ΟΔΟΣ > 2" ++ " then light on" :=
    List.mem_map.1 (view ▸ List.mem_singleton_self _)
  have filled : Text.normalize "ΟΔΟΣ > 2" ≠ "" := by decide +kernel
  have unsplit : "then" ∉ Text.words (Text.normalize "ΟΔΟΣ > 2") := by decide +kernel
  obtain ⟨location, -, -, agrees, told, -⟩ :=
    reached.naming_agrees_iff filled unsplit
  obtain ⟨reading, read, -, matching⟩ :=
    told entry h "motion" "motion" 0 (.bool true) (.inl ⟨text, rfl⟩) rfl
  exact ⟨_, _, entry, reading, reached, h, read, matching.2 (agrees.2 (by decide +kernel))⟩

end Activity

end HomeAutomation
