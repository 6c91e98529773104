/-
  HomeAutomation.Proofs.Replay.Snapshots

  Snapshot files.  A file that has the text of an object on each line is read as
  these objects, in order, and blank lines make no difference.  The lines of a
  file end at more characters than a text of an object can do without, though:
  three of them may stand in it as they are, and a line that has one is cut in
  two.  The first part of it is then no text of anything, so that the file is
  not read at all.
-/

import HomeAutomation.Replay.Input
import HomeAutomation.Proofs.Json.Grammar
import HomeAutomation.Proofs.Text.Lines
import HomeAutomation.Proofs.Text.Normal

namespace HomeAutomation.Replay

open Json Text

-- ============================================================================
-- Lines of a file
-- ============================================================================

/-- The lines that are more than blanks are read one by one. -/
theorem snapshotsOfLines_eq_ok_iff {first : Nat} {lines : List String} {found : List Json} :
    snapshotsOfLines first lines = .ok found ↔
      ((lines.map trim).filter (· ≠ "")).map Json.read = found.map .ok := by
  induction lines generalizing first found with
  | nil =>
    cases found with
    | nil => exact iff_of_true rfl rfl
    | cons value found => exact iff_of_false nofun nofun
  | cons line lines ih =>
    unfold snapshotsOfLines
    by_cases empty : trim line = ""
    · simp [empty, ih]
    · have filled : (trim line).isEmpty = false := by simpa using empty
      cases read : Json.read (trim line) with
      | error fault => cases found <;> simp [filled, empty, read]
      | ok value =>
        cases found with
        | nil => simp [filled, empty, read, map_eq_ok_iff]
        | cons next found => simp [filled, empty, read, map_eq_ok_iff, ih, and_comm]

/-- A file is read as values if and only if its lines are. -/
theorem readSnapshots_eq_ok_iff {source : String} {found : List Json} :
    readSnapshots source = .ok found ↔
      (filledLines [] source.toList).map (fun line => Json.read (String.ofList line))
        = found.map .ok := by
  have texts : ((Text.lines source).map trim).filter (· ≠ "")
      = (filledLines [] source.toList).map String.ofList := by
    simp [Text.lines, filledLines, trim, List.filter_map, Function.comp_def]
  rw [readSnapshots, snapshotsOfLines_eq_ok_iff, texts, List.map_map]
  rfl

/-- The lines of a file that are written one by one are those of each. -/
theorem filledLines_intercalate (lines : List String) :
    filledLines [] ("\n".intercalate lines).toList
      = lines.flatMap fun line => filledLines [] line.toList := by
  induction lines with
  | nil => rfl
  | cons line lines ih =>
    cases lines with
    | nil => simp
    | cons next more =>
      have split : ("\n".intercalate (line :: next :: more)).toList
          = line.toList ++ '\n' :: ("\n".intercalate (next :: more)).toList := by
        simp
      rw [split, filledLines_append_lf, ih]
      rfl

-- ============================================================================
-- Lines with an object
-- ============================================================================

/-- The characters that end a line and may stand in a JSON text as they are. -/
def textEnds : List Char := ['\u0085', '\u2028', '\u2029']

/-- A line with no such character. -/
def Unbroken (line : String) : Prop := ∀ c ∈ line.toList, c ∉ textEnds

instance (line : String) : Decidable (Unbroken line) :=
  List.decidableBAll _ line.toList

/-- A line with the text of an object. -/
structure IsObjectLine (line : String) (fields : Table Json) : Prop where
  spelled : IsTextOf line (.object fields)
  noLineFeed : '\n' ∉ line.toList
  noReturn : '\r' ∉ line.toList

theorem isBlank_of_isSpace {c : Char} (space : isSpace c = true) : isBlank c = true := by
  simp only [isSpace, Bool.or_eq_true, decide_eq_true_eq] at space
  rcases space with ((rfl | rfl) | rfl) | rfl <;> rfl

/-- A character of a text that ends a line, other than by a line feed or a carriage return. -/
theorem mem_textEnds_of_isLineEnd {c : Char} (clean : isSpace c = true ∨ 0x20 ≤ c.toNat)
    (ends : isLineEnd c = true) (noLineFeed : c ≠ '\n') (noReturn : c ≠ '\r') :
    c ∈ textEnds := by
  rcases clean with space | printable
  · simp only [isSpace, Bool.or_eq_true, decide_eq_true_eq] at space
    rcases space with ((rfl | rfl) | rfl) | rfl
    · cases ends
    · cases ends
    · exact absurd rfl noLineFeed
    · exact absurd rfl noReturn
  · have code : c.toNat ∈ [0x85, 0x2028, 0x2029] := by
      simp only [isLineEnd, Bool.or_eq_true, Bool.and_eq_true, decide_eq_true_eq, beq_iff_eq]
        at ends
      simp only [List.mem_cons, List.not_mem_nil, or_false]
      omega
    have char := List.mem_map_of_mem (f := Char.ofNat) code
    rwa [Char.ofNat_toNat] at char

theorem of_mem_textEnds : ∀ c ∈ textEnds, isLineEnd c = true ∧ c ≠ '\r' ∧ c ≠ '\x7b' ∧
    isSpace c = false :=
  forall_mem_of_all (by decide)

/-- A character that the first part of a list does not have stands after it. -/
theorem exists_append_of_not_mem {start rest before others : List Char} {c : Char}
    (text : start ++ c :: rest = before ++ others) (outside : c ∉ before) :
    ∃ more, start = before ++ more ∧ others = more ++ c :: rest := by
  rcases List.append_eq_append_iff.1 text with ⟨more, rfl, same⟩ | ⟨more, rfl, same⟩
  · cases more with
    | nil => exact ⟨[], by simp, same.symm⟩
    | cons d more =>
      obtain ⟨rfl, -⟩ := List.cons.inj same
      exact absurd (List.mem_append_right _ List.mem_cons_self) outside
  · exact ⟨more, rfl, same⟩

/-- A character that the last part of a list does not have stands before it. -/
theorem exists_cons_of_not_mem {start rest used after : List Char} {c : Char}
    (text : start ++ c :: rest = used ++ after) (outside : c ∉ after) :
    ∃ tail, used = start ++ c :: tail := by
  rcases List.append_eq_append_iff.1 text with ⟨more, rfl, same⟩ | ⟨more, rfl, same⟩
  · cases more with
    | nil =>
      obtain rfl : c :: rest = after := same
      exact absurd List.mem_cons_self outside
    | cons d more =>
      obtain ⟨rfl, -⟩ := List.cons.inj same
      exact ⟨more, rfl⟩
  · exact absurd (same ▸ List.mem_append_right _ List.mem_cons_self) outside

/-- A list with a character that ends a line is cut at the first of them. -/
theorem exists_first_end {cs : List Char} {c : Char} (mem : c ∈ cs) (ends : isLineEnd c = true) :
    ∃ start d rest, cs = start ++ d :: rest ∧ (∀ x ∈ start, isLineEnd x = false) ∧
      isLineEnd d = true := by
  induction cs with
  | nil => exact absurd mem List.not_mem_nil
  | cons x cs ih =>
    cases first : isLineEnd x with
    | true => exact ⟨[], x, cs, rfl, List.forall_mem_nil _, first⟩
    | false =>
      have later : c ∈ cs := by
        rcases List.mem_cons.1 mem with rfl | later
        · rw [ends] at first
          cases first
        · exact later
      obtain ⟨start, d, rest, rfl, unbroken, ends⟩ := ih later
      exact ⟨x :: start, d, rest, rfl, List.forall_mem_cons.2 ⟨first, unbroken⟩, ends⟩

namespace IsObjectLine

variable {line : String} {fields : Table Json} (h : IsObjectLine line fields)
include h

/-- Whatever ends a line with an object before its end is one of three characters. -/
theorem mem_textEnds {c : Char} (mem : c ∈ line.toList) (ends : isLineEnd c = true) :
    c ∈ textEnds := by
  obtain ⟨before, used, after, spacing, spelled, spacing', text⟩ := h.spelled
  have clean : IsClean line.toList :=
    text ▸ spacing.isClean.append (spelled.isClean.append spacing'.isClean)
  exact mem_textEnds_of_isLineEnd (clean c mem) ends (fun same => h.noLineFeed (same ▸ mem))
    fun same => h.noReturn (same ▸ mem)

theorem not_isGap : ¬IsGap line := by
  obtain ⟨before, used, after, -, spelled, -, text⟩ := h.spelled
  obtain ⟨-, body, rfl⟩ := spelled.braces
  intro gap
  exact absurd (gap '\x7b' (text ▸ by simp)) (by decide)

/-- A line with an object that nothing breaks is one line, and is read as the object. -/
theorem read_of_unbroken (unbroken : Unbroken line) :
    ∃ used, filledLines [] line.toList = [used] ∧
      Json.read (String.ofList used) = .ok (.object fields) := by
  obtain ⟨before, used, after, spacing, spelled, spacing', text⟩ := h.spelled
  obtain ⟨-, body, braces⟩ := spelled.braces
  have one : filledLines [] line.toList = filledLine line.toList :=
    filledLines_of_unbroken fun c mem => by
      rw [Bool.eq_false_iff]
      exact fun ends => unbroken c mem (h.mem_textEnds mem ends)
  have trimmed : trimBy isBlank line.toList = used := by
    have whole : used ++ after = '\x7b' :: (body ++ '\x7d' :: after) := by simp [braces]
    rw [text, trimBy_append fun c hc => isBlank_of_isSpace (spacing c hc), whole, braces]
    exact trimBy_of_kept rfl rfl fun c hc => isBlank_of_isSpace (spacing' c hc)
  have filled : trimBy isBlank line.toList ≠ [] := by
    rw [trimmed, braces]
    exact List.cons_ne_nil _ _
  refine ⟨used, by rw [one, filledLine_of_filled filled, trimmed], ?_⟩
  exact read_eq_ok_iff.2 ⟨[], used, [], isSpacing_nil, spelled, isSpacing_nil, by simp⟩

/-- A line with an object that is broken is cut in the object, after the brace that opens it. -/
theorem exists_cut_of_broken (broken : ¬Unbroken line) :
    ∃ before inner c tail rest, line.toList = before ++ '\x7b' :: inner ++ c :: rest ∧
      IsSpacing before ∧ (∀ d ∈ before ++ '\x7b' :: inner, isLineEnd d = false) ∧
      isLineEnd c = true ∧ c ≠ '\r' ∧
      Spells nestingLimit (.object fields) ('\x7b' :: inner ++ c :: tail) := by
  obtain ⟨before, used, after, spacing, spelled, spacing', text⟩ := h.spelled
  obtain ⟨-, body, braces⟩ := spelled.braces
  obtain ⟨start, c, rest, cut, unbroken, ends⟩ : ∃ start c rest, line.toList = start ++ c :: rest ∧
      (∀ d ∈ start, isLineEnd d = false) ∧ isLineEnd c = true := by
    obtain ⟨c, mem, isEnd⟩ : ∃ c ∈ line.toList, c ∈ textEnds := by
      simpa [Unbroken] using broken
    exact exists_first_end mem (of_mem_textEnds c isEnd).1
  obtain ⟨-, noReturn, noBrace, unspaced⟩ :=
    of_mem_textEnds c (h.mem_textEnds (cut ▸ by simp) ends)
  have outside {gap : List Char} (spacing : IsSpacing gap) : c ∉ gap := by
    intro mem
    rw [spacing c mem] at unspaced
    cases unspaced
  obtain ⟨inner, rfl, parts⟩ := exists_append_of_not_mem (cut.symm.trans text) (outside spacing)
  obtain ⟨tail, rfl⟩ := exists_cons_of_not_mem parts.symm (outside spacing')
  cases inner with
  | nil => exact absurd (List.cons.inj braces).1 noBrace
  | cons d inner =>
    obtain ⟨rfl, -⟩ := List.cons.inj braces
    exact ⟨before, inner, c, tail, rest, cut, spacing, unbroken, ends, noReturn, spelled⟩

/-- What comes first of a line with an object that is broken is no text of anything. -/
theorem not_read_of_broken (broken : ¬Unbroken line) :
    ∃ start more, filledLines [] line.toList = start :: more ∧
      ∀ value, Json.read (String.ofList start) ≠ .ok value := by
  obtain ⟨before, inner, c, tail, rest, cut, spacing, unbroken, ends, noReturn, spelled⟩ :=
    h.exists_cut_of_broken broken
  obtain ⟨more, blank, trimmed, rfl⟩ :=
    exists_trimBy_cons (show isBlank '\x7b' = false from rfl) inner
  have left : trimBy isBlank (before ++ '\x7b' :: (more ++ blank)) = '\x7b' :: more := by
    rw [trimBy_append fun c hc => isBlank_of_isSpace (spacing c hc), trimmed]
  have filled : trimBy isBlank (before ++ '\x7b' :: (more ++ blank)) ≠ [] := by
    rw [left]
    exact List.cons_ne_nil _ _
  refine ⟨'\x7b' :: more, filledLines [] rest, ?_, ?_⟩
  · rw [cut, filledLines_of_broken unbroken ends noReturn, filledLine_of_filled filled, left]
    rfl
  · intro value read
    have whole : '\x7b' :: (more ++ blank) ++ c :: tail
        = ('\x7b' :: more) ++ (blank ++ c :: tail) := by
      simp
    rw [whole] at spelled
    exact spelled.not_isTextOf_of_cut (by simp) value (read_eq_ok_iff.1 read)

end IsObjectLine

-- ============================================================================
-- Files of objects
-- ============================================================================

/-- The lines of a file with objects, blank lines among them, and the objects. -/
inductive SnapshotLines : List String → List Json → Prop
  | nil : SnapshotLines [] []
  | gap {gap : String} {lines : List String} {values : List Json} (blank : IsGap gap)
      (later : SnapshotLines lines values) : SnapshotLines (gap :: lines) values
  | object {line : String} {lines : List String} {fields : Table Json} {values : List Json}
      (h : IsObjectLine line fields) (later : SnapshotLines lines values) :
      SnapshotLines (line :: lines) (.object fields :: values)

/-- A file of objects is read if no line with an object is broken, and then as these objects. -/
theorem readSnapshots_lines {lines : List String} {values : List Json}
    (h : SnapshotLines lines values) (found : List Json) :
    readSnapshots ("\n".intercalate lines) = .ok found ↔
      found = values ∧ ∀ line ∈ lines, IsGap line ∨ Unbroken line := by
  rw [readSnapshots_eq_ok_iff, filledLines_intercalate]
  induction h generalizing found with
  | nil =>
    cases found <;> simp
  | @gap gap lines values blank later ih =>
    have none : filledLines [] gap.toList = [] := filledLines_of_blank (List.forall_mem_nil _) blank
    rw [List.flatMap_cons, none, List.nil_append, ih, List.forall_mem_cons]
    simp [blank]
  | @object line lines fields values h later ih =>
    have filled : ¬IsGap line := h.not_isGap
    rw [List.flatMap_cons, List.forall_mem_cons]
    by_cases unbroken : Unbroken line
    · obtain ⟨used, texts, read⟩ := h.read_of_unbroken unbroken
      rw [texts]
      cases found with
      | nil => simp
      | cons value found =>
        simp only [List.singleton_append, List.map_cons, read, List.cons.injEq, Except.ok.injEq,
          ih found, unbroken, or_true, true_and, and_assoc]
        rw [eq_comm]
    · obtain ⟨start, more, texts, unread⟩ := h.not_read_of_broken unbroken
      refine iff_of_false ?_ fun read => read.2.1.elim filled unbroken
      rw [texts]
      cases found with
      | nil => simp
      | cons value found => simp [unread value]

/-- The line of a snapshot that tells of motion in a room. -/
def motionIn (room : String) : String :=
  "\x7b\"motion\": \x7b\"" ++ room ++ "\": true\x7d\x7d"

theorem isTextOf_motionIn {room : String}
    (plain : ∀ c ∈ room.toList, c ≠ '"' ∧ c ≠ '\\' ∧ 0x20 ≤ c.toNat) :
    IsTextOf (motionIn room) (.object [("motion", .object [(room, .bool true)])]) := by
  have space : IsSpacing [' '] := List.forall_mem_singleton.2 rfl
  have name : SpellsText "motion".toList ("motion".toList ++ ['"']) :=
    .of_plain (forall_mem_of_all (by decide))
  have flag : SpellsField (nestingLimit - 2) (String.ofList room.toList, .bool true) _ :=
    .mk (.of_plain plain) isSpacing_nil space (.word .true)
  have inner := Spells.object isSpacing_nil (.last flag isSpacing_nil)
  have outer := Spells.object isSpacing_nil (.last (.mk name isSpacing_nil space inner)
    isSpacing_nil)
  simp only [String.ofList_toList] at outer
  refine ⟨[], _, [], isSpacing_nil, outer, isSpacing_nil, ?_⟩
  simp [motionIn]

theorem isObjectLine_motionIn {room : String}
    (plain : ∀ c ∈ room.toList, c ≠ '"' ∧ c ≠ '\\' ∧ 0x20 ≤ c.toNat) :
    IsObjectLine (motionIn room) [("motion", .object [(room, .bool true)])] := by
  have control {c : Char} (below : c.toNat < 0x20) : c ∉ room.toList := fun mem =>
    Nat.not_le.2 below (plain c mem).2.2
  refine ⟨isTextOf_motionIn plain, ?_, ?_⟩
  · simp [motionIn, control (c := '\n') (by decide)]
  · simp [motionIn, control (c := '\r') (by decide)]

/-- Two objects, a blank line between them. -/
theorem readSnapshots_lines_twoRooms :
    SnapshotLines [motionIn "hall", " ", motionIn "kitchen"]
        [.object [("motion", .object [("hall", .bool true)])],
          .object [("motion", .object [("kitchen", .bool true)])]] ∧
      readSnapshots ("\n".intercalate [motionIn "hall", " ", motionIn "kitchen"])
        = .ok [.object [("motion", .object [("hall", .bool true)])],
          .object [("motion", .object [("kitchen", .bool true)])]] := by
  have hall : IsObjectLine (motionIn "hall") [("motion", .object [("hall", .bool true)])] :=
    isObjectLine_motionIn (forall_mem_of_all (by decide))
  have kitchen : IsObjectLine (motionIn "kitchen")
      [("motion", .object [("kitchen", .bool true)])] :=
    isObjectLine_motionIn (forall_mem_of_all (by decide))
  have blank : IsGap " " := by decide
  have lines := SnapshotLines.object hall (.gap blank (.object kitchen .nil))
  exact ⟨lines, (readSnapshots_lines lines _).2 ⟨rfl, by decide⟩⟩

/-- A line separator in the name of a room breaks the line. -/
theorem readSnapshots_broken :
    IsObjectLine (motionIn "hall\u2028door")
        [("motion", .object [("hall\u2028door", .bool true)])] ∧
      ∀ found, readSnapshots (motionIn "hall\u2028door") ≠ .ok found := by
  have line : IsObjectLine (motionIn "hall\u2028door")
      [("motion", .object [("hall\u2028door", .bool true)])] :=
    isObjectLine_motionIn (forall_mem_of_all (by decide))
  refine ⟨line, fun found read => ?_⟩
  obtain ⟨start, more, texts, unread⟩ := line.not_read_of_broken (by decide)
  have reads := readSnapshots_eq_ok_iff.1 read
  rw [texts] at reads
  cases found with
  | nil => cases reads
  | cons value found => exact unread value (List.cons.inj reads).1

end HomeAutomation.Replay
