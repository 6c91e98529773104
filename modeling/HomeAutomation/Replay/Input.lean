/-
  HomeAutomation.Replay.Input

  The files of a replay. A rule file has one rule a line; blank lines and lines that start with `#`
  are passed over. A snapshot file has one JSON value a line; blank lines are passed over.
-/
import HomeAutomation.Json.Reader
import HomeAutomation.Text.Lines

namespace HomeAutomation.Replay

/-- Whether a trimmed line of a rule file holds a rule. -/
def isRuleLine (line : String) : Bool := !line.isEmpty && !line.startsWith "#"

/-- The rules of a rule file. -/
def ruleLines (source : String) : List String :=
  ((Text.lines source).map Text.trim).filter isRuleLine

/-- A line of a snapshot file that is no JSON value; lines are counted from one. -/
structure SnapshotFault where
  line : Nat
  error : Json.ReadError
  deriving DecidableEq, Repr

/-- Reads the snapshots of lines, the first of which has the number `first`. -/
def snapshotsOfLines (first : Nat) : List String → Except SnapshotFault (List Json)
  | [] => .ok []
  | line :: rest =>
    let line := Text.trim line
    if line.isEmpty then snapshotsOfLines (first + 1) rest
    else
      match Json.read line with
      | .error error => .error ⟨first, error⟩
      | .ok value => (snapshotsOfLines (first + 1) rest).map (value :: ·)

/-- The snapshots of a snapshot file. -/
def readSnapshots (source : String) : Except SnapshotFault (List Json) :=
  snapshotsOfLines 1 (Text.lines source)

end HomeAutomation.Replay
