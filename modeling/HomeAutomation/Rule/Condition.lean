/-
  HomeAutomation.Rule.Condition

  Conditions on sensor readings. A condition watches one metric at one location. For the metric
  `motion` it expects motion or none; for any other metric it compares the reading with
  a threshold. Conditions are values: two of them are the same when all their parts are, however the
  texts that gave them were written.
-/
import HomeAutomation.Number.Layout

namespace HomeAutomation

/-- The comparisons of a reading with a threshold. -/
inductive Comparison
  | greater
  | less
  | atLeast
  | atMost
  | equal
  deriving DecidableEq, Repr

namespace Comparison

/-- The sign of a comparison. -/
def symbol : Comparison → String
  | greater => ">"
  | less => "<"
  | atLeast => ">="
  | atMost => "<="
  | equal => "=="

/-- The comparison that a sign stands for. -/
def ofSymbol? : String → Option Comparison
  | ">" => some greater
  | "<" => some less
  | ">=" => some atLeast
  | "<=" => some atMost
  | "==" => some equal
  | _ => none

/-- Whether a comparison holds between two numbers. Equality is exact: a reading just beside
    the threshold does not meet it. -/
def holds : Comparison → Double → Double → Bool
  | greater, a, b => b.lt a
  | less, a, b => a.lt b
  | atLeast, a, b => b.le a
  | atMost, a, b => a.le b
  | equal, a, b => a.eq b

end Comparison

/-- The name of the metric whose readings are truth values. -/
def motionMetric : String := "motion"

/-- A condition on the readings of one metric at one location. -/
structure Condition where
  metric : String
  location : String
  /-- The sign of the comparison; none for motion. -/
  operator : Option String
  /-- What readings are compared with; none for motion. -/
  threshold : Option Double
  /-- For motion, whether it is expected. -/
  expected : Bool
  deriving DecidableEq, Repr

namespace Condition

/-- The condition that there is motion, or none, at a location. -/
def motion (location : String) (expected : Bool) : Condition :=
  ⟨motionMetric, location, none, none, expected⟩

/-- The condition that a metric stands in a comparison with a threshold. -/
def compare (metric : String) (comparison : Comparison) (threshold : Double) (location : String) :
    Condition :=
  ⟨metric, location, some comparison.symbol, some threshold, true⟩

/-- What readings the condition watches: its metric and its location. -/
def key (c : Condition) : String × String := (c.metric, c.location)

/-- Whether the condition is about motion. -/
def isMotion (c : Condition) : Bool := c.metric == motionMetric

/-- Equality of optional thresholds, by number. -/
def sameThreshold : Option Double → Option Double → Bool
  | none, none => true
  | some a, some b => a.eq b
  | _, _ => false

/-- Equality of conditions: part by part, thresholds by number. -/
def same (a b : Condition) : Bool :=
  a.metric == b.metric && a.location == b.location && a.operator == b.operator &&
    sameThreshold a.threshold b.threshold && a.expected == b.expected

/-- The condition in words. A comparison without threshold has none. -/
def describe? (c : Condition) : Option String :=
  if c.isMotion then
    some ((if c.expected then "motion" else "no motion") ++ " in " ++ c.location)
  else
    c.threshold.map fun threshold =>
      c.metric ++ " " ++ c.operator.getD "None" ++ " " ++ threshold.brief ++ " in " ++ c.location

/-- The condition in words, empty where it has none. -/
def describe (c : Condition) : String := c.describe?.getD ""

end Condition

end HomeAutomation
