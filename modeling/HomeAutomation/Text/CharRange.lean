/-
  HomeAutomation.Text.CharRange

  Sets of characters given by ranges of code points, the form in which character properties
  are listed.
-/
namespace HomeAutomation.Text

/-- All code points from `first` to `last`, both included. -/
structure CharRange where
  first : Nat
  last : Nat
  deriving Repr, DecidableEq

/-- Whether the range holds the character. -/
def CharRange.contains (range : CharRange) (c : Char) : Bool :=
  range.first ≤ c.toNat && c.toNat ≤ range.last

/-- Whether one of the ranges holds the character. -/
def inRanges (ranges : List CharRange) (c : Char) : Bool :=
  ranges.any (·.contains c)

end HomeAutomation.Text
