/-
  HomeAutomation.Rule.ParseError

  Why a text is not a rule. Each cause carries what its message names, and the text in which it
  was found.
-/
import HomeAutomation.Number.Layout

namespace HomeAutomation

/-- What is wrong with a rule text. -/
inductive RuleFault
  /-- What was given as a rule is no text. -/
  | notText
  /-- The text does not read "if ... then ...". -/
  | notARule
  | unknownMetric (word : String)
  | badThreshold (numeral : String)
  | notACondition
  /-- No word of the action switches on or off. -/
  | noPower
  /-- Nothing stands before the word that switches. -/
  | noDevice
  | unknownDevice (word : String)
  | noLocation
  | badBrightness (word : String)
  | temperatureOutside (temperature low high : Double)
  deriving DecidableEq, Repr

/-- A rule text that cannot be read: the fault and the text it was found in. -/
structure ParseError where
  fault : RuleFault
  text : String
  deriving DecidableEq, Repr

namespace ParseError

/-- The message of an error. -/
def message (e : ParseError) : String :=
  match e.fault with
  | .notText => "Rule text must be a string"
  | .notARule => "Invalid rule format. Expected \"if <condition> then <action>\""
  | .unknownMetric word => "Unknown metric '" ++ word ++ "'"
  | .badThreshold numeral => "Invalid threshold '" ++ numeral ++ "'"
  | .notACondition => "Invalid condition: '" ++ e.text ++ "'"
  | .noPower => "Action has no on/off: '" ++ e.text ++ "'"
  | .noDevice => "Action has no device: '" ++ e.text ++ "'"
  | .unknownDevice word => "Unknown device type '" ++ word ++ "'"
  | .noLocation => "Action has no location: '" ++ e.text ++ "'"
  | .badBrightness word => "Invalid brightness '" ++ word ++ "'"
  | .temperatureOutside temperature low high =>
    "AC temperature " ++ temperature.brief ++ " outside valid range (" ++ low.brief ++ "-"
      ++ high.brief ++ ")"

/-- The kinds of errors that reports tell apart. -/
inductive Kind
  | unknownMetric
  | unknownDeviceType
  | other
  deriving DecidableEq, Repr

/-- The kind of an error. -/
def kind (e : ParseError) : Kind :=
  match e.fault with
  | .unknownMetric _ => .unknownMetric
  | .unknownDevice _ => .unknownDeviceType
  | _ => .other

/-- The name of a kind in reports. -/
def Kind.name : Kind → String
  | unknownMetric => "UnknownMetric"
  | unknownDeviceType => "UnknownDeviceType"
  | other => "ParseError"

end ParseError

end HomeAutomation
