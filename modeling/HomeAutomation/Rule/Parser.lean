/-
  HomeAutomation.Rule.Parser

  Reading of rule texts. A rule is read from the words of its normal form:

    rule      := "if" condition "then" action
    condition := ["no"] "motion" "in" location
               | ("temp" | "temperature" | "humidity") comparison number "in" location
    action    := [location] ("ac" | "light" | "lights" | "fan") ("on" | "off") parameter*

  The condition ends at the first "then" that leaves it a word and is followed by one. Of the
  parameters the first number is the temperature, the first other word the mode, and what is left
  over is kept as it is; for a light the first word that ends in "%" is the brightness.
-/
import HomeAutomation.Number.Numeral
import HomeAutomation.Rule.Action
import HomeAutomation.Rule.Condition
import HomeAutomation.Rule.ParseError
import HomeAutomation.Text.Normal

namespace HomeAutomation

/-! ## Words -/

/-- The metric that a word of a rule names. -/
def metricOfWord? : String → Option String
  | "temp" => some "temperature"
  | "temperature" => some "temperature"
  | "humidity" => some "humidity"
  | _ => none

/-- The device type that a word of a rule names. -/
def deviceOfWord? : String → Option DeviceKind
  | "ac" => some .ac
  | "light" => some .light
  | "lights" => some .light
  | "fan" => some .fan
  | _ => none

/-- Whether a word switches on or off. -/
def powerOfWord? : String → Option Bool
  | "on" => some true
  | "off" => some false
  | _ => none

/-- The finite number that a word denotes. -/
def finiteNumber? (word : String) : Option Double :=
  (Number.readDouble? word).filter (·.isFinite)

/-- The temperatures to which an air conditioner may be set. -/
structure SetPointRange where
  low : Double
  high : Double
  deriving DecidableEq, Repr

/-- Whether a temperature lies in the range. -/
def SetPointRange.contains (range : SetPointRange) (t : Double) : Bool :=
  range.low.le t && t.le range.high

/-! ## Conditions -/

namespace Condition

/-- Puts a space on both sides of every comparison sign, the longer sign first. -/
def spaceSigns : List Char → List Char
  | '>' :: '=' :: rest => ' ' :: '>' :: '=' :: ' ' :: spaceSigns rest
  | '<' :: '=' :: rest => ' ' :: '<' :: '=' :: ' ' :: spaceSigns rest
  | '=' :: '=' :: rest => ' ' :: '=' :: '=' :: ' ' :: spaceSigns rest
  | '>' :: rest => ' ' :: '>' :: ' ' :: spaceSigns rest
  | '<' :: rest => ' ' :: '<' :: ' ' :: spaceSigns rest
  | c :: rest => c :: spaceSigns rest
  | [] => []

/-- The words of a condition text, comparison signs standing alone. -/
def sourceWords (text : String) : List String :=
  Text.normalWords (String.ofList (spaceSigns text.toList))

/-- The fault of words that have no form of a condition: a first word that no condition starts
    with is taken for the name of a metric. -/
def faultOfWords : List String → RuleFault
  | [] => .notACondition
  | first :: _ =>
    if (metricOfWord? first).isNone && first ≠ "motion" && first ≠ "no" then .unknownMetric first
    else .notACondition

/-- Reads a comparison from its parts. -/
def ofParts (metricWord : String) (comparison : Comparison) (numeral location : String) :
    Except RuleFault Condition :=
  match metricOfWord? metricWord with
  | none => .error (.unknownMetric metricWord)
  | some metric =>
    match finiteNumber? numeral with
    | none => .error (.badThreshold numeral)
    | some threshold => .ok (compare metric comparison threshold location)

/-- Reads the words of a condition. -/
def ofWords (ws : List String) : Except RuleFault Condition :=
  match ws with
  | "motion" :: "in" :: first :: rest => .ok (motion (Text.unwords (first :: rest)) true)
  | "no" :: "motion" :: "in" :: first :: rest => .ok (motion (Text.unwords (first :: rest)) false)
  | metric :: sign :: numeral :: "in" :: first :: rest =>
    match Comparison.ofSymbol? sign with
    | some comparison => ofParts metric comparison numeral (Text.unwords (first :: rest))
    | none => .error (faultOfWords ws)
  | _ => .error (faultOfWords ws)

/-- Reads a condition text. -/
def parse (text : String) : Except ParseError Condition :=
  let ws := sourceWords text
  (ofWords ws).mapError fun fault => ⟨fault, Text.unwords ws⟩

end Condition

/-! ## Actions -/

namespace ActionSpec

/-- Splits words at the first that switches on or off: those before it, the power, those after. -/
def splitPower? : List String → Option (List String × Bool × List String)
  | [] => none
  | word :: rest =>
    match powerOfWord? word with
    | some power => some ([], power, rest)
    | none => (splitPower? rest).map fun (before, power, after) => (word :: before, power, after)

/-- Whether a word ends in a percent sign. -/
def isPercentage (word : String) : Bool := word.toList.getLast? == some '%'

/-- The whole percentage that a word ending in a percent sign denotes, from 0 to 100. -/
def percentage? (word : String) : Option Int := do
  let value ← finiteNumber? (String.ofList word.toList.dropLast)
  if Double.le 0 value && value.le 100 then value.truncate? else none

/-- Adds a parameter to an action. -/
def addParameter (a : ActionSpec) (word : String) : Except RuleFault ActionSpec :=
  if a.device = .light && a.brightness.isNone && isPercentage word then
    match percentage? word with
    | some level => .ok { a with brightness := some level }
    | none => .error (.badBrightness word)
  else
    match finiteNumber? word with
    | some value =>
      if a.temperature.isNone then .ok { a with temperature := some value }
      else .ok { a with extras := a.extras ++ [word] }
    | none =>
      if a.mode.isNone then .ok { a with mode := some word }
      else .ok { a with extras := a.extras ++ [word] }

/-- Checks that the temperature of an air conditioner lies in the range. -/
def checkRange (range : SetPointRange) (a : ActionSpec) : Except RuleFault ActionSpec :=
  match a.temperature with
  | some t =>
    if a.device = .ac && !range.contains t then
      .error (.temperatureOutside t range.low range.high)
    else .ok a
  | none => .ok a

/-- Reads the words of an action; `defaultLocation` is the location of an action that names
    none. -/
def ofWords (range : SetPointRange) (defaultLocation : String) (ws : List String) :
    Except RuleFault ActionSpec :=
  match splitPower? ws with
  | none => .error .noPower
  | some (before, power, parameters) =>
    match before.getLast? with
    | none => .error .noDevice
    | some word =>
      match deviceOfWord? word with
      | none => .error (.unknownDevice word)
      | some device =>
        let named := Text.unwords before.dropLast
        let location := if named.isEmpty then defaultLocation else named
        if location.isEmpty then .error .noLocation
        else do
          let a ← parameters.foldlM addParameter
            ({ device, location, power } : ActionSpec)
          checkRange range a

/-- Reads an action text. -/
def parse (range : SetPointRange) (text defaultLocation : String) :
    Except ParseError ActionSpec :=
  (ofWords range defaultLocation (Text.normalWords text)).mapError fun fault => ⟨fault, text⟩

end ActionSpec

/-! ## Rules -/

/-- A rule: when its condition is met, its action is carried out. -/
structure Rule where
  condition : Condition
  action : ActionSpec
  deriving DecidableEq, Repr

namespace Rule

/-- Splits the words after "if" at the first "then" that has a word on both sides. -/
def splitThen? : List String → Option (List String × List String)
  | [] => none
  | word :: rest =>
    match rest with
    | "then" :: first :: others => some ([word], first :: others)
    | _ => (splitThen? rest).map fun (before, after) => (word :: before, after)

/-- Reads a rule text. An action that names no location has that of the condition. -/
def parse (range : SetPointRange) (text : String) : Except ParseError Rule :=
  match Text.normalWords text with
  | "if" :: rest =>
    match splitThen? rest with
    | some (conditionWords, actionWords) => do
      let condition ← Condition.parse (Text.unwords conditionWords)
      let action ← ActionSpec.parse range (Text.unwords actionWords) condition.location
      return ⟨condition, action⟩
    | none => .error ⟨.notARule, text⟩
  | _ => .error ⟨.notARule, text⟩

end Rule

end HomeAutomation
