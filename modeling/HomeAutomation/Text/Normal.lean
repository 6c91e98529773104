/-
  HomeAutomation.Text.Normal

  The normal form in which rule texts, room names and snapshot locations are compared: lower case,
  with one space between two words and none at the ends.
-/
import HomeAutomation.Text.Blank
import HomeAutomation.Text.LowerCase

namespace HomeAutomation.Text

/-- The words of the lower-case form of a text. -/
def normalWords (text : String) : List String := words (lower text)

/-- The normal form of a text. -/
def normalize (text : String) : String := unwords (normalWords text)

end HomeAutomation.Text
