/-
  HomeAutomation.Text.LowerCase

  Full Unicode lower-casing. Every character is mapped on its own, with two exceptions: the capital
  dotted I becomes two characters, and the capital sigma becomes a final sigma at the end of
  a word, which is decided by the nearest neighbours that are not looked through.
-/
import HomeAutomation.Text.CaseTable

namespace HomeAutomation.Text

/-- Whether a character carries case, so that a sigma beside it belongs to the same word. -/
def isCased (c : Char) : Bool := inRanges casedRanges c

/-- Whether a character is looked through when the case of a neighbour is asked for. -/
def isCaseIgnorable (c : Char) : Bool := inRanges ignorableRanges c

/-- The lower-case form of one character, away from its neighbours. -/
def lowerChar (c : Char) : List Char :=
  if c.toNat < 0x80 then [c.toLower]
  else if c.toNat = 0x130 then ['i', '\u0307']
  else
    match caseRuns.find? (·.covers c.toNat) with
    | some run => [Char.ofNat (c.toNat + run.shift).toNat]
    | none => [c]

/-- Whether the nearest character that is not looked through carries case. -/
def startsCased : List Char → Bool
  | [] => false
  | c :: rest => if isCaseIgnorable c then startsCased rest else isCased c

/-- Lower-cases characters that follow a cased character if `afterCased` holds. -/
def lowerFrom (afterCased : Bool) : List Char → List Char
  | [] => []
  | c :: rest =>
    let lowered :=
      if c = 'Σ' then
        if afterCased && !startsCased rest then ['ς'] else ['σ']
      else lowerChar c
    lowered ++ lowerFrom (if isCaseIgnorable c then afterCased else isCased c) rest

/-- The lower-case form of a text. -/
def lower (text : String) : String :=
  String.ofList (lowerFrom false text.toList)

end HomeAutomation.Text
