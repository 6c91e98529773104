/-
  HomeAutomation.Text.Blank

  Blank characters and the words between them. A text is seen as the list of its words: the
  maximal runs of characters that are not blank. `unwords` writes words with one space between
  two of them.
-/
import HomeAutomation.Text.CharRange

namespace HomeAutomation.Text

/-- The blank characters: Unicode white space together with the four information separators
    `U+001C` to `U+001F`. -/
def blankRanges : List CharRange :=
  [⟨0x09, 0x0D⟩, ⟨0x1C, 0x20⟩, ⟨0x85, 0x85⟩, ⟨0xA0, 0xA0⟩, ⟨0x1680, 0x1680⟩, ⟨0x2000, 0x200A⟩,
   ⟨0x2028, 0x2029⟩, ⟨0x202F, 0x202F⟩, ⟨0x205F, 0x205F⟩, ⟨0x3000, 0x3000⟩]

/-- Whether a character is blank. -/
def isBlank (c : Char) : Bool := inRanges blankRanges c

/-- The maximal runs of characters that are not blank, in order. -/
def splitWords : List Char → List (List Char)
  | [] => []
  | c :: cs =>
    if isBlank c then splitWords cs
    else
      match cs with
      | [] => [[c]]
      | d :: _ =>
        if isBlank d then [c] :: splitWords cs
        else
          match splitWords cs with
          | [] => [[c]]
          | word :: rest => (c :: word) :: rest

/-- Writes words with one space between two of them. -/
def joinWords : List (List Char) → List Char
  | [] => []
  | [word] => word
  | word :: rest => word ++ ' ' :: joinWords rest

/-- The words of a text. -/
def words (text : String) : List String :=
  (splitWords text.toList).map String.ofList

/-- The text that has the given words, one space between two of them. -/
def unwords (ws : List String) : String :=
  String.ofList (joinWords (ws.map String.toList))

/-- Drops the characters of a set at both ends. -/
def trimBy (drop : Char → Bool) (cs : List Char) : List Char :=
  ((cs.dropWhile drop).reverse.dropWhile drop).reverse

/-- The text without blanks at its ends. -/
def trim (text : String) : String :=
  String.ofList (trimBy isBlank text.toList)

end HomeAutomation.Text
