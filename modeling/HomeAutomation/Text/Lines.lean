/-
  HomeAutomation.Text.Lines

  Lines of a text. Besides the line feed, a line ends at a carriage return (with a line feed after
  it or not), at the vertical and form feeds, at the separators `U+001C` to `U+001E`, at the
  next-line control and at the Unicode line and paragraph separators. An empty last line is not
  a line.
-/
namespace HomeAutomation.Text

/-- Whether a character ends a line. -/
def isLineEnd (c : Char) : Bool :=
  let n := c.toNat
  (0x0A ≤ n && n ≤ 0x0D) || (0x1C ≤ n && n ≤ 0x1E) || n == 0x85 || n == 0x2028 || n == 0x2029

/-- The lines of a list of characters, `line` being the reversed part of the present line that has
    been read. -/
def splitLines (line : List Char) : List Char → List (List Char)
  | [] => if line.isEmpty then [] else [line.reverse]
  | '\r' :: '\n' :: rest => line.reverse :: splitLines [] rest
  | c :: rest =>
    if isLineEnd c then line.reverse :: splitLines [] rest else splitLines (c :: line) rest

/-- The lines of a text, without what ends them. -/
def lines (text : String) : List String :=
  (splitLines [] text.toList).map String.ofList

end HomeAutomation.Text
