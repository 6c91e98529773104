/-
  HomeAutomation.HostName.Basic

  Host names with characters beyond ASCII. A name is a row of labels with dots between them; each of
  its labels is checked, and those that need it are written in ASCII.
-/
import HomeAutomation.HostName.CharTable
import HomeAutomation.HostName.Context
import HomeAutomation.HostName.Punycode

namespace HomeAutomation.HostName

/-! ## Labels -/

/-- Whether every character of a label may stand where it stands; `before` is the part that has been
    looked at, reversed. -/
def charsFit (before : List Char) : List Char → Bool
  | [] => true
  | c :: rest => (isPlain c || fitsContext before c rest) && charsFit (c :: before) rest

/-- Whether no hyphen stands at an end of a label or as its third and fourth character. -/
def hyphensFit (label : List Char) : Bool :=
  label.head? != some '-' && label.getLast? != some '-' && (label.drop 2).take 2 != ['-', '-']

/-- How many characters a label that is to be checked may have. -/
def labelReach : Nat := 254

/-- Whether a label may be part of a name. -/
def isLabel (label : List Char) : Bool :=
  !label.isEmpty && label.length ≤ labelReach && isComposed label && hyphensFit label
    && !label.head?.any isMark && charsFit [] label && directionsAgree label

/-- What a label that is written in ASCII starts with. -/
def asciiMark : List Char := ['x', 'n', '-', '-']

/-- How long a label may be in ASCII. -/
def labelLimit : Nat := 63

/-- Whether a label that is ASCII may be part of a name. What follows the mark of a written form has
    to be the form of a label. -/
def isAsciiLabel (label : List Char) : Bool :=
  if asciiMark.isPrefixOf label then
    let written := label.drop asciiMark.length
    !written.isEmpty && written.getLast? != some '-'
      && (Punycode.decode? written).any isLabel
  else isLabel label

/-- A label in ASCII. -/
def encodeLabel? (label : List Char) : Option (List Char) :=
  if label.all Punycode.isAscii then
    if isAsciiLabel label && label.length ≤ labelLimit then some label else none
  else
    let written := asciiMark ++ Punycode.encode label
    if isLabel label && written.length ≤ labelLimit then some written else none

/-! ## Names -/

/-- The dots of all scripts. -/
def isDot (c : Char) : Bool := c = '.' || c = '\u3002' || c = '\uFF0E' || c = '\uFF61'

/-- The parts of a name between its dots. -/
def labels : List Char → List (List Char)
  | [] => [[]]
  | c :: rest =>
    if isDot c then [] :: labels rest
    else
      match labels rest with
      | label :: others => (c :: label) :: others
      | [] => [[c]]

/-- How long a name may be in ASCII, a dot at its end apart. -/
def nameLimit : Nat := 253

/-- A name in ASCII. A dot may stand at its end. -/
def encode? (name : List Char) : Option (List Char) := do
  let parts := labels name
  let ended := parts.getLast? == some []
  let written ← (if ended then parts.dropLast else parts).mapM encodeLabel?
  let text := ['.'].intercalate written
  if written.isEmpty || nameLimit < text.length then none
  else some (if ended then text ++ ['.'] else text)

end HomeAutomation.HostName
