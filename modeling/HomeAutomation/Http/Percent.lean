/-
  HomeAutomation.Http.Percent

  Percent-encoding: a character that an address may not have as it is is written as its bytes, each
  as a percent sign and two hexadecimal digits.
-/
import HomeAutomation.Text.Quoted

namespace HomeAutomation.Http

/-- The escape of a byte. -/
def byteEscape (byte : UInt8) : List Char := '%' :: (Text.hex 2 byte.toNat).map Char.toUpper

/-- The escape of a character. -/
def charEscape (c : Char) : List Char := (String.utf8EncodeChar c).flatMap byteEscape

/-- A text with the characters escaped that are not safe. -/
def percentEncode (isSafe : Char → Bool) (cs : List Char) : List Char :=
  cs.flatMap fun c => if isSafe c then [c] else charEscape c

/-! ## Safe characters -/

/-- Whether a character is a visible one of ASCII. -/
def isVisible (c : Char) : Bool := 0x20 < c.toNat && c.toNat < 0x7F

/-- The characters that are safe in a fragment. -/
def isFragmentSafe (c : Char) : Bool := isVisible c && !(['"', '<', '>', '\x60'].contains c)

/-- The characters that are safe in a query. -/
def isQuerySafe (c : Char) : Bool := isVisible c && !(['"', '#', '<', '>'].contains c)

/-- The characters that are safe in a path. -/
def isPathSafe (c : Char) : Bool := isQuerySafe c && !(['?', '\x60', '\x7b', '\x7d'].contains c)

/-- The characters that are safe in the name of a user. -/
def isUserSafe (c : Char) : Bool :=
  isPathSafe c && !(['/', ';', '=', '@', '[', '\\', ']', '^', '|'].contains c)

/-- The characters that are safe in the name of a host. -/
def isHostSafe (c : Char) : Bool :=
  isVisible c && !(['#', '/', ':', '<', '>', '?', '@', '[', ']', '^'].contains c)

end HomeAutomation.Http
