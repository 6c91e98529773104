/-
  HomeAutomation.HostName.Address

  Host names that are numeric addresses: four octets with points between them, or eight groups of
  hexadecimal digits with colons between them, one run of zero groups left out or the last two
  written as octets, and a zone after a percent sign.
-/
import HomeAutomation.Number.Numeral

namespace HomeAutomation.HostName

/-- The parts of a text between the places of a character. -/
def splitAt (separator : Char) : List Char → List (List Char)
  | [] => [[]]
  | c :: rest =>
    if c = separator then [] :: splitAt separator rest
    else
      match splitAt separator rest with
      | part :: others => (c :: part) :: others
      | [] => [[c]]

/-! ## Octets -/

/-- Whether a text writes an octet: up to three digits, no needless zero in front. -/
def isOctet (cs : List Char) : Bool :=
  !cs.isEmpty && cs.all Number.isDigit && cs.length ≤ 3 && (cs.length == 1 || cs.head? != some '0')
    && Number.digitsValue cs ≤ 255

/-- Whether a text is an address of four octets. -/
def isOctetAddress (cs : List Char) : Bool :=
  let parts := splitAt '.' cs
  parts.length == 4 && parts.all isOctet

/-- How far a text has been read as four runs of digits with one character between two of them:
    the number of runs so far, and whether the last of them goes on. -/
abbrev RunState := Nat × Bool

/-- The states after one more character. A digit may go on a run, and any character but the first
    of a run may stand between two. -/
def nextRuns (states : List RunState) (c : Char) : List RunState :=
  let digit := Number.isDigit c
  (states.flatMap fun (runs, inside) =>
    if inside then
      (if digit then [(runs, true)] else []) ++ (if runs < 4 then [(runs, false)] else [])
    else if digit then [(runs + 1, true)] else []).eraseDups

/-- Whether a text is meant as an address of four octets: four runs of digits with one character
    between two of them. -/
def resemblesOctets (cs : List Char) : Bool :=
  (cs.foldl nextRuns [(0, false)]).contains (4, true)

/-! ## Groups -/

/-- Whether a character is a hexadecimal digit. -/
def isHexDigit (c : Char) : Bool :=
  Number.isDigit c || ('a' ≤ c && c ≤ 'f') || ('A' ≤ c && c ≤ 'F')

/-- Whether a text writes a group. -/
def isGroup (cs : List Char) : Bool := !cs.isEmpty && cs.all isHexDigit && cs.length ≤ 4

/-- The parts with octets at the end counted as two groups; `none` if they are no address. -/
def withoutOctets? (parts : List (List Char)) : Option (List (List Char)) :=
  match parts.getLast? with
  | some last =>
    if last.contains '.' then
      if isOctetAddress last then some (parts.dropLast ++ [['0'], ['0']]) else none
    else some parts
  | none => none

/-- Whether parts between colons are eight groups. Empty parts stand for one run of zeros, of at
    least one group: one inside, or two at an end of the address. -/
def areGroups (parts : List (List Char)) : Bool :=
  match (parts.drop 1).dropLast.filter List.isEmpty with
  | [] => parts.length == 8 && parts.all isGroup
  | [_] =>
    let front := parts.takeWhile (!·.isEmpty)
    let back := (parts.reverse.takeWhile (!·.isEmpty)).reverse
    let given := front ++ back
    let empties := parts.length - given.length
    let ends := (if front.isEmpty then 1 else 0) + (if back.isEmpty then 1 else 0)
    empties == 1 + ends && given.length < 8 && given.all isGroup
  | _ => false

/-- Whether a text is an address of eight groups. -/
def isGroupAddress (cs : List Char) : Bool :=
  let address := cs.takeWhile (· != '%')
  let zoneFits :=
    match cs.dropWhile (· != '%') with
    | [] => true
    | _ :: zone => !zone.isEmpty && !zone.contains '%'
  let parts := splitAt ':' address
  zoneFits && 3 ≤ parts.length && (withoutOctets? parts).any areGroups

end HomeAutomation.HostName
