/-
  HomeAutomation.HostName.Composition

  Composed texts. A text is taken apart into letters and marks, the marks of every letter are put in
  order, and what can be composed is composed again; a text is composed if that gives it back. Only
  characters that labels of host names may have are taken apart.
-/
import HomeAutomation.HostName.CompositionTable

namespace HomeAutomation.HostName

/-! ## Taking apart -/

/-- The class of a mark; zero for what is no mark. -/
def markOrder (c : Char) : Nat :=
  ((markRuns.find? fun run => run.first ≤ c.toNat && c.toNat ≤ run.last).map (·.order)).getD 0

/-- The two characters that form a character. -/
def parts? (c : Char) : Option (Char × Char) :=
  (compositions.find? (·.whole == c.toNat)).map fun composition =>
    (Char.ofNat composition.first, Char.ofNat composition.second)

/-- The characters that form a character, taken apart `depth` times. -/
def takeApart (depth : Nat) (c : Char) : List Char :=
  match depth with
  | 0 => [c]
  | depth + 1 =>
    match parts? c with
    | some (first, second) => takeApart depth first ++ [second]
    | none => [c]

/-- How often a character can be taken apart. -/
def compositionDepth : Nat := 4

/-- The characters that form a text. -/
def decompose (cs : List Char) : List Char := cs.flatMap (takeApart compositionDepth)

/-! ## Order of marks -/

/-- Puts a mark into a reversed text, behind the marks of a higher class at its end. -/
def placeMark (order : Nat) (mark : Char) : List Char → List Char
  | [] => [mark]
  | c :: rest =>
    if order < markOrder c then c :: placeMark order mark rest else mark :: c :: rest

/-- A text with the marks of every letter in the order of their classes. -/
def orderMarks (cs : List Char) : List Char :=
  (cs.foldl (fun done c =>
    let order := markOrder c
    if order = 0 then c :: done else placeMark order c done) []).reverse

/-! ## Composing -/

/-- The character that two characters form. -/
def whole? (first second : Char) : Option Char :=
  (compositions.find? fun composition =>
    composition.first == first.toNat && composition.second == second.toNat).map
      fun composition => Char.ofNat composition.whole

/-- Composes the letter `letter` with the marks that follow it; `kept` are those that it is not
    composed with, reversed. A mark is not composed across another of its class, nor a letter across
    any mark. -/
def composeFrom (letter : Char) (kept : List Char) : List Char → List Char
  | [] => letter :: kept.reverse
  | c :: rest =>
    let order := markOrder c
    let isNext :=
      match kept with
      | [] => true
      | mark :: _ => markOrder mark < order
    match if isNext then whole? letter c else none with
    | some whole => composeFrom whole kept rest
    | none =>
      if order = 0 then letter :: kept.reverse ++ composeFrom c [] rest
      else composeFrom letter (c :: kept) rest

/-- Composes a text. -/
def compose : List Char → List Char
  | [] => []
  | c :: rest => composeFrom c [] rest

/-- Whether a text is composed. -/
def isComposed (cs : List Char) : Bool := compose (orderMarks (decompose cs)) == cs

end HomeAutomation.HostName
