/-
  HomeAutomation.HostName.Punycode

  Labels with characters beyond ASCII, written in ASCII: first the ASCII characters, then, after a
  hyphen, where the others are inserted, in ascending order. An insertion is a number, written with
  the least significant digit first; which digit ends it is adapted to the numbers before.
-/
import HomeAutomation.Text.CharRange

namespace HomeAutomation.HostName.Punycode

/-! ## Digits -/

/-- The number of digits. -/
def base : Nat := 36

/-- The digit of a value. -/
def digitOf (value : Nat) : Char :=
  if value < 26 then Char.ofNat (0x61 + value) else Char.ofNat (0x30 + (value - 26))

/-- The value of a digit. -/
def valueOf? (c : Char) : Option Nat :=
  if 'a' ≤ c && c ≤ 'z' then some (c.toNat - 0x61)
  else if 'A' ≤ c && c ≤ 'Z' then some (c.toNat - 0x41)
  else if '0' ≤ c && c ≤ '9' then some (c.toNat - 0x30 + 26)
  else none

/-- The value below which the digit at a place ends a number. -/
def threshold (place bias : Nat) : Nat :=
  let reach := base * (place + 1)
  if reach ≤ bias then 1 else if bias + 26 ≤ reach then 26 else reach - bias

theorem one_le_threshold (place bias : Nat) : 1 ≤ threshold place bias := by
  unfold threshold
  grind

/-! ## Bias -/

/-- Divides until at most 455 is left; counts the divisions. -/
def shrink (delta : Nat) : Nat × Nat :=
  if 455 < delta then
    let (left, count) := shrink (delta / 35)
    (left, count + 1)
  else (delta, 0)
termination_by delta
decreasing_by omega

/-- The bias after a number, `size` being the length of the label so far. -/
def adapt (delta : Nat) (first : Bool) (size : Nat) : Nat :=
  let scaled := if first then delta / 700 else delta / 2
  let (left, count) := shrink (scaled + scaled / size)
  count * base + base * left / (left + 38)

/-! ## Writing -/

/-- The digits of a number from a place on. -/
def digits (bias place number : Nat) : List Char :=
  let limit := threshold place bias
  if number < limit then [digitOf number]
  else
    digitOf (limit + (number - limit) % (base - limit))
      :: digits bias (place + 1) ((number - limit) / (base - limit))
termination_by number
decreasing_by
  have h := one_le_threshold place bias
  have h' : (number - threshold place bias) / (base - threshold place bias)
      ≤ number - threshold place bias := Nat.div_le_self _ _
  omega

/-- What has been written of the insertions. -/
structure Progress where
  /-- The digits, reversed. -/
  done : List Char := []
  /-- How many places were passed since the last insertion. -/
  delta : Nat := 0
  bias : Nat := 72
  /-- The length of the label so far. -/
  size : Nat

/-- Passes a character of the label while the character `code` is being inserted. -/
def pass (ascii code : Nat) (progress : Progress) (c : Char) : Progress :=
  if c.toNat < code then { progress with delta := progress.delta + 1 }
  else if c.toNat = code then
    { done := (digits progress.bias 0 progress.delta).reverse ++ progress.done
      delta := 0
      bias := adapt progress.delta (progress.size == ascii) (progress.size + 1)
      size := progress.size + 1 }
  else progress

/-- Inserts characters, given in ascending order; `next` is the least one that may come. -/
def insertAll (label : List Char) (ascii : Nat) : List Nat → Nat → Progress → Progress
  | [], _, progress => progress
  | code :: rest, next, progress =>
    let started := { progress with
      delta := progress.delta + (code - next) * (progress.size + 1) }
    let passed := label.foldl (pass ascii code) started
    insertAll label ascii rest (code + 1) { passed with delta := passed.delta + 1 }

/-- Whether a character is ASCII. -/
def isAscii (c : Char) : Bool := c.toNat < 0x80

/-- The written form of a label. -/
def encode (label : List Char) : List Char :=
  let ascii := label.filter isAscii
  let codes := ((label.filter (!isAscii ·)).map Char.toNat).eraseDups.mergeSort
  let written := (insertAll label ascii.length codes 0x80 { size := ascii.length }).done.reverse
  if ascii.isEmpty then written else ascii ++ '-' :: written

/-! ## Reading -/

/-- Reads a number from the digit at a place on, which counts `weight`. -/
def readNumber? (bias place weight : Nat) : List Char → Option (Nat × List Char)
  | [] => none
  | c :: rest => do
    let value ← valueOf? c
    let limit := threshold place bias
    if value < limit then return (value * weight, rest)
    else
      let (higher, rest) ← readNumber? bias (place + 1) (weight * (base - limit)) rest
      return (value * weight + higher, rest)

/-- Carries out insertions, at most `fuel` of them: every one has a digit of its own. -/
def applyAll? (fuel : Nat) (label : List Char) (code place bias : Nat) (first : Bool)
    (written : List Char) : Option (List Char) :=
  match fuel, written with
  | _, [] => some label
  | 0, _ => none
  | fuel + 1, _ => do
    let (delta, rest) ← readNumber? bias 0 1 written
    let size := label.length + 1
    let place := place + delta
    let code := code + place / size
    let place := place % size
    if 0x110000 ≤ code then none
    else
      let label := label.take place ++ Char.ofNat code :: label.drop place
      applyAll? fuel label code (place + 1) (adapt delta first size) false rest

/-- The label that a written form stands for. -/
def decode? (written : List Char) : Option (List Char) :=
  let reversed := written.reverse
  match reversed.dropWhile (· != '-') with
  | [] => applyAll? written.length [] 0x80 0 72 true written
  | _ :: ascii =>
    applyAll? written.length ascii.reverse 0x80 0 72 true
      (reversed.takeWhile (· != '-')).reverse

end HomeAutomation.HostName.Punycode
