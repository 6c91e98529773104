/-
  HomeAutomation.Number.Rounding

  Division of natural numbers rounded to the nearest integer. A tie goes to the even neighbour.
-/
namespace HomeAutomation.Number

/-- The integer nearest to `num / den`; half-way between two integers, the even one. -/
def roundDiv (num den : Nat) : Nat :=
  let below := num / den
  let rest := num % den
  if 2 * rest < den then below
  else if den < 2 * rest then below + 1
  else if below % 2 = 0 then below
  else below + 1

end HomeAutomation.Number
