/-!
# PathSeal.Decimal.Whole

Reading whole numbers in decimal digits. Leading zeros do not count.
-/

namespace PathSeal.Decimal

/-- The number that decimal digits stand for. -/
def ofDigits (digits : List Char) : Nat :=
  digits.foldl (fun n c => n * 10 + (c.toNat - 48)) 0

/-- The number that a text of decimal digits stands for, with a plus sign before them or not. -/
def whole? (cs : List Char) : Option Nat :=
  let digits := match cs with
    | '+' :: cs => cs
    | cs => cs
  if digits = [] ∨ !digits.all Char.isDigit then none else some (ofDigits digits)

end PathSeal.Decimal
