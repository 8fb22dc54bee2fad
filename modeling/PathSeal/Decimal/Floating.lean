/-!
# PathSeal.Decimal.Floating

Which texts stand for numbers with a fraction or an exponent. Digits are needed
on one side of the point only.
-/

namespace PathSeal.Decimal

/-- Whether a text is empty or an exponent with its letter. -/
def isExponent (cs : List Char) : Bool :=
  match cs with
  | [] => true
  | c :: cs =>
    let digits := match cs with
      | '+' :: cs | '-' :: cs => cs
      | cs => cs
    (c == 'e' || c == 'E') && digits ≠ [] && digits.all Char.isDigit

/-- Whether a text is a decimal number without a sign. -/
def isUnsigned (cs : List Char) : Bool :=
  let whole := cs.takeWhile Char.isDigit
  match cs.dropWhile Char.isDigit with
  | '.' :: cs =>
    (whole ≠ [] || cs.takeWhile Char.isDigit ≠ []) && isExponent (cs.dropWhile Char.isDigit)
  | cs => whole ≠ [] && isExponent cs

/-- Whether a text is a decimal number, or a name of infinity or of no number in any case, with a
sign or without. -/
def isFloating (cs : List Char) : Bool :=
  let cs := match cs with
    | '+' :: cs | '-' :: cs => cs
    | cs => cs
  isUnsigned cs || ["inf", "infinity", "nan"].contains (String.ofList (cs.map Char.toLower))

end PathSeal.Decimal
