/-!
# PathSeal.Decimal.Shortest

The shortest decimal text of a binary64 number that reads back as the same
number. A finite number is `m * 2^q` with whole `m`; every real number in an
interval around it is rounded to it. The digits are those of the first decimal
grid, coarsest first, that has a point in the interval.
-/

namespace PathSeal.Decimal

/-- The quarters of a positive number and of the ends of its interval, over one denominator. -/
structure Interval where
  low : Nat
  value : Nat
  high : Nat
  denominator : Nat
  /-- Whether the ends themselves are rounded to the number. -/
  closed : Bool

/-- The interval of the positive finite number with the given exponent field and fraction bits. -/
def Interval.ofFields (exponent fraction : Nat) : Interval :=
  let m := if exponent = 0 then fraction else fraction + (1 <<< 52)
  let e := max exponent 1
  let below := if fraction = 0 ∧ 1 < exponent then 1 else 2
  let up := if 1075 ≤ e then 1 <<< (e - 1075) else 1
  { low := (4 * m - below) * up
    value := 4 * m * up
    high := (4 * m + 2) * up
    denominator := 4 * if 1075 ≤ e then 1 else 1 <<< (1075 - e)
    closed := m % 2 = 0 }

namespace Interval

/-- The interval with everything multiplied by `10 ^ n`. -/
def timesTen (i : Interval) (n : Nat) : Interval :=
  let scale := Nat.pow 10 n
  { i with low := i.low * scale, value := i.value * scale, high := i.high * scale }

/-- Whether a whole number lies in the interval. -/
def holds (i : Interval) (d : Nat) : Bool :=
  let x := d * i.denominator
  if i.closed then i.low ≤ x && x ≤ i.high else i.low < x && x < i.high

/-- The nearest whole number of the two around the value that lie in the interval; of two equally
near ones the even one. -/
def nearest? (i : Interval) : Option Nat :=
  let d := i.value / i.denominator
  let r := i.value % i.denominator
  match i.holds d, i.holds (d + 1) with
  | true, true =>
    if 2 * r < i.denominator ∨ (2 * r = i.denominator ∧ d % 2 = 0) then some d else some (d + 1)
  | true, false => some d
  | false, true => some (d + 1)
  | false, false => none

/-- The power of ten that the value's first digit stands for. -/
def leading (i : Interval) : Int :=
  let whole := i.value / i.denominator
  if whole ≠ 0 then (Nat.toDigits 10 whole).length - 1
  else go 330 1
where
  /-- Looks for the first place after the point that is not zero. -/
  go : Nat → Nat → Int
    | 0, places => -places
    | fuel + 1, places =>
      if i.value * Nat.pow 10 places ≥ i.denominator then -places else go fuel (places + 1)

/-- The digits on the coarsest grid that has any, of `n` and more digits, and whether rounding up
made one more of them. -/
def digits (i : Interval) (leading : Int) : (left n : Nat) → List Char × Bool
  | 0, _ => ([], false)
  | left + 1, n =>
    let place := leading - (n - 1)
    let scaled :=
      if 0 ≤ place then { i with denominator := i.denominator * Nat.pow 10 place.toNat }
      else i.timesTen (-place).toNat
    match scaled.nearest? with
    | some d =>
      let written := Nat.toDigits 10 d
      (written, n < written.length)
    | none => digits i leading left (n + 1)

end Interval

/-- How a number of given digits is laid out, its first digit standing for `10 ^ leading`:
positional from `10^-5` to below `10^16`, else with an exponent that has a sign. -/
def layout (digits : List Char) (leading : Int) : List Char :=
  let digits := (digits.reverse.dropWhile (· == '0')).reverse
  if 0 ≤ leading ∧ leading ≤ 15 then
    let whole := leading.toNat + 1
    let before := digits.take whole ++ List.replicate (whole - digits.length) '0'
    let after := digits.drop whole
    before ++ ['.'] ++ (if after = [] then ['0'] else after)
  else if -5 ≤ leading ∧ leading < 0 then
    ['0', '.'] ++ List.replicate (-leading - 1).toNat '0' ++ digits
  else
    let mantissa := match digits with
      | [d] => [d]
      | d :: rest => d :: '.' :: rest
      | [] => ['0']
    mantissa ++ ['e', if leading < 0 then '-' else '+'] ++ Nat.toDigits 10 leading.natAbs

/-- The shortest text of a finite number. -/
def shortest (x : Float) : String :=
  let bits := x.toBits.toNat
  let sign := if bits >>> 63 = 1 then ['-'] else []
  let exponent := (bits >>> 52) % 2048
  let fraction := bits % (1 <<< 52)
  if exponent = 0 ∧ fraction = 0 then String.ofList (sign ++ ['0', '.', '0'])
  else
    let i := Interval.ofFields exponent fraction
    let leading := i.leading
    let (digits, carried) := i.digits leading 17 1
    String.ofList (sign ++ layout digits (if carried then leading + 1 else leading))

end PathSeal.Decimal
