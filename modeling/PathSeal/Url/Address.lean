import PathSeal.Decimal.Whole
import PathSeal.Text.Hex
import PathSeal.Text.Split

/-!
# PathSeal.Url.Address

Numeric addresses as hosts. An address of four bytes may be written with fewer
parts, in octal or in hexadecimal; an address of eight groups may leave out one
run of zeros and end in an address of four bytes. Each has one normal form.
-/

namespace PathSeal.Url

open Text (hexDigit? hexDigits)

/-! ## Four bytes -/

/-- The number that a part of an address stands for: hexadecimal after `0x`, octal after `0`. -/
def addressPart? (cs : List Char) : Option Nat :=
  let (base, digits) := match cs with
    | '0' :: 'x' :: cs | '0' :: 'X' :: cs => (16, cs)
    | '0' :: c :: cs => (8, c :: cs)
    | cs => (10, cs)
  if cs = [] then none
  else digits.foldlM (fun n c => do
    let d ← hexDigit? c
    if d < base then some (n * base + d) else none) 0

/-- Whether the last part of a name is a number, so that the name must be an address. -/
def endsInNumber (parts : List (List Char)) : Bool :=
  match parts.reverse with
  | [] :: last :: _ => isNumber last
  | last :: _ => isNumber last
  | [] => false
where
  /-- Whether a part is a decimal number or stands for one. -/
  isNumber (cs : List Char) : Bool :=
    (cs ≠ [] && cs.all Char.isDigit) || (cs.take 2 == ['0', 'x'] && (addressPart? cs).isSome)

/-- The address of four bytes with points between them. -/
def dotted (n : Nat) : List Char :=
  s!"{n / 16777216 % 256}.{n / 65536 % 256}.{n / 256 % 256}.{n % 256}".toList

/-- The normal form of an address of up to four parts; the last part fills what is left. -/
def address? (parts : List (List Char)) : Option (List Char) := do
  let parts := match parts.reverse with
    | [] :: rest => rest.reverse
    | _ => parts
  let numbers ← parts.mapM addressPart?
  let count := numbers.length
  let last ← numbers.getLast?
  if 4 < count then none
  else if (numbers.take (count - 1)).any (255 < ·) then none
  else if 1 <<< (8 * (5 - count)) ≤ last then none
  else
    let leading := (numbers.take (count - 1)).zipIdx
    let high := leading.foldl (fun n (x, i) => n + (x <<< (8 * (3 - i)))) 0
    return dotted (high + last)

/-! ## Eight groups -/

/-- One group of up to four hexadecimal digits. -/
def group? (cs : List Char) : Option Nat :=
  if cs = [] ∨ 4 < cs.length then none
  else cs.foldlM (fun n c => (hexDigit? c).map (16 * n + ·)) 0

/-- A decimal number below 256 without leading zeros. -/
def byte? (cs : List Char) : Option Nat :=
  if cs = [] ∨ !cs.all Char.isDigit ∨ (1 < cs.length ∧ cs.head? = some '0') then none
  else
    let n := Decimal.ofDigits cs
    if n < 256 then some n else none

/-- The two groups of an address of four bytes. -/
def twoGroups? (cs : List Char) : Option (List Nat) := do
  match ← (Text.fields (· == '.') cs).mapM byte? with
  | [a, b, c, d] => return [256 * a + b, 256 * c + d]
  | _ => none

/-- The groups between colons. At the end of an address the last may be an address of four
bytes. -/
def groups? (isEnd : Bool) (cs : List Char) : Option (List Nat) :=
  if cs = [] then some []
  else
    let parts := Text.fields (· == ':') cs
    match parts.getLast? with
    | some last =>
      if isEnd && last.contains '.' then do
        return (← (parts.dropLast).mapM group?) ++ (← twoGroups? last)
      else parts.mapM group?
    | none => none

/-- The eight groups of an address. The parts around a double colon leave at least one out. -/
def eightGroups? (cs : List Char) : Option (List Nat) := do
  match Text.splitOnce [':', ':'] cs with
  | none =>
    let groups ← groups? true cs
    if groups.length = 8 then some groups else none
  | some (before, after) =>
    let high ← groups? false before
    let low ← groups? true after
    if high.length + low.length ≤ 7 then
      some (high ++ List.replicate (8 - high.length - low.length) 0 ++ low)
    else none

/-- The length of the run of zeros that a list begins with. -/
def leadingZeros (groups : List Nat) : Nat :=
  (groups.takeWhile (· == 0)).length

/-- The place and length of the first of the longest runs of zeros, if one has at least two. -/
def longestZeros (groups : List Nat) : Option (Nat × Nat) :=
  let runs := (List.range groups.length).map fun i => (i, leadingZeros (groups.drop i))
  let best := runs.foldl (fun best run => if best.2 < run.2 then run else best) (0, 1)
  if 2 ≤ best.2 then some best else none

/-- Groups with colons between them. -/
def joinedGroups (groups : List Nat) : List Char :=
  List.intercalate [':'] (groups.map hexDigits)

/-- The normal form of eight groups. -/
def compressed (groups : List Nat) : List Char :=
  match longestZeros groups with
  | none => joinedGroups groups
  | some (start, length) =>
    joinedGroups (groups.take start) ++ [':', ':'] ++ joinedGroups (groups.drop (start + length))

/-- The normal form of an address in brackets, given what follows the first of them. -/
def bracketed? (inside : List Char) : Option (List Char) :=
  match inside.getLast? with
  | some ']' => (eightGroups? inside.dropLast).map fun g => '[' :: compressed g ++ [']']
  | _ => none

end PathSeal.Url
