/-!
# PathSeal.DomainName.Punycode

Labels of host names in ASCII letters, digits and hyphens (RFC 3492). The ASCII
characters of a label are written first; the others follow as numbers that say
which character is put in where. The digits of a number are written the least
significant first, each in a base that depends on the numbers before it.
-/

namespace PathSeal.DomainName.Punycode

/-! ## Digits -/

/-- The number of a digit: the letters come before the decimal digits. -/
def digit? (c : Char) : Option Nat :=
  if 'a' ≤ c ∧ c ≤ 'z' then some (c.toNat - 97)
  else if '0' ≤ c ∧ c ≤ '9' then some (c.toNat - 22)
  else none

/-- The digit of a number below 36. -/
def digit (n : Nat) : Char :=
  if n < 26 then Char.ofNat (97 + n) else Char.ofNat (22 + n)

/-- A digit at a position, of which the first is 36 and the next ones go up by 36, ends a number if
it is below this. -/
def threshold (bias position : Nat) : Nat :=
  max 1 (min 26 (position - bias))

theorem threshold_pos (bias position : Nat) : 0 < threshold bias position := by
  simp only [threshold]
  omega

/-- How the bias grows with a number. -/
def bias (delta position : Nat) : Nat :=
  if 455 < delta then bias (delta / 35) (position + 36)
  else position + 36 * delta / (delta + 38)
termination_by delta
decreasing_by omega

/-- The bias after a number was written for a text that now has some characters. -/
def nextBias (delta count : Nat) (isFirst : Bool) : Nat :=
  let delta := if isFirst then delta / 700 else delta / 2
  bias (delta + delta / count) 0

/-! ## Reading -/

/-- What has been read: the characters, the code point and place of the next insertion, and of the
number that is being read its start, its weight and its position. -/
structure Reading where
  chars : List Char
  code : Nat
  place : Nat
  bias : Nat
  start : Nat
  weight : Nat
  position : Nat

/-- Before the first number. -/
def Reading.ofBasic (chars : List Char) : Reading :=
  ⟨chars, 128, 0, 72, 0, 1, 36⟩

/-- The character of a code point. -/
def char? (code : Nat) : Option Char :=
  if h : code.isValidChar then some (Char.ofNatAux code h) else none

/-- Takes a digit. When a number ends, a character is put in. -/
def Reading.step (r : Reading) (c : Char) : Option Reading := do
  let d ← digit? c
  let place := r.place + d * r.weight
  let t := threshold r.bias r.position
  if d < t then
    let count := r.chars.length + 1
    let code := r.code + place / count
    let inserted ← char? code
    let place' := place % count
    return {
      chars := r.chars.insertIdx place' inserted
      code
      place := place' + 1
      bias := nextBias (place - r.start) count (r.start == 0)
      start := place' + 1
      weight := 1
      position := 36 }
  else return { r with place, weight := r.weight * (36 - t), position := r.position + 36 }

/-- The label that a written label stands for. -/
def decode? (cs : List Char) : Option (List Char) := do
  let digits := (cs.reverse.takeWhile (· ≠ '-')).reverse
  let basic := cs.take (cs.length - digits.length - 1)
  let digits := if basic = [] then cs else digits
  if basic.any (128 ≤ ·.toNat) then failure
  let r ← digits.foldlM Reading.step (Reading.ofBasic basic)
  if r.position = 36 then some r.chars else none

/-! ## Writing -/

/-- The digits of a number. -/
def digits (bias q position : Nat) : List Char :=
  let t := threshold bias position
  if q < t then [digit q]
  else digit (t + (q - t) % (36 - t)) :: digits bias ((q - t) / (36 - t)) (position + 36)
termination_by q
decreasing_by
  have := threshold_pos bias position
  have := Nat.div_le_self (q - threshold bias position) (36 - threshold bias position)
  omega

/-- What has been written: the digits, how many characters are done, the distance to the next one,
and the bias. -/
structure Writing where
  written : List Char
  done : Nat
  delta : Nat
  bias : Nat

/-- Goes over a character of the label while those with one code point are written. -/
def Writing.pass (code basicCount : Nat) (w : Writing) (c : Char) : Writing :=
  if c.toNat < code then { w with delta := w.delta + 1 }
  else if c.toNat = code then
    { written := w.written ++ digits w.bias w.delta 36
      done := w.done + 1
      delta := 0
      bias := nextBias w.delta (w.done + 1) (w.done == basicCount) }
  else w

/-- Writes the characters with each of some rising code points, from a code point on. -/
def Writing.all (label : List Char) (basicCount : Nat) (w : Writing) (start : Nat) :
    List Nat → Writing
  | [] => w
  | code :: codes =>
    let w := { w with delta := w.delta + (code - start) * (w.done + 1) }
    let w := label.foldl (Writing.pass code basicCount) w
    Writing.all label basicCount { w with delta := w.delta + 1 } (code + 1) codes

/-- The written form of a label. -/
def encode (label : List Char) : List Char :=
  let basic := label.filter (·.toNat < 128)
  let codes := (label.map Char.toNat).filter (128 ≤ ·)
  let rising := (codes.mergeSort (· ≤ ·)).eraseDups
  let w := Writing.all label basic.length ⟨[], basic.length, 0, 72⟩ 128 rising
  basic ++ (if basic = [] then [] else ['-']) ++ w.written

end PathSeal.DomainName.Punycode
