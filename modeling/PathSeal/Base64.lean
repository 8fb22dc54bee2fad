import PathSeal.Bytes

/-!
# PathSeal.Base64

The standard base64 form of a buffer (RFC 4648) with canonical padding. Reading
is strict: padding must be complete and unused bits must be zero, so every
buffer has exactly one written form. A fault says where it was found.
-/

namespace PathSeal.Base64

/-- Why a text is not the base64 form of a buffer; offsets count bytes. -/
inductive Fault where
  | symbol (byte : UInt8) (offset : Nat)
  | length (length : Nat)
  | lastSymbol (byte : UInt8) (offset : Nat)
  | padding
deriving DecidableEq

/-- The text of a fault. -/
def Fault.message : Fault → String
  | .symbol byte offset => s!"Invalid symbol {byte.toNat}, offset {offset}."
  | .length n => s!"Invalid input length: {n}"
  | .lastSymbol byte offset => s!"Invalid last symbol {byte.toNat}, offset {offset}."
  | .padding => "Invalid padding"

/-! ## Symbols -/

/-- The padding symbol `=`. -/
def pad : UInt8 := 61

/-- The symbol of a number below 64. -/
def symbol (n : Nat) : UInt8 :=
  if n < 26 then UInt8.ofNat (65 + n)
  else if n < 52 then UInt8.ofNat (71 + n)
  else if n < 62 then UInt8.ofNat (n - 4)
  else if n = 62 then 43
  else 47

/-- The number of a symbol of the alphabet. -/
def digit? (b : UInt8) : Option Nat :=
  let n := b.toNat
  if 65 ≤ n ∧ n ≤ 90 then some (n - 65)
  else if 97 ≤ n ∧ n ≤ 122 then some (n - 71)
  else if 48 ≤ n ∧ n ≤ 57 then some (n + 4)
  else if n = 43 then some 62
  else if n = 47 then some 63
  else none

/-! ## Writing -/

/-- The symbols of a buffer, four for every three bytes. -/
def encode : Bytes → Bytes
  | [] => []
  | [a] => [symbol (a.toNat / 4), symbol (a.toNat % 4 * 16), pad, pad]
  | [a, b] =>
    [symbol (a.toNat / 4), symbol (a.toNat % 4 * 16 + b.toNat / 16), symbol (b.toNat % 16 * 4), pad]
  | a :: b :: c :: rest =>
    symbol (a.toNat / 4) :: symbol (a.toNat % 4 * 16 + b.toNat / 16)
      :: symbol (b.toNat % 16 * 4 + c.toNat / 64) :: symbol (c.toNat % 64) :: encode rest

/-- The base64 text of a buffer. -/
def encodeString (bs : Bytes) : String :=
  String.ofList ((encode bs).map fun b => Char.ofNat b.toNat)

/-! ## Reading -/

/-- The number of the symbol at an offset. -/
def digitAt (offset : Nat) (b : UInt8) : Except Fault Nat :=
  match digit? b with
  | some n => .ok n
  | none => .error (.symbol b offset)

/-- The three bytes of four numbers. -/
def threeBytes (x y z w : Nat) : Bytes :=
  [UInt8.ofNat (x * 4 + y / 16), UInt8.ofNat (y % 16 * 16 + z / 4), UInt8.ofNat (z % 4 * 64 + w)]

/-- The symbols of the last group with their numbers, and how much padding follows them. Padding
may stand only in the last two places, and no symbol may follow it; `firstPad` is where it began. -/
def scanTail (offset i : Nat) (firstPad : Option Nat) :
    Bytes → Except Fault (List (UInt8 × Nat) × Nat)
  | [] => .ok ([], 0)
  | b :: bs =>
    if b = pad then
      if i < 2 then .error (.symbol b (offset + i))
      else do
        let (symbols, pads) ← scanTail offset (i + 1) (firstPad.or (some i)) bs
        return (symbols, pads + 1)
    else match firstPad with
      | some first => .error (.symbol pad (offset + first))
      | none => do
        let n ← digitAt (offset + i) b
        let (symbols, pads) ← scanTail offset (i + 1) none bs
        return ((b, n) :: symbols, pads)

/-- The bytes of the last group, which starts at an offset and has at most four symbols. -/
def decodeTail (offset : Nat) (bs : Bytes) : Except Fault Bytes := do
  if bs = [] then return []
  let (symbols, pads) ← scanTail offset 0 none bs
  if symbols.length < 2 then throw (.length (offset + symbols.length))
  if (symbols.length + pads) % 4 ≠ 0 then throw .padding
  match symbols with
  | [(_, x), (last, y)] =>
    if y % 16 ≠ 0 then throw (.lastSymbol last (offset + 1))
    return (threeBytes x y 0 0).take 1
  | [(_, x), (_, y), (last, z)] =>
    if z % 4 ≠ 0 then throw (.lastSymbol last (offset + 2))
    return (threeBytes x y z 0).take 2
  | (_, x) :: (_, y) :: (_, z) :: (_, w) :: _ => return threeBytes x y z w
  | _ => return []

/-- The bytes of the groups from an offset on; only the last group may hold padding. -/
def decodeGroups (offset : Nat) : Bytes → Except Fault Bytes
  | a :: b :: c :: d :: e :: rest => do
    let x ← digitAt offset a
    let y ← digitAt (offset + 1) b
    let z ← digitAt (offset + 2) c
    let w ← digitAt (offset + 3) d
    return threeBytes x y z w ++ (← decodeGroups (offset + 4) (e :: rest))
  | tail => decodeTail offset tail

/-- The buffer that a base64 text stands for. A stray byte after complete groups, such as a line
end, is reported before anything else. -/
def decode (bs : Bytes) : Except Fault Bytes :=
  match bs.getLast? with
  | some last =>
    if bs.length % 4 = 1 ∧ last ≠ pad ∧ digit? last = none then
      .error (.symbol last (bs.length - 1))
    else decodeGroups 0 bs
  | none => .ok []

end PathSeal.Base64
