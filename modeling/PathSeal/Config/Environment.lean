import PathSeal.Cipher.Aead
import PathSeal.Config.Error
import PathSeal.Config.Variable

/-!
# PathSeal.Config.Environment

Environment variables and the values in them. The case of a variable's name does
not count; of several spellings the last one in sorted order does, and a name
that stands for no variable is passed over. No value is trimmed, and an empty
one is a value.
-/

namespace PathSeal.Config

/-- The variables of an environment: their names and values. -/
abbrev Environment := List (String × String)

/-- What the variables make of a setting. -/
def content? (env : Environment) (setting : String) : Option Content :=
  (env.mergeSort fun a b => decide (a.1 ≤ b.1)).foldl (fun content (name, value) =>
    match Variable.parse? name with
    | some v => if v.setting = setting then some (.put content v.places value) else content
    | none => content) none

/-! ## Values -/

/-- The whole number below 2^64 that a text stands for. -/
def wholeNumber? (s : String) : Option UInt64 :=
  let small := Text.lowercase s
  if small = "true" ∨ small = "on" ∨ small = "yes" then some 1
  else if small = "false" ∨ small = "off" ∨ small = "no" then some 0
  else match Decimal.whole? s.toList with
    | some n => if n < UInt64.size then some n.toUInt64 else none
    | none => none

/-- The truth value that a text stands for. -/
def boolean? (s : String) : Option Bool :=
  let small := Text.lowercase s
  if small = "1" ∨ small = "true" ∨ small = "on" ∨ small = "yes" then some true
  else if small = "0" ∨ small = "false" ∨ small = "off" ∨ small = "no" then some false
  else none

/-- The algorithm that a text names, in any case. -/
def algorithm? (s : String) : Option Cipher.Algorithm :=
  Cipher.Algorithm.all.find? fun a => Text.lowercase a.name == Text.lowercase s

/-! ## Settings -/

/-- The text of a setting, if it is set; `kind` says what is expected of it. -/
def readText? (env : Environment) (kind name : String) : Except Error (Option String) :=
  match content? env name with
  | none => .ok none
  | some (.text s) => .ok (some s)
  | some (.table _) => .error (.value (.structured "map" kind name))
  | some .sequence => .error (.value (.structured "sequence" kind name))

/-- The text of a setting, or a default. -/
def readText (env : Environment) (name default : String) : Except Error String :=
  return (← readText? env "a string" name).getD default

/-- The whole number of a setting, or a default. -/
def readWhole (env : Environment) (name : String) (default : UInt64) : Except Error UInt64 := do
  match ← readText? env "an integer" name with
  | none => return default
  | some s => match wholeNumber? s with
    | some n => return n
    | none => throw (.value (.notA "an integer" s name))

/-- The whole number of a setting, which must have few bits, or a default. -/
def readNarrow (env : Environment) (name : String) (bits : Nat) (default : UInt64) :
    Except Error UInt64 := do
  let n ← readWhole env name default
  if n.toNat < 1 <<< bits then return n else throw (.value (.tooLarge bits n.toNat name))

/-- The truth value of a setting, or a default. -/
def readBoolean (env : Environment) (name : String) (default : Bool) : Except Error Bool := do
  match ← readText? env "a boolean" name with
  | none => return default
  | some s => match boolean? s with
    | some b => return b
    | none => throw (.value (.notA "a boolean" (Text.lowercase s) name))

/-- The algorithm of a setting, or the default one. It may also be named by the only key of a
table. -/
def readAlgorithm (env : Environment) (name : String) : Except Error Cipher.Algorithm :=
  match content? env name with
  | none => .ok default
  | some (.text s) | some (.table [s]) => match algorithm? s with
    | some a => .ok a
    | none => .error (.value (.unknownAlgorithm s))
  | some _ => .error (.value .notAName)

end PathSeal.Config
