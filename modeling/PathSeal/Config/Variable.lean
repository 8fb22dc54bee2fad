import PathSeal.Decimal.Whole
import PathSeal.Text.Blank
import PathSeal.Text.Lowercase

/-!
# PathSeal.Config.Variable

The names of variables. The name of a setting, in any case, is a variable that
holds its text. A place inside the setting may follow the name: `.key` for a
member of a table, `[index]` for an element of a list. What variables make of a
setting is a text, a table or a list, and the last of them decides which
(`Content.put`).
-/

namespace PathSeal.Config

/-- A place inside a setting. -/
inductive Place where
  | member (key : String)
  | element
deriving DecidableEq

/-- A variable: the setting it belongs to, and the places inside it from the outermost on. -/
structure Variable where
  setting : String
  places : List Place
deriving DecidableEq

/-! ## Reading names -/

/-- Whether a character may occur in the name of a setting or the key of a member. -/
def isNameChar (c : Char) : Bool :=
  c.isAlphanum || c == '_' || c == '-' || c == ' '

/-- Whether a text between brackets is the index of an element: a whole number of 64 bits with a
sign, and blanks around it. -/
def isIndex (cs : List Char) : Bool :=
  let cs := Text.stripEnds (fun c => c == ' ' || c == '\t') cs
  let (limit, digits) := match cs with
    | '-' :: digits => (UInt64.size / 2, digits)
    | digits => (UInt64.size / 2 - 1, digits)
  digits ≠ [] && digits.all Char.isDigit && Decimal.ofDigits digits ≤ limit

/-- The places that follow the name of a setting. -/
def places? : List Char → Option (List Place)
  | [] => some []
  | '.' :: cs =>
    let key := cs.takeWhile isNameChar
    if key = [] then none
    else (places? (cs.dropWhile isNameChar)).map (.member (String.ofList key) :: ·)
  | '[' :: cs =>
    match _ : cs.dropWhile (· ≠ ']') with
    | ']' :: rest =>
      if isIndex (cs.takeWhile (· ≠ ']')) then (places? rest).map (.element :: ·) else none
    | _ => none
  | _ :: _ => none
termination_by cs => cs.length
decreasing_by
  · exact Nat.lt_succ_of_le (List.dropWhile_suffix isNameChar).length_le
  · rename_i h _
    have := (List.dropWhile_suffix (fun c => decide (c ≠ ']')) (l := cs)).length_le
    rw [h] at this
    simp only [List.length_cons] at this ⊢
    omega

/-- The variable that a name stands for. -/
def Variable.parse? (name : String) : Option Variable :=
  let cs := (Text.lowercase name).toList
  let setting := cs.takeWhile isNameChar
  if setting = [] then none
  else (places? (cs.dropWhile isNameChar)).map (⟨String.ofList setting, ·⟩)

/-! ## What variables hold -/

/-- What variables make of a setting. -/
inductive Content where
  | text (s : String)
  | table (keys : List String)
  | sequence
deriving DecidableEq

/-- The keys of a table; nothing else has any. -/
def Content.keys : Option Content → List String
  | some (.table keys) => keys
  | _ => []

/-- What a setting holds after a text was put at some places inside it. -/
def Content.put (content : Option Content) (places : List Place) (s : String) : Content :=
  match places with
  | [] => .text s
  | .member key :: _ => .table ((Content.keys content).filter (· ≠ key) ++ [key])
  | .element :: _ => .sequence

end PathSeal.Config
