import PathSeal.Decimal.Floating
import PathSeal.Decimal.Whole
import PathSeal.Json.Lexical
import PathSeal.Text.Split

/-!
# PathSeal.Json.Outline

A reading of JSON that keeps the members of the outermost object and passes over
whatever is nested in them. It is lenient about what it passes over: escapes in
strings are not looked at, and numbers may begin with zeros or end in a point.

A text is cut into tokens first; the outline is what one pass over the tokens
leaves behind (`Pass.step`).
-/

namespace PathSeal.Json

/-! ## Tokens -/

/-- A token. The characters of a string are kept as they are written. -/
inductive Token where
  | openObject
  | closeObject
  | openList
  | closeList
  | comma
  | colon
  | text (raw : List Char)
  | null
  /-- A number or a truth value. -/
  | scalar
  /-- Something that is no token; nothing follows it. -/
  | malformed
deriving DecidableEq

/-- Takes a string up to its closing quote, with the characters so far in reverse. -/
def rawString? (taken : List Char) : List Char → Option (List Char × List Char)
  | [] => none
  | '"' :: cs => some (taken.reverse, cs)
  | '\\' :: c :: cs => rawString? (c :: '\\' :: taken) cs
  | c :: cs => if c.toNat < 0x20 then none else rawString? (c :: taken) cs

/-- The characters of a number without its sign, and what follows them. A sign may follow the letter
of an exponent. -/
def spanNumber : List Char → List Char × List Char
  | [] => ([], [])
  | c :: cs =>
    if c = 'e' ∨ c = 'E' then
      match cs with
      | '+' :: cs => (spanNumber cs).map ([c, '+'] ++ ·) id
      | '-' :: cs => (spanNumber cs).map ([c, '-'] ++ ·) id
      | cs => (spanNumber cs).map (c :: ·) id
    else if isDigit c ∨ c = '.' then (spanNumber cs).map (c :: ·) id
    else ([], c :: cs)

/-- Whether a text is a number without a sign: a whole number of 64 bits, or one with a fraction or
an exponent. -/
def isLooseNumber (cs : List Char) : Bool :=
  if cs.all isDigit then cs ≠ [] && Decimal.ofDigits cs ≤ maxWhole else Decimal.isUnsigned cs

/-- Takes a token that begins with a character. -/
def token (c : Char) (cs : List Char) : Token × List Char :=
  let named (name : List Char) (t : Token) : Token × List Char :=
    match Text.dropPrefix? name cs with
    | some rest => (t, rest)
    | none => (.malformed, [])
  let number (cs : List Char) : Token × List Char :=
    let (digits, rest) := spanNumber cs
    if isLooseNumber digits then (.scalar, rest) else (.malformed, [])
  match c with
  | '\x7b' => (.openObject, cs)
  | '\x7d' => (.closeObject, cs)
  | '[' => (.openList, cs)
  | ']' => (.closeList, cs)
  | ',' => (.comma, cs)
  | ':' => (.colon, cs)
  | 'n' => named ['u', 'l', 'l'] .null
  | 't' => named ['r', 'u', 'e'] .scalar
  | 'f' => named ['a', 'l', 's', 'e'] .scalar
  | '-' => number cs
  | '"' => match rawString? [] cs with
    | some (raw, rest) => (.text raw, rest)
    | none => (.malformed, [])
  | c => if isDigit c then number (c :: cs) else (.malformed, [])

/-- The tokens of a text, up to the first thing that is none. -/
def tokens : (fuel : Nat) → List Char → List Token
  | 0, _ => []
  | fuel + 1, cs =>
    match skipBlanks cs with
    | [] => []
    | c :: cs =>
      let (t, rest) := token c cs
      t :: tokens fuel rest

/-! ## Members -/

/-- The value of a member, as far as it is kept. -/
inductive Leaf where
  | text (raw : List Char)
  | null
  | other
deriving DecidableEq

/-- A member of an object, its key as it is written. -/
structure Member where
  key : List Char
  value : Leaf
deriving DecidableEq

/-- What written characters stand for, if their escapes are right. -/
def unescaped? (raw : List Char) : Option String :=
  match string (raw ++ ['"']) with
  | .ok (cs, []) => some (String.ofList cs)
  | _ => none

/-! ## One pass over the tokens -/

/-- What may come next. -/
inductive Spot where
  | value
  | valueOrEnd
  | keyOrEnd
  | key
  | colon
  | commaOrEnd
deriving DecidableEq

/-- A list or an object that is open. -/
inductive Container where
  | list
  | object
deriving DecidableEq

/-- Where a pass stands: what may come next, the containers that are open with the innermost first,
the last key of the outermost object, and its members so far in reverse. -/
structure Pass where
  spot : Spot
  containers : List Container
  key : List Char
  members : List Member

/-- As many containers may be open inside a member. -/
def maxNesting : Nat := 512

namespace Pass

/-- The start of a pass. -/
def start : Pass := ⟨.value, [], [], []⟩

/-- Notes a value that begins; it belongs to a member if only one container is open. -/
def noted (p : Pass) (leaf : Leaf) : Pass :=
  if p.containers = [.object] then { p with members := ⟨p.key, leaf⟩ :: p.members } else p

/-- Goes on after a value. -/
def done (p : Pass) : Pass := { p with spot := .commaOrEnd }

/-- Opens a container. -/
def opened (p : Pass) (c : Container) (spot : Spot) : Option Pass :=
  if maxNesting < p.containers.length then none
  else some { p.noted .other with spot, containers := c :: p.containers }

/-- Closes the innermost container, which must be of a kind. -/
def closed (p : Pass) (c : Container) : Option Pass :=
  match p.containers with
  | innermost :: rest =>
    if innermost = c then some { p with spot := .commaOrEnd, containers := rest } else none
  | [] => none

/-- Takes a key. -/
def keyed (p : Pass) (raw : List Char) : Pass :=
  { p with spot := .colon, key := if p.containers = [.object] then raw else p.key }

/-- Takes a token where a value may begin. -/
def beginValue (p : Pass) : Token → Option Pass
  | .text raw => some (p.noted (.text raw)).done
  | .null => some (p.noted .null).done
  | .scalar => some (p.noted .other).done
  | .openObject => p.opened .object .keyOrEnd
  | .openList => p.opened .list .valueOrEnd
  | _ => none

/-- Takes a token. -/
def step (p : Pass) (t : Token) : Option Pass :=
  match p.spot, t with
  | .value, t => p.beginValue t
  | .valueOrEnd, .closeList => p.closed .list
  | .valueOrEnd, t => p.beginValue t
  | .keyOrEnd, .closeObject => p.closed .object
  | .keyOrEnd, .text raw | .key, .text raw => some (p.keyed raw)
  | .colon, .colon => some { p with spot := .value }
  | .commaOrEnd, .closeList => p.closed .list
  | .commaOrEnd, .closeObject => p.closed .object
  | .commaOrEnd, .comma =>
    match p.containers with
    | .list :: _ => some { p with spot := .value }
    | .object :: _ => some { p with spot := .key }
    | [] => none
  | _, _ => none

/-- Whether a pass has ended: one whole value has been taken. -/
def isOver (p : Pass) : Bool :=
  p.spot == .commaOrEnd && p.containers == []

end Pass

/-! ## Outlines -/

/-- What a text holds at its outermost level. -/
inductive Outline where
  /-- Nothing but blanks. -/
  | blank
  | object (members : List Member)
  /-- It begins with a value that is no object; what follows is not looked at. -/
  | other
  | malformed
deriving DecidableEq

/-- The outline of a text. -/
def Outline.ofText (s : String) : Outline :=
  let cs := s.toList
  match tokens (cs.length + 1) cs with
  | [] => .blank
  | .openObject :: ts =>
    match (Token.openObject :: ts).foldlM Pass.step .start with
    | some p => if p.isOver then .object p.members.reverse else .malformed
    | none => .malformed
  | t :: _ => if (Pass.start.beginValue t).isSome then .other else .malformed

end PathSeal.Json
