import PathSeal.Pattern.CharSet

/-!
# PathSeal.Pattern.Expr

Pattern expressions and what they match. At every place of a text an expression
has lengths of text that it matches from there on, in an order of preference: an
earlier branch before a later one, and one more repetition before none, or after
it if the repetition is reluctant.

The lengths are worked out for all places at once, one row for each place, so
that an expression is looked at once only.
-/

namespace PathSeal.Pattern

/-! ## Places -/

/-- A place in a text: the characters on its two sides. -/
structure Place where
  before : Option Char
  after : Option Char
deriving DecidableEq

/-- The places of a text from its start to its end. -/
def places (text : List Char) : List Place :=
  List.zipWith Place.mk (none :: text.map some) (text.map some ++ [none])

/-- A condition on a place. Words are made of ASCII characters. -/
inductive Anchor where
  | textStart
  | textEnd
  | lineStart
  | lineEnd
  /-- The start of a line where a carriage return ends a line as well. -/
  | returnLineStart
  /-- The end of a line where a carriage return ends a line as well. -/
  | returnLineEnd
  | wordEdge
  | noWordEdge
  | wordStart
  | wordEnd
deriving DecidableEq

/-- Whether a place fulfils a condition. -/
def Anchor.holds (a : Anchor) (p : Place) : Bool :=
  let isWord (c : Option Char) : Bool := c.any CharSet.asciiWordChars.contains
  match a with
  | textStart => p.before.isNone
  | textEnd => p.after.isNone
  | lineStart => p.before.all (· == '\n')
  | lineEnd => p.after.all (· == '\n')
  | returnLineStart =>
    p.before.all fun c => c == '\n' || (c == '\r' && p.after != some '\n')
  | returnLineEnd =>
    p.after.all fun c => c == '\r' || (c == '\n' && p.before != some '\r')
  | wordEdge => isWord p.before != isWord p.after
  | noWordEdge => isWord p.before == isWord p.after
  | wordStart => !isWord p.before && isWord p.after
  | wordEnd => isWord p.before && !isWord p.after

/-! ## Expressions -/

/-- A pattern expression. A repetition is greedy or reluctant. -/
inductive Expr where
  | empty
  /-- One character of a set. -/
  | char (s : CharSet)
  | anchor (a : Anchor)
  | andThen (first second : Expr)
  | orElse (first second : Expr)
  /-- Once or not at all. -/
  | optional (greedy : Bool) (e : Expr)
  /-- Any number of times. -/
  | many (greedy : Bool) (e : Expr)
  /-- Once or more. -/
  | oneOrMore (greedy : Bool) (e : Expr)
deriving DecidableEq

/-- For every place of a text the lengths that are matched from there on, the preferred first. -/
abbrev Rows := List (List Nat)

namespace Rows

/-- The lengths of two matches in a row. -/
def andThen : Rows → Rows → Rows
  | row :: rows, later =>
    (row.flatMap fun n => (later.getD n []).map (n + ·)).eraseDups :: andThen rows (later.drop 1)
  | [], _ => []

/-- The lengths of any number of matches in a row. A match of nothing is the last one. -/
def repeated (greedy : Bool) : Rows → Rows
  | row :: rows =>
    let later := repeated greedy rows
    let more := row.flatMap fun
      | 0 => [0]
      | n + 1 => (later.getD n []).map (n + 1 + ·)
    (if greedy then more ++ [0] else 0 :: more).eraseDups :: later
  | [] => []

end Rows

namespace Expr

/-- The lengths that an expression matches at some places of a text. -/
def rows (places : List Place) : Expr → Rows
  | empty => places.map fun _ => [0]
  | char s => places.map fun p => if p.after.any s.contains then [1] else []
  | anchor a => places.map fun p => if a.holds p then [0] else []
  | andThen first second => (first.rows places).andThen (second.rows places)
  | orElse first second =>
    List.zipWith (fun a b => (a ++ b).eraseDups) (first.rows places) (second.rows places)
  | optional greedy e =>
    (e.rows places).map fun row => (if greedy then row ++ [0] else 0 :: row).eraseDups
  | many greedy e => (e.rows places).repeated greedy
  | oneOrMore greedy e =>
    let once := e.rows places
    once.andThen (once.repeated greedy)

/-- Whether the match that an expression prefers at the start of a text is the whole text. -/
def matchesWhole (e : Expr) (text : List Char) : Bool :=
  match e.rows (places text) with
  | (n :: _) :: _ => n == text.length
  | _ => false

end Expr
end PathSeal.Pattern
