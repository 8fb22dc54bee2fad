import PathSeal.Pattern.Expr
import PathSeal.Text.Hex

/-!
# PathSeal.Pattern.Reader

Reading pattern expressions. What a character means depends on flags, which a
group may set: for itself, as in `(?i:a)`, or for the rest of the group around
it, as in `a(?i)b`.

There are no counts of repetitions such as `a{2}` and no other escapes with
braces: a pattern stands between braces itself, so one can never be complete.
Classes by Unicode property are not known either.
-/

namespace PathSeal.Pattern

/-- Why a text is no pattern that can be matched. -/
inductive Fault where
  | malformed
  /-- It asks for the edges of words in all scripts. -/
  | wordEdge
deriving DecidableEq

/-! ## Flags -/

/-- A flag. -/
inductive Flag where
  | anyCase
  | multiLine
  | dotAll
  | swapGreed
  | unicode
  | returns
  | spaced
deriving DecidableEq

/-- The flag of a letter. -/
def Flag.ofChar? : Char → Option Flag
  | 'i' => some anyCase
  | 'm' => some multiLine
  | 's' => some dotAll
  | 'U' => some swapGreed
  | 'u' => some unicode
  | 'R' => some returns
  | 'x' => some spaced
  | _ => none

/-- The flags that are set. -/
abbrev Flags := List Flag

/-- The flags at the start of a pattern. -/
def Flags.initial : Flags :=
  [.unicode]

/-- Flags that are turned on, and flags that are turned off. -/
structure Setting where
  on : List Flag
  off : List Flag
deriving DecidableEq

/-- The flags after a setting. -/
def Setting.apply (s : Setting) (flags : Flags) : Flags :=
  s.on ++ flags.filter (!s.off.contains ·)

/-- Takes the letters of a setting up to the character that ends it. Flags are turned off after a
minus sign, which a flag has to follow. -/
def setting (s : Setting) (off : Bool) : List Char → Except Fault (Setting × Char × List Char)
  | [] => .error .malformed
  | c :: cs =>
    if c = ':' ∨ c = ')' then
      if off ∧ s.off = [] then .error .malformed else .ok (s, c, cs)
    else if c = '-' then
      if off then .error .malformed else setting s true cs
    else match Flag.ofChar? c with
      | none => .error .malformed
      | some flag =>
        if s.on.contains flag ∨ s.off.contains flag then .error .malformed
        else if off then setting { s with off := flag :: s.off } off cs
        else setting { s with on := flag :: s.on } off cs

/-- Skips white space and comments. -/
def skipSpace (inComment : Bool) : List Char → List Char
  | [] => []
  | c :: cs =>
    if inComment then skipSpace (c != '\n') cs
    else if c = '#' then skipSpace true cs
    else if Text.isBlank c then skipSpace false cs
    else c :: cs

/-- Skips what counts for nothing in a spaced pattern. -/
def Flags.skip (flags : Flags) (cs : List Char) : List Char :=
  if flags.contains .spaced then skipSpace false cs else cs

/-- A set of characters as it counts under some flags. -/
def Flags.spread (flags : Flags) (s : CharSet) : CharSet :=
  if !flags.contains .anyCase then s
  else if flags.contains .unicode then .anyCase s
  else .intersection (.anyCase s) .ascii

/-- One character as it counts under some flags. -/
def Flags.literal (flags : Flags) (c : Char) : CharSet :=
  if flags.contains .unicode ∨ CharSet.ascii.contains c then flags.spread (.single c) else .single c

/-- What a set leaves out. Without the Unicode flag a pattern is about bytes, and other characters
than ASCII must not be cut. -/
def Flags.complement (flags : Flags) (s : CharSet) : Except Fault CharSet :=
  if flags.contains .unicode then .ok (.complement s) else .error .malformed

/-! ## Escapes -/

/-- What stands for one character, or for a condition on a place. -/
inductive Atom where
  | literal (c : Char)
  | set (s : CharSet)
  | anchor (a : Anchor)
  /-- The edge of a word in any script. -/
  | wordEdge
deriving DecidableEq

/-- Takes the hexadecimal digits of a code point. -/
def codePoint (flags : Flags) : (digits code : Nat) → List Char → Except Fault (Nat × List Char)
  | 0, code, cs => .ok (code, cs)
  | digits + 1, code, cs =>
    match flags.skip cs with
    | [] => .error .malformed
    | c :: cs => match Text.hexDigit? c with
      | some n => codePoint flags digits (16 * code + n) cs
      | none => .error .malformed

/-- Takes a character that is given by its code point. Two digits stand for a byte where the pattern
is about bytes. -/
def coded (flags : Flags) (digits : Nat) (cs : List Char) : Except Fault (Atom × List Char) := do
  let (code, cs) ← codePoint flags digits 0 cs
  if !code.isValidChar || (digits == 2 && code ≥ 0x80 && !flags.contains .unicode) then
    .error .malformed
  else .ok (.literal (Char.ofNat code), cs)

/-- An edge of a word. -/
def wordAnchor (flags : Flags) (a : Anchor) : Atom :=
  if flags.contains .unicode then .wordEdge else .anchor a

/-- Whether a character may stand after a backslash and mean itself. -/
def isEscapable (c : Char) : Bool :=
  CharSet.ascii.contains c && !c.isAlphanum && c != '<' && c != '>'

/-- Takes what follows a backslash. -/
def escape (flags : Flags) : List Char → Except Fault (Atom × List Char)
  | [] => .error .malformed
  | c :: cs =>
    let kind (all ascii : CharSet) : CharSet := if flags.contains .unicode then all else ascii
    let digit := kind .digits .asciiDigits
    let blank := kind .blanks .asciiBlanks
    let word := kind .wordChars .asciiWordChars
    match c with
    | 'x' => coded flags 2 cs
    | 'u' => coded flags 4 cs
    | 'U' => coded flags 8 cs
    | 'd' => .ok (.set digit, cs)
    | 's' => .ok (.set blank, cs)
    | 'w' => .ok (.set word, cs)
    | 'D' => (flags.complement digit).map fun s => (.set s, cs)
    | 'S' => (flags.complement blank).map fun s => (.set s, cs)
    | 'W' => (flags.complement word).map fun s => (.set s, cs)
    | 'a' => .ok (.literal '\x07', cs)
    | 'f' => .ok (.literal '\x0c', cs)
    | 't' => .ok (.literal '\t', cs)
    | 'n' => .ok (.literal '\n', cs)
    | 'r' => .ok (.literal '\r', cs)
    | 'v' => .ok (.literal '\x0b', cs)
    | 'A' => .ok (.anchor .textStart, cs)
    | 'z' => .ok (.anchor .textEnd, cs)
    | 'b' => .ok (wordAnchor flags .wordEdge, cs)
    | 'B' => .ok (wordAnchor flags .noWordEdge, cs)
    | '<' => .ok (wordAnchor flags .wordStart, cs)
    | '>' => .ok (wordAnchor flags .wordEnd, cs)
    | c => if isEscapable c then .ok (.literal c, cs) else .error .malformed

/-! ## Classes -/

/-- An operation on sets. -/
inductive SetOp where
  | intersection
  | difference
  | symmetric
deriving DecidableEq

/-- The set that an operation makes of two. -/
def SetOp.apply : SetOp → CharSet → CharSet → CharSet
  | intersection => .intersection
  | difference => .difference
  | symmetric => .symmetric

/-- A class that has been read in part: its operations so far, and the members after the last. -/
structure OpenClass where
  negated : Bool
  left : Option (CharSet × SetOp)
  members : CharSet
deriving DecidableEq

namespace OpenClass

/-- A class with more members. -/
def add (k : OpenClass) (s : CharSet) : OpenClass :=
  { k with members := k.members.union s }

/-- The set of what has been read, not negated. -/
def value (k : OpenClass) : CharSet :=
  match k.left with
  | some (left, op) => op.apply left k.members
  | none => k.members

/-- A class after an operator. -/
def operate (k : OpenClass) (op : SetOp) : OpenClass :=
  { k with left := some (k.value, op), members := .empty }

/-- The set of a class that has been closed. -/
def close (k : OpenClass) (flags : Flags) : Except Fault CharSet :=
  if k.negated then flags.complement k.value else .ok k.value

end OpenClass

/-- Takes the minus signs at the start of a class, which are members, or else a bracket there. -/
def leading (flags : Flags) (k : OpenClass) (first : Bool) : List Char → OpenClass × List Char
  | [] => (k, [])
  | c :: cs =>
    if flags.contains .spaced && Text.isBlank c then leading flags k first cs
    else if c = '-' then leading flags (k.add (flags.literal c)) false cs
    else if c = ']' ∧ first then (k.add (flags.literal c), cs)
    else (k, c :: cs)

/-- Takes the start of a class after its opening bracket. -/
def openClass (flags : Flags) (cs : List Char) : OpenClass × List Char :=
  match flags.skip cs with
  | '^' :: cs => leading flags ⟨true, none, .empty⟩ true (flags.skip cs)
  | cs => leading flags ⟨false, none, .empty⟩ true cs

/-- Takes a named set such as `[:alpha:]` or `[:^alpha:]` after its opening bracket, if there is
one. -/
def namedSet? (cs : List Char) : Option (Bool × CharSet × List Char) := do
  let (negated, cs) ← match cs with
    | ':' :: '^' :: cs => some (true, cs)
    | ':' :: cs => some (false, cs)
    | _ => none
  match cs.dropWhile (· != ':') with
  | ':' :: ']' :: rest => return (negated, ← CharSet.named? (cs.takeWhile (· != ':')), rest)
  | _ => none

/-- Takes one member of a class, or one end of a range. -/
def classAtom (flags : Flags) : List Char → Except Fault (Atom × List Char)
  | [] => .error .malformed
  | '\\' :: cs => escape flags cs
  | c :: cs => .ok (.literal c, cs)

/-- A character in a class; where the pattern is about bytes, ASCII only. -/
def classChar (flags : Flags) : Atom → Except Fault Char
  | .literal c =>
    if flags.contains .unicode ∨ CharSet.ascii.contains c then .ok c else .error .malformed
  | _ => .error .malformed

/-- The set of a member that is no range. -/
def classMember (flags : Flags) : Atom → Except Fault CharSet
  | .set s => .ok s
  | atom => (classChar flags atom).map flags.literal

/-- Takes a member of a class or a range of them. A minus sign before the closing bracket or before
another minus sign makes no range. -/
def classRange (flags : Flags) (cs : List Char) : Except Fault (CharSet × List Char) := do
  let (first, rest) ← classAtom flags cs
  match flags.skip rest with
  | '-' :: after =>
    match flags.skip after with
    | [] => .error .malformed
    | c :: after =>
      if c = ']' ∨ c = '-' then return (← classMember flags first, rest)
      let (last, rest) ← classAtom flags (c :: after)
      let first ← classChar flags first
      let last ← classChar flags last
      if first ≤ last then return (flags.spread (.range first last), rest) else .error .malformed
  | _ => return (← classMember flags first, rest)

/-- Takes a class up to its closing bracket, the class itself innermost of those that are open. -/
def classRest (flags : Flags) :
    (fuel : Nat) → (k : OpenClass) → (outer : List OpenClass) → List Char →
      Except Fault (CharSet × List Char)
  | 0, _, _, _ => .error .malformed
  | fuel + 1, k, outer, cs =>
    match flags.skip cs with
    | [] => .error .malformed
    | '[' :: cs =>
      match namedSet? cs with
      | some (negated, s, rest) => do
        let s := flags.spread s
        let s ← if negated then flags.complement s else .ok s
        classRest flags fuel (k.add s) outer rest
      | none =>
        let (inner, rest) := openClass flags cs
        classRest flags fuel inner (k :: outer) rest
    | ']' :: cs => do
      let s ← k.close flags
      match outer with
      | [] => return (s, cs)
      | k :: outer => classRest flags fuel (k.add s) outer cs
    | '&' :: '&' :: cs => classRest flags fuel (k.operate .intersection) outer cs
    | '-' :: '-' :: cs => classRest flags fuel (k.operate .difference) outer cs
    | '~' :: '~' :: cs => classRest flags fuel (k.operate .symmetric) outer cs
    | cs => do
      let (s, rest) ← classRange flags cs
      classRest flags fuel (k.add s) outer rest

/-- Takes a class after its opening bracket. -/
def charClass (flags : Flags) (cs : List Char) : Except Fault (CharSet × List Char) :=
  let (k, rest) := openClass flags cs
  classRest flags (cs.length + 1) k [] rest

/-! ## Groups -/

/-- What the start of a group says. -/
inductive Opening where
  | group (name : Option (List Char)) (s : Setting)
  /-- There is no group: the flags are for what follows. -/
  | setting (s : Setting)
deriving DecidableEq

/-- Whether a group may have a name. -/
def isGroupName : List Char → Bool
  | [] => false
  | c :: cs =>
    (c == '_' || Text.isAlphabetic c)
      && cs.all fun c => ['_', '.', '[', ']'].contains c || Text.isAlphanumeric c

/-- Takes the start of a group after its parenthesis. -/
def opening (flags : Flags) (cs : List Char) : Except Fault (Opening × List Char) :=
  let named (cs : List Char) : Except Fault (Opening × List Char) :=
    let name := cs.takeWhile (· != '>')
    match cs.dropWhile (· != '>') with
    | _ :: rest => if isGroupName name then .ok (.group name ⟨[], []⟩, rest) else .error .malformed
    | [] => .error .malformed
  match flags.skip cs with
  | '?' :: 'P' :: '<' :: cs => named cs
  | '?' :: '<' :: cs => named cs
  | '?' :: cs => do
    let (s, last, rest) ← setting ⟨[], []⟩ false cs
    if last = ':' then return (.group none s, rest)
    else if s = ⟨[], []⟩ then .error .malformed
    else return (.setting s, rest)
  | cs => .ok (.group none ⟨[], []⟩, cs)

/-! ## Expressions -/

/-- A group that has been read in part: the branches before, and the items of the last one in
reverse. A setting of flags is an item without an expression; it cannot be repeated. -/
structure OpenGroup where
  flags : Flags
  branches : Option Expr
  items : List (Option Expr)
deriving DecidableEq

namespace OpenGroup

/-- The start of a group. -/
def start (flags : Flags) : OpenGroup :=
  ⟨flags, none, []⟩

/-- A group with one more expression. -/
def add (g : OpenGroup) (e : Expr) : OpenGroup :=
  { g with items := some e :: g.items }

/-- The expression of what has been read. -/
def value (g : OpenGroup) : Expr :=
  let last := g.items.reverse.foldr (fun item e => match item with
    | some item => Expr.andThen item e
    | none => e) .empty
  match g.branches with
  | some branches => .orElse branches last
  | none => last

/-- A group at the start of its next branch. -/
def branch (g : OpenGroup) : OpenGroup :=
  { g with branches := some g.value, items := [] }

/-- A group whose last expression is repeated. -/
def repeatLast (g : OpenGroup) (form : Bool → Expr → Expr) (reluctant : Bool) :
    Except Fault OpenGroup :=
  match g.items with
  | some e :: items =>
    .ok { g with items := some (form (reluctant == g.flags.contains .swapGreed) e) :: items }
  | _ => .error .malformed

end OpenGroup

/-- A pattern that has been read in part. -/
structure Reader where
  /-- The innermost open group, or the pattern itself. -/
  group : OpenGroup
  outer : List OpenGroup
  names : List (List Char)
  /-- Whether it asks for the edges of words in all scripts. -/
  asksWordEdge : Bool
deriving DecidableEq

namespace Reader

/-- A reader that has taken an expression. -/
def add (r : Reader) (e : Expr) : Reader :=
  { r with group := r.group.add e }

/-- A reader that has taken what an escape stands for. -/
def addAtom (r : Reader) : Atom → Reader
  | .literal c => r.add (.char (r.group.flags.literal c))
  | .set s => r.add (.char s)
  | .anchor a => r.add (.anchor a)
  | .wordEdge => { r.add .empty with asksWordEdge := true }

/-- Takes the start of a group. -/
def enter (r : Reader) : Opening → Except Fault Reader
  | .setting s =>
    .ok { r with
      group := { r.group with flags := s.apply r.group.flags, items := none :: r.group.items } }
  | .group name s =>
    let inner := OpenGroup.start (s.apply r.group.flags)
    match name with
    | none => .ok { r with group := inner, outer := r.group :: r.outer }
    | some name =>
      if r.names.contains name then .error .malformed
      else .ok { r with group := inner, outer := r.group :: r.outer, names := name :: r.names }

/-- Takes the end of a group. -/
def leave (r : Reader) : Except Fault Reader :=
  match r.outer with
  | [] => .error .malformed
  | g :: outer => .ok { r with group := g.add r.group.value, outer }

/-- Takes a repetition of the last expression; a question mark makes it reluctant. -/
def again (r : Reader) (form : Bool → Expr → Expr) (cs : List Char) :
    Except Fault (Reader × List Char) := do
  let (reluctant, rest) := match cs with
    | '?' :: rest => (true, rest)
    | rest => (false, rest)
  return ({ r with group := ← r.group.repeatLast form reluctant }, rest)

/-- What a point matches: anything but the end of a line. Where the pattern is about bytes it would
cut characters. -/
def anyChar (flags : Flags) : Except Fault CharSet :=
  flags.complement <|
    if flags.contains .dotAll then .empty
    else if flags.contains .returns then .ofRanges [('\n', '\n'), ('\r', '\r')]
    else .single '\n'

/-- The start of a line or of the text. -/
def startAnchor (flags : Flags) : Anchor :=
  if !flags.contains .multiLine then .textStart
  else if flags.contains .returns then .returnLineStart else .lineStart

/-- The end of a line or of the text. -/
def endAnchor (flags : Flags) : Anchor :=
  if !flags.contains .multiLine then .textEnd
  else if flags.contains .returns then .returnLineEnd else .lineEnd

/-- Takes what begins with a character. -/
def step (r : Reader) (c : Char) (cs : List Char) : Except Fault (Reader × List Char) :=
  let flags := r.group.flags
  match c with
  | '(' => do
    let (o, rest) ← opening flags cs
    return (← r.enter o, rest)
  | ')' => r.leave.map (·, cs)
  | '|' => .ok ({ r with group := r.group.branch }, cs)
  | '[' => (charClass flags cs).map fun (s, rest) => (r.add (.char s), rest)
  | '?' => r.again .optional cs
  | '*' => r.again .many cs
  | '+' => r.again .oneOrMore cs
  | '\x7b' => .error .malformed
  | '\\' => (escape flags cs).map fun (a, rest) => (r.addAtom a, rest)
  | '.' => (anyChar flags).map fun s => (r.add (.char s), cs)
  | '^' => .ok (r.add (.anchor (startAnchor flags)), cs)
  | '$' => .ok (r.add (.anchor (endAnchor flags)), cs)
  | c => .ok (r.addAtom (.literal c), cs)

/-- Takes all characters. -/
def run : (fuel : Nat) → Reader → List Char → Except Fault Reader
  | 0, r, _ => .ok r
  | fuel + 1, r, cs =>
    match r.group.flags.skip cs with
    | [] => .ok r
    | c :: cs => do
      let (r, rest) ← r.step c cs
      run fuel r rest

/-- The pattern that has been read when all characters have been taken. -/
def finish (r : Reader) : Except Fault Expr :=
  if r.outer ≠ [] then .error .malformed
  else if r.asksWordEdge then .error .wordEdge
  else .ok r.group.value

end Reader

/-- The expression that a text stands for. -/
def Expr.ofChars (cs : List Char) : Except Fault Expr := do
  let r ← Reader.run (cs.length + 1) ⟨.start .initial, [], [], false⟩ cs
  r.finish

end PathSeal.Pattern
