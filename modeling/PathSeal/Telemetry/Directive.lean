import PathSeal.Decimal.Floating
import PathSeal.Decimal.Whole
import PathSeal.Pattern
import PathSeal.Text.Split

/-!
# PathSeal.Telemetry.Directive

The directives of a log filter: a level, a target, or a target and a level, as
in `sealer::retry=debug`. Between the two may stand, in brackets, the name of a
span and in braces a field that it has, with the value that is asked for:
`envelope[envelope.seal{key=local-kms://.*}]=debug`.
-/

namespace PathSeal.Telemetry

/-- The gravest and the least grave level that is let through, as a count: none, or the first few in
the order of gravity. -/
abbrev Threshold := Nat

/-- Lets nothing through. -/
def nothing : Threshold := 0

/-- Lets errors through. -/
def errorsOnly : Threshold := 1

/-- Lets everything through. -/
def everything : Threshold := 5

/-- The threshold that a text names. -/
def threshold? (cs : List Char) : Option Threshold :=
  match Decimal.whole? cs with
  | some n => if n ≤ everything then some n else none
  | none =>
    match String.ofList (cs.map Char.toLower) with
    | "" => some errorsOnly
    | "off" => some nothing
    | "error" => some errorsOnly
    | "warn" => some 2
    | "info" => some 3
    | "debug" => some 4
    | "trace" => some everything
    | _ => none

/-! ## Fields -/

/-- What is asked of the value of a field. -/
inductive Expected where
  | count (n : Nat)
  | text (p : Pattern)
  /-- A truth value or another number, which no field has. -/
  | nothing
deriving DecidableEq

/-- The largest count. -/
def maxCount : Nat := 0xffffffffffffffff

/-- What a text asks of a value: whatever is no truth value and no number is a pattern. -/
def Expected.ofChars (cs : List Char) : Except Pattern.Fault Expected :=
  match Decimal.whole? cs with
  | some n => .ok (if n ≤ maxCount then .count n else .nothing)
  | none =>
    if cs = "true".toList ∨ cs = "false".toList ∨ Decimal.isFloating cs then .ok .nothing
    else (Pattern.ofChars cs).map .text

/-- A field that is asked for, with its value or with any. -/
structure Field where
  name : List Char
  value : Option Expected
deriving DecidableEq

/-- The field that a text asks for: a name, or a name and a value after an equals sign. Another
equals sign ends the value. -/
def Field.ofChars (cs : List Char) : Except Pattern.Fault Field :=
  match Text.fields (· == '=') cs with
  | name :: value :: _ => (Expected.ofChars value).map fun value => ⟨name, some value⟩
  | _ => .ok ⟨cs, none⟩

/-! ## Directives -/

/-- A directive. -/
structure Directive where
  /-- What the target of an event begins with; any target if absent. -/
  target : Option (List Char)
  /-- The name of the span; any span if absent. -/
  span : Option (List Char)
  field : Option Field
  threshold : Threshold
deriving DecidableEq

/-- Why a text is no directive. -/
inductive DirectiveFault where
  | malformed
  | level
  | field (e : Pattern.Fault)
deriving DecidableEq

/-- The text of a fault of a directive. -/
def DirectiveFault.message : DirectiveFault → String
  | malformed => "invalid filter directive"
  | level =>
    "error parsing level filter: expected one of \"off\", \"error\", \"warn\", \"info\", " ++
      "\"debug\", \"trace\", or a number 0-5"
  | field e => s!"invalid field filter: {e.message}"

namespace Directive

/-- How far a directive has been read; the numbers are where a part begins. -/
inductive Reading where
  | start
  | levelOrTarget (first : Nat)
  | span (first : Nat)
  | field (first : Nat)
  | fields
  | target
  | level (first : Nat)
deriving DecidableEq

/-- The characters of a text from one place to another. -/
def slice (text : List Char) (first last : Nat) : List Char :=
  (text.drop first).take (last - first)

/-- Whether a directive may begin with a character. -/
def mayBegin (c : Char) : Bool :=
  c == '-' || c == ':' || c == '_' || Text.isAlphanumeric c

/-- Takes the character at a place of a directive. -/
def readChar (text : List Char) (d : Directive) (state : Reading) (i : Nat) (c : Char) :
    Except DirectiveFault (Directive × Reading) :=
  match state with
  | .start =>
    if c = '[' then .ok (d, .span (i + 1))
    else if mayBegin c then .ok (d, .levelOrTarget i)
    else .error .malformed
  | .levelOrTarget first =>
    if c = '=' then .ok ({ d with target := some (slice text first i) }, .level (i + 1))
    else if c = '[' then .ok ({ d with target := some (slice text first i) }, .span (i + 1))
    else .ok (d, .levelOrTarget first)
  | .span first =>
    let name := slice text first i
    if c = ']' then .ok ({ d with span := some name }, .target)
    else if c = '\x7b' then
      .ok ({ d with span := if name = [] then none else some name }, .field (i + 1))
    else .ok (d, .span first)
  | .field first =>
    if c = '\x7d' then
      if first = i then .error .malformed
      else match Field.ofChars (slice text first i) with
        | .ok field => .ok ({ d with field := some field }, .fields)
        | .error e => .error (.field e)
    else .ok (d, .field first)
  | .fields => if c = ']' then .ok (d, .target) else .error .malformed
  | .target => if c = '=' then .ok (d, .level (i + 1)) else .error .malformed
  | .level first => .ok (d, .level first)

/-- Takes what is left when all characters have been taken. -/
def finish (text : List Char) (d : Directive) : Reading → Except DirectiveFault Directive
  | .levelOrTarget first =>
    let rest := text.drop first
    match threshold? rest with
    | some threshold => .ok { d with threshold }
    | none => .ok { d with target := some rest }
  | .level first =>
    let rest := text.drop first
    if rest = [] then .ok d
    else match threshold? rest with
      | some threshold => .ok { d with threshold }
      | none => .error .level
  | .target => .ok d
  | _ => .error .malformed

/-- The directive that a text stands for. Places count in the text with its white space, while the
characters around it do not count. -/
def ofChars (text : List Char) : Except DirectiveFault Directive := do
  let (d, state) ← (Text.trimChars text).zipIdx.foldlM
    (fun (d, state) (c, i) => readChar text d state i c)
    (⟨none, none, none, everything⟩, Reading.start)
  finish text d state

/-- Whether a directive asks for a span or a field. -/
def isDynamic (d : Directive) : Bool :=
  d.span.isSome || d.field.isSome

/-- Whether a directive asks for the value of a field. -/
def asksValue (d : Directive) : Bool :=
  d.field.any (·.value.isSome)

/-- Whether a directive is for some target. -/
def concerns (d : Directive) (target : String) : Bool :=
  (Text.dropPrefix? (d.target.getD []) target.toList).isSome

/-- Whether two directives are about the same. -/
def sameSubject (a b : Directive) : Bool :=
  a.target == b.target && a.span == b.span && a.field == b.field

end Directive
end PathSeal.Telemetry
