import PathSeal.Log
import PathSeal.Telemetry.Directive

/-!
# PathSeal.Telemetry.Filter

Which log events are written. A filter is a list of directives with commas
between them, such as `info,sealer::retry=debug`.

An event is written for either of two reasons. Of the directives that ask for no
span and no value, the most special one that concerns the event decides by
itself (`Filter.admitsPlain`). And a directive that asks for a span or a field
lets through events within such a span (`Filter.admitsWithin`).
-/

namespace PathSeal.Telemetry

/-- A filter: directives, the later of which replace earlier ones about the same. -/
structure Filter where
  directives : List Directive

namespace Filter

/-! ## Reading -/

/-- The filter of some directives; without any, errors only. -/
def ofDirectives (directives : List Directive) : Filter :=
  if directives = [] then ⟨[⟨none, none, none, errorsOnly⟩]⟩ else ⟨directives⟩

/-- The non-empty parts between commas. -/
def parts (text : String) : List (List Char) :=
  (Text.fields (· == ',') text.toList).filter (· ≠ [])

/-- The filter of a text in which every directive is right. -/
def strict? (text : String) : Option Filter :=
  match (parts text).mapM Directive.ofChars with
  | .ok directives => some (ofDirectives directives)
  | .error _ => none

/-- The filter of those directives in a text that are right, and the complaints about the others. -/
def lenient (text : String) : Filter × List String :=
  let read := (parts text).map fun part => (part, Directive.ofChars part)
  let directives := read.filterMap fun (_, d) => d.toOption
  let complaints := read.filterMap fun (part, d) => match d with
    | .ok _ => none
    | .error e => some s!"ignoring \x60{String.ofList part}\x60: {e.message}"
  (ofDirectives directives, complaints)

/-! ## Levels -/

/-- The greatest of some thresholds. -/
def greatest (thresholds : List Threshold) : Threshold :=
  thresholds.foldl max nothing

/-- Beyond this nothing is looked at, neither an event nor a span. The value of a field is only
known when its span begins, so if one is asked for, all spans have to be looked at. -/
def horizon (f : Filter) : Threshold :=
  if f.directives.any (·.asksValue) then everything
  else greatest (f.directives.map (·.threshold))

/-! ## Events by themselves -/

/-- The names of the fields of an event, its message included. -/
def fieldNames (e : Log.Event) : List String :=
  "message" :: e.fields.map (·.1)

/-- Whether a directive decides about an event by itself. -/
def decides (d : Directive) (e : Log.Event) : Bool :=
  d.span.isNone && !d.asksValue && d.concerns e.target
    && d.field.all fun field => (fieldNames e).contains (String.ofList field.name)

/-- Whether one directive about an event is at least as special as another: it has the longer
target, or a field, or the later field in the order of names. -/
def asSpecial (a b : Directive) : Bool :=
  let length (d : Directive) : Nat := match d.target with
    | some target => target.length + 1
    | none => 0
  let name (d : Directive) : List Char := match d.field with
    | some field => '\x00' :: field.name
    | none => []
  length b < length a || (length a == length b && !(name a).lex (name b) (· < ·))

/-- Of two directives the one that decides: the more special, or the later. -/
def preferSpecial (best : Option Directive) (d : Directive) : Option Directive :=
  match best with
  | some b => if asSpecial d b then some d else some b
  | none => some d

/-- Whether an event is written by itself. -/
def admitsPlain (f : Filter) (e : Log.Event) : Bool :=
  match (f.directives.filter (decides · e)).foldl preferSpecial none with
  | some d => e.level.rank ≤ d.threshold
  | none => false

/-! ## Events within spans -/

/-- The directives that ask for a span or a field, without those that were replaced. -/
def dynamic (f : Filter) : List Directive :=
  (f.directives.filter (·.isDynamic)).foldl
    (fun kept d => kept.filter (!d.sameSubject ·) ++ [d]) []

/-- Whether a directive is about a span; it asks for nothing that the span does not have. -/
def watches (d : Directive) (s : Log.Span) : Bool :=
  d.concerns s.target && d.span.all (String.ofList · == s.name)
    && d.field.all fun field => (s.fields.map (·.1)).contains (String.ofList field.name)

/-- Whether a value is as expected. -/
def isAsExpected : Expected → Log.Value → Bool
  | .count n, .count m => n == m
  | .text p, .text s => p.holds s
  | _, _ => false

/-- Whether a span has the value that a directive about it asks for. -/
def hasValue (d : Directive) (s : Log.Span) : Bool :=
  match d.field with
  | some ⟨name, some expected⟩ =>
    (s.fields.lookup (String.ofList name)).any (isAsExpected expected)
  | _ => true

/-- What a span lets through of the events within it, if some directive is about it. -/
def spanThreshold? (f : Filter) (s : Log.Span) : Option Threshold :=
  let about := f.dynamic.filter (watches · s)
  if about = [] then none
  else some (greatest ((about.filter (hasValue · s)).map (·.threshold)))

/-- Whether an event is written because of a span that it is within. -/
def admitsWithin (f : Filter) (e : Log.Event) : Bool :=
  e.within.any fun s =>
    s.level.rank ≤ f.horizon && (f.spanThreshold? s).any (e.level.rank ≤ ·)

/-- Whether an event is written. -/
def admits (f : Filter) (e : Log.Event) : Bool :=
  e.level.rank ≤ f.horizon && (f.admitsPlain e || f.admitsWithin e)

end Filter
end PathSeal.Telemetry
