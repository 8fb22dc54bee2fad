import PathSeal.Pattern.Reader

/-!
# PathSeal.Pattern

Patterns for whole texts. A pattern holds of a text if the match that it prefers
at the start of the text ends at the end of the text; that another match would
end there does not help.
-/

namespace PathSeal

/-- A pattern, as it was written and as it was read. -/
structure Pattern where
  text : List Char
  expr : Pattern.Expr
deriving DecidableEq

namespace Pattern

/-- The text of a fault. -/
def Fault.message : Fault → String
  | malformed => "error building NFA"
  | wordEdge =>
    "unsupported regex feature for DFAs: cannot build DFAs for regexes with Unicode word " ++
      "boundaries; switch to ASCII word boundaries, or heuristically enable Unicode word " ++
      "boundaries or use a different regex engine"

/-- The pattern that is written in some characters. -/
def ofChars (text : List Char) : Except Fault Pattern :=
  (Expr.ofChars text).map fun expr => ⟨text, expr⟩

/-- Whether a pattern holds of a text. -/
def holds (p : Pattern) (text : String) : Bool :=
  p.expr.matchesWhole text.toList

end Pattern
end PathSeal
