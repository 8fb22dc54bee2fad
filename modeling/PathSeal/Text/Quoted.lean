import PathSeal.Text.Hex
import PathSeal.Text.Unprintable

/-!
# PathSeal.Text.Quoted

Texts in double quotes, as error messages and dumps show them. Whatever would
be invisible or ambiguous is escaped, everything else stands for itself.
-/

namespace PathSeal.Text

/-- One character inside quotes. -/
def quotedChar (c : Char) : List Char :=
  if c = '"' then ['\\', '"']
  else if c = '\\' then ['\\', '\\']
  else if c = '\n' then ['\\', 'n']
  else if c = '\r' then ['\\', 'r']
  else if c = '\t' then ['\\', 't']
  else if c.toNat = 0 then ['\\', '0']
  else if isPrintable c then [c]
  else ['\\', 'u', '\x7b'] ++ hexDigits c.toNat ++ ['\x7d']

/-- A text in double quotes. -/
def quoted (s : String) : String :=
  String.ofList ('"' :: s.toList.flatMap quotedChar ++ ['"'])

/-- A text that may be absent, as dumps of settings show it. -/
def quotedOption : Option String → String
  | some s => s!"Some({quoted s})"
  | none => "None"

end PathSeal.Text
