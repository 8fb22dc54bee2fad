import PathSeal.Text.Lowercase

/-!
# PathSeal.Text.CaseVariants

Characters that differ only in case (Unicode 17, simple case folding): each is
compared by its small form, and a few small letters have second forms that count
as the same letter, such as the final sigma.
-/

namespace PathSeal.Text

/-- The second forms of small letters, each with the letter that it is a form of. -/
def secondForms : List (Nat × Nat) :=
  [(0xb5, 0x3bc), (0x17f, 0x73), (0x345, 0x3b9), (0x3c2, 0x3c3), (0x3d0, 0x3b2), (0x3d1, 0x3b8),
    (0x3d5, 0x3c6), (0x3d6, 0x3c0), (0x3f0, 0x3ba), (0x3f1, 0x3c1), (0x3f5, 0x3b5),
    (0x1c80, 0x432), (0x1c81, 0x434), (0x1c82, 0x43e), (0x1c83, 0x441), (0x1c84, 0x442),
    (0x1c85, 0x442), (0x1c86, 0x44a), (0x1c87, 0x463), (0x1c88, 0xa64b), (0x1e9b, 0x1e61),
    (0x1fbe, 0x3b9), (0x1fd3, 0x390), (0x1fe3, 0x3b0), (0xfb06, 0xfb05)]

/-- The character that stands for all that differ from a character only in case. -/
def folded (c : Char) : Char :=
  match secondForms.lookup c.toNat with
  | some code => Char.ofNat code
  | none => match lowerChar c with
    | [small] => small
    | _ => c

/-- The capital in a run whose small form is a given code point. -/
def CaseRun.capital? (run : CaseRun) (small : Nat) : Option Char :=
  let capital := Char.ofNat ((small : Int) - run.offset).toNat
  if run.holds capital ∧ (capital.toNat : Int) + run.offset = small then some capital else none

/-- All characters that differ from a character at most in case. -/
def caseVariants (c : Char) : List Char :=
  let small := folded c
  let capitals := caseRuns.toList.filterMap (·.capital? small.toNat)
  let others := secondForms.filter fun (_, main) => main == small.toNat
  small :: capitals ++ others.map fun (form, _) => Char.ofNat form

end PathSeal.Text
