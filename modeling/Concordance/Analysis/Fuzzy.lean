import Concordance.Text.Basic

/-! Words one edit apart. Both words are walked together; a mismatch is taken for a surplus
character of the first word, then for one of the second, then for a replacement, whichever first
makes the next characters agree, and the walk ends early once the bound is passed. -/
namespace Concordance.Fuzzy

def walk (bound edits : Nat) : Text → Text → Nat
  | [], b => edits + b.length
  | a, [] => edits + a.length
  | x :: a, y :: b =>
    if x = y then walk bound edits a b
    else if bound < edits + 1 then edits + 1
    else if a.head? = some y then walk bound (edits + 1) (a.drop 1) b
    else if b.head? = some x then walk bound (edits + 1) a (b.drop 1)
    else walk bound (edits + 1) a b
termination_by a b => a.length + b.length
decreasing_by all_goals (simp only [List.length_cons, List.length_drop]; omega)

/-- The approximate edit distance. A result above the bound is only a lower bound. -/
def distance (a b : Text) (bound : Nat := 1) : Nat := walk bound 0 a b

def maxLengthDifference : Nat := 2

/-- Whether a word is a misspelling of another by one edit. Words that contain the other, or are
equal to it, are not. -/
def isVariant (query target : Text) : Bool :=
  (query.length - target.length) + (target.length - query.length) ≤ maxLengthDifference &&
    !Text.occursIn query target && distance query target ≤ 1

def variants (query : Text) (vocabulary : List Text) : List Text :=
  if query.isEmpty then [] else vocabulary.filter (isVariant query)

end Concordance.Fuzzy
