/-! Membership in a class of characters given by ascending ranges of code points. -/
namespace Concordance.Unicode

/-- Whether a code point lies in one of the ranges. They ascend, so the first range that starts
above it ends the search. -/
def covered : List (Nat × Nat) → Nat → Bool
  | [], _ => false
  | (first, last) :: rest, code => first ≤ code && (code ≤ last || covered rest code)

end Concordance.Unicode
