import Concordance.Text.Basic
import Concordance.Unicode.Alphanumeric

/-! Occurrences of a word in a text. Each leftmost non-overlapping occurrence is a whole word, the
beginning of a word, or inside one, by the characters on either side of it. -/
namespace Concordance

inductive Placement where
  | whole | leading | inner
deriving DecidableEq, Repr

structure WordHits where
  whole : Nat := 0
  leading : Nat := 0
  inner : Nat := 0
  first : Option Nat := none
deriving DecidableEq, Inhabited, Repr

namespace Placement

def opensAt (t : Text) (offset : Nat) : Bool :=
  offset == 0 || !(t[offset - 1]?).any Unicode.isWordChar

def closesAt (t : Text) (offset : Nat) : Bool := !(t[offset]?).any Unicode.isWordChar

def of (t : Text) (offset length : Nat) : Placement :=
  if opensAt t offset then (if closesAt t (offset + length) then whole else leading) else inner

end Placement

namespace WordHits

def found (hits : WordHits) : Bool := hits.first.isSome

/-- The occurrences of a word in a text; an empty word has none. -/
def of (word t : Text) : WordHits :=
  if word.isEmpty then {}
  else
    let offsets := Text.occurrences word t
    let placements := offsets.map fun i => Placement.of t i word.length
    { whole := placements.count .whole, leading := placements.count .leading,
      inner := placements.count .inner, first := offsets.head? }

end WordHits

namespace Text

def opensWithWord (word : Text) (before : Option Char) (t : Text) : Bool :=
  !before.any Unicode.isWordChar && word.isPrefixOf t &&
    !(t.drop word.length).head?.any Unicode.isWordChar

def hasWholeWordFrom (word : Text) (before : Option Char) : Text → Bool
  | [] => opensWithWord word before []
  | c :: rest => opensWithWord word before (c :: rest) || hasWholeWordFrom word (some c) rest

def hasWholeWord (word t : Text) : Bool := hasWholeWordFrom word none t

end Text
end Concordance
