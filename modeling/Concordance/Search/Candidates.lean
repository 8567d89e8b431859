import Concordance.Analysis.Fuzzy
import Concordance.Index.Snapshot

/-! Candidates: the documents in which a query word is indexed, or a word it begins, or a variant of
it. -/
namespace Concordance

structure Candidates where
  docIds : List Nat
  variants : List (Text × List Text)
deriving DecidableEq, Inhabited, Repr

namespace Candidates

def extensions (s : Settings) (snapshot : Snapshot) (word : Text) : List Text :=
  if s.minPrefixLength ≤ word.length then snapshot.wordsWithPrefix word else []

def variantsOf (s : Settings) (snapshot : Snapshot) (fuzzy : Bool) (word : Text) : List Text :=
  if fuzzy && s.minFuzzyLength ≤ word.length then Fuzzy.variants word snapshot.vocabulary else []

def indexedWords (s : Settings) (snapshot : Snapshot) (fuzzy : Bool) (word : Text) : List Text :=
  word :: (extensions s snapshot word ++ variantsOf s snapshot fuzzy word)

def find (s : Settings) (snapshot : Snapshot) (words : List Text) (fuzzy : Bool) : Candidates :=
  let distinct := words.eraseDups
  let ids := distinct.flatMap fun w =>
    (indexedWords s snapshot fuzzy w).flatMap snapshot.postings
  { docIds := snapshot.docIds.filter ids.contains
    variants := distinct.filterMap fun w =>
      let found := variantsOf s snapshot fuzzy w
      if found.isEmpty then none else some (w, found) }

end Candidates
end Concordance
