import Concordance.Search.Scoring

/-! Scores at places. A place is the number of a document, or counts from the end if it is
negative; a place counted from the end has a summary but no text. -/
namespace Concordance

structure PlacedScore where
  place : Int
  score : Int
  matchCount : Nat
deriving DecidableEq, Inhabited, Repr

namespace Scoring

def scorePlace (α : Type) [Credit α] (s : Settings) (snapshot : Snapshot) (words : List Text)
    (query : Text) (variants : List (Text × List Text)) (place : Int) :
    Except Failure PlacedScore := do
  if 0 ≤ place then
    let scored ← scoreDocument α s snapshot place.toNat words query variants
    pure ⟨place, scored.score, scored.matchCount⟩
  else if words.isEmpty then pure ⟨place, 0, 0⟩
  else
    match (snapshot.numberAt? place).bind (snapshot.summaries[·]?) with
    | none => throw .noSuchDocument
    | some summary =>
      let (score, count) ← @scoreText α _ s [] summary words.eraseDups query variants
      pure ⟨place, score, count⟩

def placesBefore (a b : PlacedScore) : Bool :=
  b.score < a.score || (a.score == b.score && a.place ≤ b.place)

def rankPlaces (α : Type) [Credit α] (s : Settings) (snapshot : Snapshot) (words : List Text)
    (query : Text) (variants : List (Text × List Text)) (places : List Int) :
    Except Failure (List PlacedScore) := do
  let query := Text.trim (Text.lower query)
  let scored ← (places.eraseDups.mergeSort (· ≤ ·)).mapM
    (scorePlace α s snapshot words query variants)
  pure ((scored.filter fun d => 0 < d.score).mergeSort placesBefore)

end Scoring
end Concordance
