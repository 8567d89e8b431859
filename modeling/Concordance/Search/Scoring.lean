import Concordance.Analysis.Occurrence
import Concordance.Search.Candidates
import Concordance.Search.Credit

/-! Scoring of candidates. Every occurrence of a query word earns credit by its placement, or a
variant of the word does at a discount; bonuses reward several words, the whole query, the first
words and an early match; long documents are damped. A score of zero is no match. -/
namespace Concordance

structure Scored where
  docId : Nat
  score : Int
  matchCount : Nat
deriving DecidableEq, Inhabited, Repr

namespace Scoring

def wordCredit (s : Settings) (hits : WordHits) : Nat :=
  hits.whole * s.exactWordWeight + hits.leading * s.prefixWordWeight +
    hits.inner * s.substringWeight

def positionBonus (s : Settings) : Option Nat → Nat
  | none => 0
  | some offset => s.positionBonusMax - offset / s.positionBonusStep

variable {α : Type} [Credit α]

abbrev Earned (α : Type) := α × Option Nat

/-- The best credit of the variants of a word; the first of several equally good. -/
def bestVariant (s : Settings) (t : Text) (variants : List Text) : Except Failure (Earned α) :=
  variants.foldlM (fun best variant => do
    let hits := WordHits.of variant t
    if !hits.found then pure best
    else
      let credit ← Credit.ofNat (wordCredit s hits)
      let credit := Credit.mul credit (Credit.ofFraction s.fuzzyDiscount)
      pure (if Credit.exceeds credit best.1 then (credit, hits.first) else best))
    (Credit.none, none)

/-- What a query word earns in a text. Its variants count only if it does not occur itself. -/
def earned (s : Settings) (t : Text) (variants : List (Text × List Text)) (word : Text) :
    Except Failure (Earned α) := do
  let hits := WordHits.of word t
  let credit ← Credit.ofNat (wordCredit s hits)
  if hits.found then pure (credit, hits.first)
  else bestVariant s t ((variants.lookup word).getD [])

def total (earnings : List (Earned α)) : α × Nat :=
  earnings.foldl (fun (sum, count) (credit, _) =>
    if Credit.exceeds credit Credit.none then (Credit.add sum credit, count + 1)
    else (sum, count)) (Credit.none, 0)

def addIf (due : Bool) (bonus : Nat) (sum : α) : Except Failure α :=
  if due then do pure (Credit.add sum (← Credit.ofNat bonus)) else pure sum

def scoreText (s : Settings) (t : Text) (summary : Summary) (words : List Text) (query : Text)
    (variants : List (Text × List Text)) : Except Failure (Int × Nat) := do
  let earnings : List (Earned α) ← words.mapM (earned s t variants)
  let (sum, count) := total earnings
  let sum ← addIf (1 < words.length && 1 < count) (count * s.multiWordBonus) sum
  let sum ← addIf (3 < query.length && Text.occursIn query t) s.exactPhraseBonus sum
  let leads := words.head?.any fun w => Text.occursIn w summary.firstWords
  let sum ← addIf leads s.leadingWordsBonus sum
  let sum ← addIf true (positionBonus s (earnings.head?.bind (·.2))) sum
  let sum := if s.longDocumentWords < summary.wordCount then
    Credit.mul sum (Credit.ofFraction s.longDocumentPenalty) else sum
  pure (← Credit.round sum, count)

def scoreDocument (α : Type) [Credit α] (s : Settings) (snapshot : Snapshot) (id : Nat)
    (words : List Text) (query : Text) (variants : List (Text × List Text)) :
    Except Failure Scored := do
  let words := words.eraseDups
  if words.isEmpty then pure ⟨id, 0, 0⟩
  else
    let t ← snapshot.normalizedText id
    match snapshot.summaries[id]? with
    | none => throw .noSuchDocument
    | some summary =>
      let (score, count) ← @scoreText α _ s t summary words query variants
      pure ⟨id, score, count⟩

def ranksBefore (a b : Scored) : Bool :=
  b.score < a.score || (a.score == b.score && a.docId ≤ b.docId)

/-- The candidates with a score above zero, best first. They are a set, and the ranking does not
depend on the order in which they are scored; here it is ascending, so of several that fail the first
gives the reason. -/
def rank (α : Type) [Credit α] (s : Settings) (snapshot : Snapshot) (candidates : Candidates)
    (words : List Text) (query : Text) : Except Failure (List Scored) := do
  let query := Text.trim (Text.lower query)
  let scored ← candidates.docIds.mapM fun id =>
    scoreDocument α s snapshot id words query candidates.variants
  pure ((scored.filter fun d => 0 < d.score).mergeSort ranksBefore)

end Scoring
end Concordance
