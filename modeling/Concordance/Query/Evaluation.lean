import Concordance.Analysis.Occurrence
import Concordance.Index.Snapshot
import Concordance.Query.Token

/-! Evaluation of boolean queries. Tokens are taken from left to right; each restricts or extends
the documents found so far as the last operator says, which stays in force until the next. -/
namespace Concordance

structure BooleanMatch where
  docIds : List Nat
  hitCounts : List (Nat × Nat)
deriving DecidableEq, Inhabited, Repr

namespace QueryToken

def phraseMatches (snapshot : Snapshot) (phrase : Text) (id : Nat) : Except Failure Bool := do
  pure (Text.occursIn phrase (← snapshot.normalizedText id))

/-- Whether a document contains one of the words: the index says so, or else its text does, as
words may be too short for the index or tied to others by punctuation. -/
def wordMatches (snapshot : Snapshot) (words : List Text) (id : Nat) : Except Failure Bool :=
  if words.any fun w => (snapshot.postings w).contains id then .ok true
  else do
    let t ← snapshot.normalizedText id
    pure (words.any (Text.hasWholeWord · t))

def matching (snapshot : Snapshot) (token : QueryToken) : Except Failure (List Nat) :=
  if token.kind = .phrase then
    let phrase := Text.lower token.value
    if phrase.isEmpty then .ok [] else snapshot.docIds.filterM (phraseMatches snapshot phrase)
  else
    let words := Text.distinctWords token.value
    if words.isEmpty then .ok [] else snapshot.docIds.filterM (wordMatches snapshot words)

end QueryToken

structure Evaluation where
  found : List Nat
  connective : Connective := .and
  seeded : Bool := false
  credited : List (List Nat) := []

namespace Evaluation

def union (snapshot : Snapshot) (a b : List Nat) : List Nat :=
  snapshot.docIds.filter fun id => a.contains id || b.contains id

def inter (a b : List Nat) : List Nat := a.filter b.contains

def diff (a b : List Nat) : List Nat := a.filter fun id => !b.contains id

def gain (snapshot : Snapshot) (required : Bool) (e : Evaluation) (ids : List Nat) : Evaluation :=
  let e := { e with credited := e.credited ++ [ids] }
  if required || e.connective = .and then { e with found := inter e.found ids, seeded := true }
  else if e.connective = .or then
    { e with found := if e.seeded then union snapshot e.found ids else inter e.found ids,
             seeded := true }
  else { e with found := diff e.found ids }

def step (snapshot : Snapshot) (e : Evaluation) (token : QueryToken) : Except Failure Evaluation :=
  match token.kind with
  | .operator =>
    match Connective.ofWord? token.value with
    | some connective => .ok { e with connective }
    | none => .error (.unknownOperator token.value)
  | .excluded => do
    let ids ← token.matching snapshot
    pure { e with found := diff e.found ids }
  | kind => do
    let ids ← token.matching snapshot
    pure (gain snapshot (kind == .required) e ids)

def result (e : Evaluation) : BooleanMatch :=
  { docIds := e.found
    hitCounts := e.found.map fun id => (id, e.credited.countP (·.contains id)) }

def run (snapshot : Snapshot) (tokens : List QueryToken) : Except Failure BooleanMatch := do
  let e ← tokens.foldlM (step snapshot) { found := snapshot.docIds }
  pure e.result

end Evaluation
end Concordance
