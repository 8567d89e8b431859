import Concordance.Log.Event
import Concordance.Query.Evaluation
import Concordance.Search.Highlight
import Concordance.Search.Options
import Concordance.Search.Response
import Concordance.Search.Scoring

/-! Findings: the documents of a snapshot that a query and options ask for, as they are listed. A
query is searched for as free text, by candidates, filters and scores, or as a boolean query, by
evaluation and filters. -/
namespace Concordance

abbrev Listing := List Match × Nat

structure Findings where
  reports : List LogEvent := []
  listing : Except Failure Listing := .ok ([], 0)

namespace Findings

def searchTypeOf (query : Text) : SearchType :=
  if QueryToken.isBoolean query then .boolean else .fast

def restrict (snapshot : Snapshot) (options : SearchOptions) (ids : List Nat) :
    Except Failure (List Nat) :=
  ids.filterM fun id =>
    MetadataFilter.matchesAll ((snapshot.documents[id]?.map Document.toValue).getD .null)
      options.filters

def highlight (s : Settings) (snapshot : Snapshot) (words : List Text) (id : Nat) :
    Except Failure Text := do
  pure (Highlight.apply s.highlightClass (← snapshot.shownText id) words)

/-! Free text. -/

def candidatesReport (words : List Text) (candidates : Candidates) : LogEvent :=
  { logger := LogEvent.retrieverLogger, level := Level.debug
    message := "Candidates for ".toList ++ (Value.list (words.map .text)).literal ++ ':' :: ' ' ::
      (Text.ofNat candidates.docIds.length ++ " documents (".toList ++
        Text.ofNat candidates.variants.length ++ " fuzzy-expanded words)".toList) }

def scoredMatch (s : Settings) (snapshot : Snapshot) (words : List Text) (d : Scored) (rank : Nat) :
    Except Failure Match := do
  pure { docId := d.docId, score := d.score, rank, matchCount := d.matchCount, searchType := .fast
         highlighted := ← highlight s snapshot words d.docId }

def ranked (α : Type) [Credit α] (s : Settings) (snapshot : Snapshot) (words : List Text)
    (query : Text) (options : SearchOptions) : Except Failure (List Scored) := do
  let candidates := Candidates.find s snapshot words (options.isFuzzy s)
  let ids ← restrict snapshot options candidates.docIds
  Scoring.rank α s snapshot { candidates with docIds := ids } words query

def fast (α : Type) [Credit α] (s : Settings) (snapshot : Snapshot) (query : Text)
    (options : SearchOptions) : Findings :=
  let query := Text.trim (Text.lower query)
  let words := Text.words query
  if words.isEmpty then {}
  else
    { reports := [candidatesReport words (Candidates.find s snapshot words (options.isFuzzy s))]
      listing := do
        let scored ← ranked α s snapshot words query options
        let matches_ ← ((options.cap scored).zipIdx 1).mapM fun (d, rank) =>
          scoredMatch s snapshot words.eraseDups d rank
        pure (matches_, scored.length) }

/-! Boolean queries. -/

def evaluationReport (tokens : List QueryToken) (found : BooleanMatch) : LogEvent :=
  { logger := LogEvent.booleanLogger, level := Level.debug
    message := "Boolean query ".toList ++ (Value.list (tokens.map (.text ·.value))).literal ++
      " matched ".toList ++ Text.ofNat found.docIds.length ++ " documents".toList }

/-- Boolean matches are scored by their place alone: 100 for the first, one less for each further,
and never less than 1. -/
def placeScore (rank : Nat) : Int := max (101 - (rank : Int)) 1

def booleanMatch (s : Settings) (snapshot : Snapshot) (tokens : List QueryToken)
    (found : BooleanMatch) (id rank : Nat) : Except Failure Match := do
  pure { docId := id, score := placeScore rank, rank
         matchCount := (found.hitCounts.lookup id).getD 0, searchType := .boolean
         highlighted := ← highlight s snapshot (QueryToken.highlightTerms tokens) id }

def listed (s : Settings) (snapshot : Snapshot) (tokens : List QueryToken) (found : BooleanMatch)
    (options : SearchOptions) : Except Failure Listing := do
  let ids ← restrict snapshot options found.docIds
  let matches_ ← ((options.cap ids).zipIdx 1).mapM fun (id, rank) =>
    booleanMatch s snapshot tokens found id rank
  pure (matches_, ids.length)

def boolean (s : Settings) (snapshot : Snapshot) (query : Text) (options : SearchOptions) :
    Findings :=
  let tokens := QueryToken.parse query
  if tokens.all (·.kind == .operator) then {}
  else match Evaluation.run snapshot tokens with
    | .error f => { listing := .error f }
    | .ok found =>
      { reports := [evaluationReport tokens found]
        listing := listed s snapshot tokens found options }

def find (α : Type) [Credit α] (s : Settings) (snapshot : Snapshot) (query : Text)
    (options : SearchOptions) : Findings :=
  match searchTypeOf query with
  | .fast => fast α s snapshot query options
  | .boolean => boolean s snapshot query options

/-! When a note is first asked for its text: a search may be held up there. -/

def isNote (snapshot : Snapshot) (id : Nat) : Bool :=
  snapshot.documents[id]?.any Document.isNote

def scoringReadsNote (α : Type) [Credit α] (s : Settings) (snapshot : Snapshot)
    (words : List Text) (query : Text) (variants : List (Text × List Text)) : List Nat → Bool
  | [] => false
  | id :: rest =>
    isNote snapshot id ||
      ((Scoring.scoreDocument α s snapshot id words query variants).isOk &&
        scoringReadsNote α s snapshot words query variants rest)

/-- Whether matching a token comes to a note: a phrase is looked for in every document, words in
those that the index does not give. -/
def matchingReadsNote (snapshot : Snapshot) (token : QueryToken) : Bool :=
  let notes := snapshot.docIds.filter (isNote snapshot)
  match token.kind with
  | .operator => false
  | .phrase => !(Text.lower token.value).isEmpty && !notes.isEmpty
  | _ =>
    let words := Text.distinctWords token.value
    !words.isEmpty && notes.any fun id => !words.any fun w => (snapshot.postings w).contains id

/-- How many reports are made before a search first asks a note for its text, if it does. -/
def reportsBeforeNote (α : Type) [Credit α] (s : Settings) (snapshot : Snapshot) (query : Text)
    (options : SearchOptions) : Option Nat :=
  match searchTypeOf query with
  | .fast =>
    let query := Text.trim (Text.lower query)
    let words := Text.words query
    let candidates := Candidates.find s snapshot words (options.isFuzzy s)
    match restrict snapshot options candidates.docIds with
    | .error _ => none
    | .ok ids =>
      if !words.isEmpty && scoringReadsNote α s snapshot words query candidates.variants ids
      then some 1 else none
  | .boolean =>
    let tokens := QueryToken.parse query
    if tokens.all (·.kind == .operator) then none
    else if tokens.any (matchingReadsNote snapshot) then some 0
    else match Evaluation.run snapshot tokens with
      | .error _ => none
      | .ok found =>
        match restrict snapshot options found.docIds with
        | .error _ => none
        | .ok ids => if (options.cap ids).any (isNote snapshot) then some 1 else none

end Findings
end Concordance
