import Concordance.Proofs.Verdict

/-! Snapshots that searches cannot tell apart. A search reads of a snapshot how many documents it
has, their summaries, the index, and the text that a document gives now; it looks at a document
itself only to filter it. Where two snapshots agree in all of these, a query finds the same on
both; and they do if they are made of documents that give the same texts. -/
namespace Concordance

/-- Two snapshots of which a search reads the same, unless it filters. -/
structure Snapshot.Alike (first second : Snapshot) : Prop where
  size : first.size = second.size
  summaries : first.summaries = second.summaries
  entries : first.entries = second.entries
  currentText (id : Nat) : first.currentText id = second.currentText id

namespace Snapshot.Alike
variable {first second : Snapshot} {s : Settings} {query : Text} {options : SearchOptions}

theorem docIds (alike : first.Alike second) : first.docIds = second.docIds :=
  congrArg List.range alike.size

theorem isReady (alike : first.Alike second) : first.isReady = second.isReady := by
  have size : first.documents.length = second.documents.length := alike.size
  rw [Snapshot.isReady, Snapshot.isReady, Bool.not_inj_iff, Bool.eq_iff_iff,
    List.isEmpty_iff_length_eq_zero, List.isEmpty_iff_length_eq_zero, size]

theorem vocabulary (alike : first.Alike second) : first.vocabulary = second.vocabulary :=
  congrArg (List.map Prod.fst) alike.entries

theorem postings (alike : first.Alike second) (word : Text) :
    first.postings word = second.postings word := by
  rw [Snapshot.postings, alike.entries, Snapshot.postings]

theorem wordsWithPrefix (alike : first.Alike second) (start : Text) :
    first.wordsWithPrefix start = second.wordsWithPrefix start := by
  simp only [Snapshot.wordsWithPrefix, alike.vocabulary]

theorem shownText (alike : first.Alike second) (id : Nat) :
    first.shownText id = second.shownText id := by
  rw [Snapshot.shownText, alike.currentText, Snapshot.shownText]

theorem normalizedText (alike : first.Alike second) (id : Nat) :
    first.normalizedText id = second.normalizedText id := by
  rw [Snapshot.normalizedText, alike.currentText, Snapshot.normalizedText]

/-! Free text. -/

theorem variantsOf (alike : first.Alike second) (s : Settings) (fuzzy : Bool) (word : Text) :
    Candidates.variantsOf s first fuzzy word = Candidates.variantsOf s second fuzzy word := by
  rw [Candidates.variantsOf, alike.vocabulary, Candidates.variantsOf]

theorem indexedWords (alike : first.Alike second) (s : Settings) (fuzzy : Bool) (word : Text) :
    Candidates.indexedWords s first fuzzy word = Candidates.indexedWords s second fuzzy word := by
  rw [Candidates.indexedWords, Candidates.extensions, alike.wordsWithPrefix, alike.variantsOf,
    Candidates.indexedWords, Candidates.extensions]

theorem candidates (alike : first.Alike second) (s : Settings) (words : List Text) (fuzzy : Bool) :
    Candidates.find s first words fuzzy = Candidates.find s second words fuzzy := by
  have postings : first.postings = second.postings := funext alike.postings
  simp only [Candidates.find, alike.docIds, alike.variantsOf, alike.indexedWords, postings]

theorem scoreDocument {α : Type} [Credit α] (alike : first.Alike second) (s : Settings) (id : Nat)
    (words : List Text) (query : Text) (variants : List (Text × List Text)) :
    Scoring.scoreDocument α s first id words query variants =
      Scoring.scoreDocument α s second id words query variants := by
  simp only [Scoring.scoreDocument, alike.normalizedText, alike.summaries]

theorem highlight (alike : first.Alike second) (s : Settings) (words : List Text) (id : Nat) :
    Findings.highlight s first words id = Findings.highlight s second words id := by
  rw [Findings.highlight, alike.shownText, Findings.highlight]

theorem restrict (same : ∀ id, Findings.satisfies first options id =
    Findings.satisfies second options id) (ids : List Nat) :
    Findings.restrict first options ids = Findings.restrict second options ids :=
  congrArg (ids.filterM ·) (funext same)

theorem fast {α : Type} [Credit α] (alike : first.Alike second)
    (same : ∀ id, Findings.satisfies first options id = Findings.satisfies second options id) :
    Findings.fast α s first query options = Findings.fast α s second query options := by
  simp only [Findings.fast, Findings.ranked, Scoring.rank, Findings.scoredMatch,
    alike.candidates, alike.scoreDocument, alike.highlight, restrict same]

/-! Boolean queries. -/

theorem matching (alike : first.Alike second) (token : QueryToken) :
    token.matching first = token.matching second := by
  have phrase (p : Text) : QueryToken.phraseMatches first p = QueryToken.phraseMatches second p :=
    funext fun id => by
      rw [QueryToken.phraseMatches, alike.normalizedText, QueryToken.phraseMatches]
  have word (words : List Text) :
      QueryToken.wordMatches first words = QueryToken.wordMatches second words :=
    funext fun id => by
      simp only [QueryToken.wordMatches, alike.normalizedText, alike.postings]
  simp only [QueryToken.matching, alike.docIds, phrase, word]

theorem run (alike : first.Alike second) (tokens : List QueryToken) :
    Evaluation.run first tokens = Evaluation.run second tokens := by
  have step : Evaluation.step first = Evaluation.step second := by
    funext e token
    simp only [Evaluation.step, Evaluation.gain, Evaluation.union, alike.matching, alike.docIds]
  rw [Evaluation.run, alike.docIds, step, Evaluation.run]

theorem boolean (alike : first.Alike second)
    (same : ∀ id, Findings.satisfies first options id = Findings.satisfies second options id) :
    Findings.boolean s first query options = Findings.boolean s second query options := by
  simp only [Findings.boolean, Findings.listed, Findings.booleanMatch, alike.run, alike.highlight,
    restrict same]

theorem find {α : Type} [Credit α] (alike : first.Alike second)
    (same : ∀ id, Findings.satisfies first options id = Findings.satisfies second options id) :
    Findings.find α s first query options = Findings.find α s second query options := by
  rw [Findings.find, alike.fast same, alike.boolean same, Findings.find]

theorem answerOn (alike : first.Alike second)
    (same : ∀ id, Findings.satisfies first options id = Findings.satisfies second options id) :
    Engine.answerOn s first query options = Engine.answerOn s second query options := by
  rw [Engine.answerOn_eq, alike.isReady, alike.find same, Engine.answerOn_eq]

end Snapshot.Alike

namespace Snapshot
variable {s : Settings} {first second documents : List (Document × Text)}

def SameText (plan : FieldPlan) (d e : Document × Text) : Prop :=
  d.1.given plan = e.1.given plan ∧ d.2 = e.2

theorem summaries_ofTexts : (ofTexts s documents).summaries =
    (documents.map (·.2)).zipIdx.map fun t => summarize s.summaryPrefixWords t.2 t.1 := by
  rw [List.zipIdx_map, List.map_map]
  rfl

theorem entries_ofTexts : (ofTexts s documents).entries =
    invert ((documents.map (·.2)).map (indexableWords s.minIndexedWordLength)) := by
  rw [List.map_map]
  rfl

theorem currentText_ofTexts (id : Nat) : (ofTexts s documents).currentText id =
    match (documents.map (·.1.given s.fieldPlan))[id]? with
    | none => .ok (.text [])
    | some (.error reason) => .error (.extraction reason)
    | some (.ok value) => .ok (if value.isTruthy then value else .text []) := by
  simp only [currentText, ofTexts, List.getElem?_map]
  cases documents[id]? with
  | none => rfl
  | some entry =>
    simp only [Option.map_some]
    cases entry.1.given s.fieldPlan <;> rfl

theorem ofTexts_alike (same : List.Forall₂ (SameText s.fieldPlan) first second) :
    (ofTexts s first).Alike (ofTexts s second) := by
  have texts : second.map (·.2) = first.map (·.2) :=
    Outcome.map_eq_map_of_forall₂ (same.imp fun _ _ related => related.2.symm)
  have given : second.map (·.1.given s.fieldPlan) = first.map (·.1.given s.fieldPlan) :=
    Outcome.map_eq_map_of_forall₂ (same.imp fun _ _ related => related.1.symm)
  refine ⟨?_, ?_, ?_, fun id => ?_⟩
  · simp only [size, ofTexts, List.length_map, same.length_eq]
  · rw [summaries_ofTexts, summaries_ofTexts, texts]
  · rw [entries_ofTexts, entries_ofTexts, texts]
  · rw [currentText_ofTexts, currentText_ofTexts, given]

end Snapshot
end Concordance
