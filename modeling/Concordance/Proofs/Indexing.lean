import Concordance.Proofs.Outcome
import Concordance.Proofs.Vocabulary
import Concordance.Search.Candidates
import Mathlib.Data.List.Basic

/-! What an index knows of its documents. A collection that can be indexed gives every document the
text it is searched by, and the index gives a document for exactly the words of that text which are
long enough. From this follows which documents are candidates for the words of a query. -/
namespace Concordance

namespace Snapshot
variable {s : Settings} {plan : FieldPlan} {snapshot : Snapshot} {values : List Value}
  {documents : List (Document × Text)} {d : Document} {t word : Text} {id next : Nat}

theorem enrollAll_indexedText (ok : enrollAll plan next values = .ok documents)
    (place : documents[id]? = some (d, t)) : d.indexedText plan (next + id) = .ok t := by
  induction values generalizing next documents id with
  | nil =>
    cases ok
    simp at place
  | cons value values ih =>
    obtain ⟨first, enrolled, ok⟩ := Outcome.bind_eq_ok.mp ok
    obtain ⟨others, rest, same⟩ := Outcome.bind_eq_ok.mp ok
    cases same
    cases id with
    | zero =>
      cases place
      obtain ⟨document, _, enrolled⟩ := Outcome.bind_eq_ok.mp enrolled
      obtain ⟨text, indexed, same⟩ := Outcome.bind_eq_ok.mp enrolled
      cases same
      exact indexed
    | succ id => simpa [Nat.add_assoc, Nat.add_comm 1] using ih rest place

theorem build_eq_ok : build s values = .ok snapshot ↔
    ∃ documents, enrollAll s.fieldPlan 0 values = .ok documents ∧
      ofTexts s documents = snapshot :=
  Outcome.map_eq_ok

theorem ofTexts_one_word (words : indexableWords s.minIndexedWordLength t = [word]) :
    ofTexts s [(d, t)] =
      { plan := s.fieldPlan, documents := [d], summaries := [summarize s.summaryPrefixWords 0 t],
        entries := [(word, [0])] } := by
  simp [ofTexts, invert, words, List.eraseDups_cons]

theorem shownText_of_normalizedText (ok : snapshot.normalizedText id = .ok t) :
    ∃ u, snapshot.shownText id = .ok u ∧ t = Text.trim (Text.lower u) := by
  obtain ⟨value, given, read⟩ := Outcome.bind_eq_ok.mp ok
  cases value with
  | text u => exact ⟨u, Outcome.bind_eq_ok.mpr ⟨_, given, rfl⟩, (Except.ok.inj read).symm⟩
  | _ => cases read

theorem normalizedText_of_indexed {number : Nat} (place : snapshot.documents[id]? = some d)
    (ok : d.indexedText snapshot.plan number = .ok t) : snapshot.normalizedText id = .ok t := by
  unfold Document.indexedText at ok
  simp only [normalizedText, currentText, place]
  split at ok
  case h_1 => cases ok
  case h_2 given =>
    cases ok
    simp only [given]
    rfl
  case h_3 u given =>
    cases ok
    cases u with
    | nil =>
      simp only [given]
      rfl
    | cons c u =>
      simp only [given]
      rfl
  case h_4 => cases ok

theorem normalizedText_ofTexts (ok : enrollAll s.fieldPlan 0 values = .ok documents)
    (place : documents[id]? = some (d, t)) : (ofTexts s documents).normalizedText id = .ok t := by
  refine normalizedText_of_indexed (d := d) ?_ (enrollAll_indexedText ok place)
  simp [ofTexts, place]

theorem mem_vocabulary_ofTexts : word ∈ (ofTexts s documents).vocabulary ↔
    ∃ entry ∈ documents, word ∈ indexableWords s.minIndexedWordLength entry.2 := by
  simp [vocabulary, ofTexts, invert, Function.comp_def]

theorem vocabulary_sorted : (ofTexts s documents).vocabulary.Pairwise
    fun a b => Text.precedes a b = true := by
  simp only [vocabulary, ofTexts, invert, List.map_map, Function.comp_def, List.map_id']
  exact Text.sorted_mergeSort _

theorem mem_docIds_ofTexts : id ∈ (ofTexts s documents).docIds ↔
    ∃ d t, documents[id]? = some (d, t) := by
  have bound : id ∈ (ofTexts s documents).docIds ↔ id < documents.length := by
    simp [docIds, size, ofTexts]
  rw [bound]
  constructor
  · intro within
    exact ⟨_, _, List.getElem?_eq_getElem within⟩
  · rintro ⟨d, t, place⟩
    exact (List.getElem?_eq_some_iff.mp place).1

theorem mem_postings_ofTexts : id ∈ (ofTexts s documents).postings word ↔
    ∃ d t, documents[id]? = some (d, t) ∧ word ∈ indexableWords s.minIndexedWordLength t := by
  by_cases known : word ∈ (ofTexts s documents).vocabulary
  · rw [vocabulary, ofTexts, invert, List.map_map, Function.comp_def, List.map_id'] at known
    simp [postings, ofTexts, invert, List.lookup_graph _ known, List.mem_zipIdx_iff_getElem?]
  · have absent : (ofTexts s documents).entries.lookup word = none :=
      List.lookup_eq_none_iff.mpr fun entry member => by
        have apart : word ≠ entry.1 := by
          rintro rfl
          exact known (List.mem_map_of_mem member)
        simpa using apart
    simp only [postings, absent, Option.getD_none, List.not_mem_nil, false_iff]
    rintro ⟨d, t, place, member⟩
    exact known (mem_vocabulary_ofTexts.mpr ⟨_, List.mem_of_getElem? place, member⟩)

theorem wordsWithPrefix_ofTexts (start : Text) : (ofTexts s documents).wordsWithPrefix start =
    (ofTexts s documents).vocabulary.filter start.isPrefixOf := by
  refine Text.prefixScan_eq_filter vocabulary_sorted fun i within =>
    Text.placeAmong_le_iff vocabulary_sorted _ (Nat.zero_le _) ?_ ?_ within
  · exact fun i _ earlier => absurd earlier (Nat.not_lt_zero i)
  · exact fun i within later => absurd within (Nat.not_lt.mpr later)

theorem mem_indexableWords {minLength : Nat} : word ∈ indexableWords minLength t ↔
    word ∈ Text.words t ∧ minLength ≤ word.length := by
  simp [indexableWords, Text.distinctWords]

end Snapshot
end Concordance
