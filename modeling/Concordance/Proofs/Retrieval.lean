import Concordance.Proofs.Earning
import Concordance.Proofs.Indexing

/-! Retrieval against scoring. A document is a candidate if one of its indexed words counts for a
query word; it scores for what occurs anywhere in its text. A query word inside a longer word, with
nothing of its own before it, scores in a document that is no candidate. -/
namespace Concordance

namespace Candidates
variable {s : Settings} {fuzzy : Bool} {words : List Text} {documents : List (Document × Text)}
  {q v t : Text} {id : Nat}

/-- Whether an indexed word counts for a query word: it is the word, begins with it, or is a
variant of it. -/
inductive Expands (s : Settings) (fuzzy : Bool) (q : Text) : Text → Prop
  | word : Expands s fuzzy q q
  | extension (v : Text) (long : s.minPrefixLength ≤ q.length) (begins : q.isPrefixOf v = true) :
    Expands s fuzzy q v
  | variant (v : Text) (on : fuzzy = true) (long : s.minFuzzyLength ≤ q.length)
      (near : Fuzzy.isVariant q v = true) : Expands s fuzzy q v

/-- Whether some indexed word of a text counts for some query word. -/
def Reached (s : Settings) (fuzzy : Bool) (words : List Text) (t : Text) : Prop :=
  ∃ q ∈ words, ∃ v ∈ Text.words t, s.minIndexedWordLength ≤ v.length ∧ Expands s fuzzy q v

theorem mem_extensions_ofTexts : v ∈ extensions s (Snapshot.ofTexts s documents) q ↔
    v ∈ (Snapshot.ofTexts s documents).vocabulary ∧
      s.minPrefixLength ≤ q.length ∧ q.isPrefixOf v = true := by
  unfold extensions
  split
  next long => simp [Snapshot.wordsWithPrefix_ofTexts, long]
  next short => simp [short]

theorem not_isVariant_nil : Fuzzy.isVariant [] v = false := by
  have occurs : Text.occursIn [] v = true := by cases v <;> rfl
  simp [Fuzzy.isVariant, occurs]

theorem mem_variantsOf {snapshot : Snapshot} : v ∈ variantsOf s snapshot fuzzy q ↔
    v ∈ snapshot.vocabulary ∧
      fuzzy = true ∧ s.minFuzzyLength ≤ q.length ∧ Fuzzy.isVariant q v = true := by
  unfold variantsOf
  split
  next due =>
    simp only [Bool.and_eq_true, decide_eq_true_eq] at due
    cases q with
    | nil => simp [Fuzzy.variants, not_isVariant_nil]
    | cons c q => simpa [Fuzzy.variants, due.1] using fun _ _ => due.2
  next undue =>
    simp only [Bool.and_eq_true, decide_eq_true_eq] at undue
    simp only [List.not_mem_nil, false_iff]
    exact fun ⟨_, on, long, _⟩ => undue ⟨on, long⟩

theorem mem_indexedWords_ofTexts (known : v ∈ (Snapshot.ofTexts s documents).vocabulary) :
    v ∈ indexedWords s (Snapshot.ofTexts s documents) fuzzy q ↔ Expands s fuzzy q v := by
  simp only [indexedWords, List.mem_cons, List.mem_append, mem_extensions_ofTexts, mem_variantsOf]
  constructor
  · rintro (rfl | ⟨_, long, begins⟩ | ⟨_, on, long, near⟩)
    · exact .word
    · exact .extension v long begins
    · exact .variant v on long near
  · rintro (_ | ⟨_, long, begins⟩ | ⟨_, on, long, near⟩)
    · exact .inl rfl
    · exact .inr (.inl ⟨known, long, begins⟩)
    · exact .inr (.inr ⟨known, on, long, near⟩)

theorem mem_find_ofTexts : id ∈ (find s (Snapshot.ofTexts s documents) words fuzzy).docIds ↔
    ∃ d t, documents[id]? = some (d, t) ∧ Reached s fuzzy words t := by
  have found : id ∈ (find s (Snapshot.ofTexts s documents) words fuzzy).docIds ↔
      id ∈ (Snapshot.ofTexts s documents).docIds ∧
        ∃ q ∈ words, ∃ v ∈ indexedWords s (Snapshot.ofTexts s documents) fuzzy q,
          id ∈ (Snapshot.ofTexts s documents).postings v := by
    simp [find]
  rw [found]
  constructor
  · rintro ⟨_, q, query, v, counts, posted⟩
    obtain ⟨d, t, place, indexed⟩ := Snapshot.mem_postings_ofTexts.mp posted
    have known : v ∈ (Snapshot.ofTexts s documents).vocabulary :=
      Snapshot.mem_vocabulary_ofTexts.mpr ⟨_, List.mem_of_getElem? place, indexed⟩
    obtain ⟨member, long⟩ := Snapshot.mem_indexableWords.mp indexed
    exact ⟨d, t, place, q, query, v, member, long, (mem_indexedWords_ofTexts known).mp counts⟩
  · rintro ⟨d, t, place, q, query, v, member, long, expands⟩
    have indexed : v ∈ Snapshot.indexableWords s.minIndexedWordLength t :=
      Snapshot.mem_indexableWords.mpr ⟨member, long⟩
    have known : v ∈ (Snapshot.ofTexts s documents).vocabulary :=
      Snapshot.mem_vocabulary_ofTexts.mpr ⟨_, List.mem_of_getElem? place, indexed⟩
    refine ⟨?_, q, query, v, (mem_indexedWords_ofTexts known).mpr expands, ?_⟩
    · obtain ⟨within, _⟩ := List.getElem?_eq_some_iff.mp place
      simpa [Snapshot.docIds, Snapshot.size, Snapshot.ofTexts] using within
    · exact Snapshot.mem_postings_ofTexts.mpr ⟨d, t, place, indexed⟩

end Candidates

namespace Scoring
variable {s : Settings} {snapshot : Snapshot} {values : List Value} {words : List Text}
  {query : Text} {fuzzy : Bool} {variants : List (Text × List Text)} {id : Nat} {d : Scored}

theorem Earns.of_eraseDups {t : Text} {summary : Summary}
    (earns : Earns t summary words.eraseDups query variants) :
    Earns t summary words query variants := by
  cases earns with
  | word w member occurs => exact .word w (List.mem_eraseDups.mp member) occurs
  | variant w v member variant occurs =>
    exact .variant w v (List.mem_eraseDups.mp member) variant occurs
  | query long occurs => exact .query long occurs
  | leading w first occurs =>
    refine .leading w ?_ occurs
    cases words with
    | nil => exact first
    | cons w words => simpa [List.eraseDups_cons] using first

theorem earns_of_scoreDocument_pos (positive : 0 < d.score)
    (ok : scoreDocument Binary64 s snapshot id words query variants = .ok d) :
    ∃ t summary, snapshot.normalizedText id = .ok t ∧ snapshot.summaries[id]? = some summary ∧
      Earns t summary words query variants := by
  unfold scoreDocument at ok
  dsimp only at ok
  split at ok
  · cases ok
    exact absurd positive (Int.lt_irrefl 0)
  · obtain ⟨t, text, ok⟩ := Outcome.bind_eq_ok.mp ok
    split at ok
    · cases ok
    · next summary place =>
      obtain ⟨⟨score, count⟩, scored, same⟩ := Outcome.bind_eq_ok.mp ok
      cases same
      exact ⟨t, summary, text, place, (earns_of_scoreText_pos positive scored).of_eraseDups⟩

/-- A document of an index that scores above zero has earned it by something that occurs in its
text. It is among the candidates exactly if one of its indexed words also counts for a query
word; otherwise the search never ranks it. -/
theorem scoring_is_candidate_iff_reached (built : Snapshot.build s values = .ok snapshot)
    (ok : scoreDocument Binary64 s snapshot id words query
      (Candidates.find s snapshot words fuzzy).variants = .ok d)
    (positive : 0 < d.score) :
    ∃ t summary, snapshot.normalizedText id = .ok t ∧ snapshot.summaries[id]? = some summary ∧
      Earns t summary words query (Candidates.find s snapshot words fuzzy).variants ∧
      (id ∈ (Candidates.find s snapshot words fuzzy).docIds ↔
        Candidates.Reached s fuzzy words t) := by
  obtain ⟨t, summary, text, place, earns⟩ := earns_of_scoreDocument_pos positive ok
  refine ⟨t, summary, text, place, earns, ?_⟩
  obtain ⟨documents, enrolled, rfl⟩ := Snapshot.build_eq_ok.mp built
  rw [Candidates.mem_find_ofTexts]
  constructor
  · rintro ⟨d, u, indexed, reached⟩
    cases text.symm.trans (Snapshot.normalizedText_ofTexts enrolled indexed)
    exact reached
  · intro reached
    obtain ⟨within, _⟩ := List.getElem?_eq_some_iff.mp place
    have within : id < documents.length := by simpa [Snapshot.ofTexts] using within
    have indexed : documents[id]? = some (documents[id].1, documents[id].2) := by simp [within]
    cases text.symm.trans (Snapshot.normalizedText_ofTexts enrolled indexed)
    exact ⟨_, _, indexed, reached⟩

def compound : List Value := [.map [("text".toList, .text "concat".toList)]]

def compoundIndex : Snapshot :=
  { plan := Settings.fieldPlan {}
    documents := [.record [("text".toList, .text "concat".toList)]]
    summaries := [Snapshot.summarize 5 0 "concat".toList]
    entries := [("concat".toList, [0])] }

theorem compound_built : Snapshot.build {} compound = .ok compoundIndex :=
  Snapshot.build_eq_ok.mpr ⟨[(.record [("text".toList, .text "concat".toList)],
    "concat".toList)], by rfl, Snapshot.ofTexts_one_word (by decide)⟩

theorem cat_scores_in_compound : scoreDocument Binary64 {} compoundIndex 0 ["cat".toList]
    "cat".toList (Candidates.find {} compoundIndex ["cat".toList] true).variants =
      .ok ⟨0, 70, 1⟩ := by
  decide +kernel

theorem cat_earns_in_compound : ∃ t summary, compoundIndex.normalizedText 0 = .ok t ∧
    compoundIndex.summaries[0]? = some summary ∧
    Earns t summary ["cat".toList] "cat".toList
      (Candidates.find {} compoundIndex ["cat".toList] true).variants ∧
    (0 ∈ (Candidates.find {} compoundIndex ["cat".toList] true).docIds ↔
      Candidates.Reached {} true ["cat".toList] t) :=
  scoring_is_candidate_iff_reached compound_built cat_scores_in_compound (by decide)

theorem scoring_is_not_always_candidate :
    ¬∀ (s : Settings) (snapshot : Snapshot) (values : List Value) (words : List Text)
      (query : Text) (fuzzy : Bool) (id : Nat) (d : Scored),
      Snapshot.build s values = .ok snapshot →
      scoreDocument Binary64 s snapshot id words query
        (Candidates.find s snapshot words fuzzy).variants = .ok d →
      0 < d.score → id ∈ (Candidates.find s snapshot words fuzzy).docIds := by
  intro all
  have lost : (Candidates.find {} compoundIndex ["cat".toList] true).docIds = [] := by
    decide +kernel
  have member := all {} compoundIndex compound ["cat".toList] "cat".toList true 0 ⟨0, 70, 1⟩
    compound_built cat_scores_in_compound (by decide)
  rw [lost] at member
  exact List.not_mem_nil member

end Scoring
end Concordance
