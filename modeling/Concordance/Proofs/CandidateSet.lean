import Concordance.Proofs.Consistency
import Concordance.Proofs.Retrieval

/-! Which documents are candidates, said of the collection alone: those whose text has a word long
enough to be indexed that counts for a query word. The variants listed for a query word are all
those that some text of the collection has. -/
namespace Concordance

namespace Candidates
variable {s : Settings} {snapshot : Snapshot} {values : List Value} {fuzzy : Bool}
  {documents : List (Document × Text)} {words found : List Text} {q v : Text} {id : Nat}

def VariantAmong (s : Settings) (values : List Value) (fuzzy : Bool) (q v : Text) : Prop :=
  fuzzy = true ∧ s.minFuzzyLength ≤ q.length ∧ Fuzzy.isVariant q v = true ∧
    s.minIndexedWordLength ≤ v.length ∧ ∃ id t, Snapshot.IndexedAs s values id t ∧ v ∈ Text.words t

theorem mem_variantsOf_build (ok : Snapshot.enrollAll s.fieldPlan 0 values = .ok documents) :
    v ∈ variantsOf s (Snapshot.ofTexts s documents) fuzzy q ↔
      VariantAmong s values fuzzy q v := by
  rw [mem_variantsOf, Snapshot.mem_vocabulary_iff_posted]
  simp only [Snapshot.mem_postings_build ok]
  constructor
  · rintro ⟨⟨id, long, t, indexed, member⟩, on, due, near⟩
    exact ⟨on, due, near, long, id, t, indexed, member⟩
  · rintro ⟨on, due, near, long, id, t, indexed, member⟩
    exact ⟨⟨id, long, t, indexed, member⟩, on, due, near⟩

theorem variantsOf_ascending (ascending : Text.Ascending snapshot.vocabulary) :
    Text.Ascending (variantsOf s snapshot fuzzy q) := by
  unfold variantsOf Fuzzy.variants
  split
  · split
    · exact List.Pairwise.nil
    · exact ascending.filter _
  · exact List.Pairwise.nil

theorem mem_variants : (q, found) ∈ (find s snapshot words fuzzy).variants ↔
    q ∈ words ∧ found ≠ [] ∧ found = variantsOf s snapshot fuzzy q := by
  simp only [find, List.mem_filterMap, List.mem_eraseDups]
  constructor
  · rintro ⟨w, member, listed⟩
    split at listed
    · cases listed
    · next nonempty =>
      cases listed
      exact ⟨member, by simpa using nonempty, rfl⟩
  · rintro ⟨member, nonempty, rfl⟩
    exact ⟨q, member, by simp [nonempty]⟩

theorem variants_keys_nodup : ((find s snapshot words fuzzy).variants.map (·.1)).Nodup := by
  rw [List.Nodup, List.pairwise_map]
  simp only [find]
  rw [List.pairwise_filterMap]
  refine (Text.nodup_eraseDups words).imp ?_
  intro v w apart first listed second further
  split at listed <;> cases listed
  split at further <;> cases further
  exact apart

/-- A document is a candidate exactly if its text has an indexed word that counts for a query word,
and the query words with variants are listed with all variants that the collection has. -/
theorem find_exact (built : Snapshot.build s values = .ok snapshot) (words : List Text)
    (fuzzy : Bool) :
    (∀ id, id ∈ (find s snapshot words fuzzy).docIds ↔
      ∃ t, Snapshot.IndexedAs s values id t ∧ Reached s fuzzy words t) ∧
    (find s snapshot words fuzzy).docIds.Pairwise (· < ·) ∧
    ((find s snapshot words fuzzy).variants.map (·.1)).Nodup ∧
    ∀ q found, (q, found) ∈ (find s snapshot words fuzzy).variants ↔
      q ∈ words ∧ found ≠ [] ∧ Text.Ascending found ∧
        ∀ v, v ∈ found ↔ VariantAmong s values fuzzy q v := by
  obtain ⟨documents, ok, rfl⟩ := Snapshot.build_eq_ok.mp built
  refine ⟨fun id => ?_, ?_, variants_keys_nodup, fun q found => ?_⟩
  · rw [mem_find_ofTexts]
    simp only [Snapshot.indexedAs_iff ok]
    constructor
    · rintro ⟨d, t, place, reached⟩
      exact ⟨t, ⟨d, place⟩, reached⟩
    · rintro ⟨t, ⟨d, place⟩, reached⟩
      exact ⟨d, t, place, reached⟩
  · exact List.pairwise_lt_range.filter _
  · have ascending : Text.Ascending (variantsOf s (Snapshot.ofTexts s documents) fuzzy q) :=
      variantsOf_ascending Snapshot.vocabulary_ascending
    rw [mem_variants]
    constructor
    · rintro ⟨member, nonempty, rfl⟩
      exact ⟨member, nonempty, ascending, fun v => mem_variantsOf_build ok⟩
    · rintro ⟨member, nonempty, sorted, same⟩
      refine ⟨member, nonempty, sorted.eq_of_mem_iff ascending fun v => ?_⟩
      rw [same, mem_variantsOf_build ok]

theorem misspelt_cat_found :
    Snapshot.build {} Snapshot.dogs = .ok Snapshot.dogIndex ∧
    (∀ id, id ∈ [0, 1] ↔ ∃ t, Snapshot.IndexedAs {} Snapshot.dogs id t ∧
      Reached {} true ["cot".toList, "do".toList] t) ∧
    ∀ q found, (q, found) ∈ [("cot".toList, ["cat".toList])] ↔
      q ∈ ["cot".toList, "do".toList] ∧ found ≠ [] ∧ Text.Ascending found ∧
        ∀ v, v ∈ found ↔ VariantAmong {} Snapshot.dogs true q v := by
  have evaluated : find {} Snapshot.dogIndex ["cot".toList, "do".toList] true =
      ⟨[0, 1], [("cot".toList, ["cat".toList])]⟩ := by
    decide +kernel
  obtain ⟨ids, _, _, variants⟩ :=
    find_exact Snapshot.dogs_built ["cot".toList, "do".toList] true
  rw [evaluated] at ids variants
  exact ⟨Snapshot.dogs_built, ids, variants⟩

end Candidates
end Concordance
