import Concordance.Proofs.Indexing
import Concordance.Proofs.Words

/-! The parts of a snapshot agree. There is a document and a summary for each value of the
collection, in its order; a document is posted under a word exactly if the word is long enough and
stands in the text it was indexed under; and the vocabulary lists the words with postings, each of
them a word in normal form, so that those with a prefix are found where halving finds the prefix. -/
namespace Concordance

namespace Snapshot
variable {s : Settings} {plan : FieldPlan} {snapshot : Snapshot} {values : List Value}
  {documents : List (Document × Text)} {value : Value} {t w : Text} {id next : Nat}

def IndexedAs (s : Settings) (values : List Value) (id : Nat) (t : Text) : Prop :=
  ∃ value d, values[id]? = some value ∧ enroll s.fieldPlan value id = .ok (d, t)

theorem toValue_of_read {place : Option Int} {d : Document}
    (ok : Document.read place value = .ok d) : d.toValue = value := by
  cases value with
  | map | table | note =>
    cases ok
    rfl
  | _ => cases ok

theorem enrollAll_values (ok : enrollAll plan next values = .ok documents) :
    documents.map (·.1.toValue) = values := by
  induction values generalizing next documents with
  | nil =>
    cases ok
    rfl
  | cons value values ih =>
    obtain ⟨entry, enrolled, ok⟩ := Outcome.bind_eq_ok.mp ok
    obtain ⟨others, rest, same⟩ := Outcome.bind_eq_ok.mp ok
    cases same
    obtain ⟨d, known, enrolled⟩ := Outcome.bind_eq_ok.mp enrolled
    obtain ⟨t, _, same⟩ := Outcome.bind_eq_ok.mp enrolled
    cases same
    rw [List.map_cons, ih rest, toValue_of_read known]

theorem enrollAll_length (ok : enrollAll plan next values = .ok documents) :
    documents.length = values.length := by
  rw [← enrollAll_values ok, List.length_map]

theorem enrollAll_place (ok : enrollAll plan next values = .ok documents)
    (place : values[id]? = some value) :
    ∃ entry, documents[id]? = some entry ∧ enroll plan value (next + id) = .ok entry := by
  induction values generalizing next documents id with
  | nil => cases place
  | cons head values ih =>
    obtain ⟨first, enrolled, ok⟩ := Outcome.bind_eq_ok.mp ok
    obtain ⟨others, rest, same⟩ := Outcome.bind_eq_ok.mp ok
    cases same
    cases id with
    | zero =>
      cases place
      exact ⟨first, rfl, enrolled⟩
    | succ id =>
      obtain ⟨entry, found, enrolled⟩ := ih rest place
      refine ⟨entry, found, ?_⟩
      rwa [Nat.add_assoc, Nat.add_comm 1] at enrolled

theorem indexedAs_iff (ok : enrollAll s.fieldPlan 0 values = .ok documents) :
    IndexedAs s values id t ↔ ∃ d, documents[id]? = some (d, t) := by
  constructor
  · rintro ⟨value, d, place, enrolled⟩
    obtain ⟨entry, found, same⟩ := enrollAll_place ok place
    rw [Nat.zero_add, enrolled] at same
    exact ⟨d, Except.ok.inj same ▸ found⟩
  · rintro ⟨d, found⟩
    obtain ⟨within, _⟩ := List.getElem?_eq_some_iff.mp found
    rw [enrollAll_length ok] at within
    have place : values[id]? = some values[id] := List.getElem?_eq_getElem within
    obtain ⟨entry, same, enrolled⟩ := enrollAll_place ok place
    rw [found] at same
    rw [Nat.zero_add, ← Option.some.inj same] at enrolled
    exact ⟨values[id], d, place, enrolled⟩

theorem lowered_of_indexedText {d : Document} (ok : d.indexedText plan id = .ok t) :
    Text.Lowered t := by
  unfold Document.indexedText at ok
  split at ok
  case h_1 => cases ok
  case h_2 =>
    cases ok
    exact List.forall_mem_nil _
  case h_3 u _ =>
    cases ok
    exact (Text.lowered_lower u).part (Text.trimBy_within Unicode.isBlank _)
  case h_4 => cases ok

theorem IndexedAs.lowered (indexed : IndexedAs s values id t) : Text.Lowered t := by
  obtain ⟨value, d, _, enrolled⟩ := indexed
  obtain ⟨document, _, enrolled⟩ := Outcome.bind_eq_ok.mp enrolled
  obtain ⟨text, known, same⟩ := Outcome.bind_eq_ok.mp enrolled
  cases same
  exact lowered_of_indexedText known

theorem mem_postings_build (ok : enrollAll s.fieldPlan 0 values = .ok documents) :
    id ∈ (ofTexts s documents).postings w ↔
      s.minIndexedWordLength ≤ w.length ∧ ∃ t, IndexedAs s values id t ∧ w ∈ Text.words t := by
  simp only [mem_postings_ofTexts, mem_indexableWords, indexedAs_iff ok]
  constructor
  · rintro ⟨d, t, place, member, long⟩
    exact ⟨long, t, ⟨d, place⟩, member⟩
  · rintro ⟨long, t, ⟨d, place⟩, member⟩
    exact ⟨d, t, place, member, long⟩

theorem mem_vocabulary_iff_posted :
    w ∈ (ofTexts s documents).vocabulary ↔ ∃ id, id ∈ (ofTexts s documents).postings w := by
  simp only [mem_vocabulary_ofTexts, mem_postings_ofTexts]
  constructor
  · rintro ⟨⟨d, t⟩, member, indexed⟩
    obtain ⟨id, place⟩ := List.mem_iff_getElem?.mp member
    exact ⟨id, d, t, place, indexed⟩
  · rintro ⟨id, d, t, place, indexed⟩
    exact ⟨(d, t), List.mem_of_getElem? place, indexed⟩

theorem vocabulary_ascending : Text.Ascending (ofTexts s documents).vocabulary := by
  apply Text.ascending_of_sorted vocabulary_sorted
  simp only [vocabulary, ofTexts, invert, List.map_map, Function.comp_def, List.map_id']
  exact (List.mergeSort_perm _ _).nodup_iff.mpr (Text.nodup_eraseDups _)

/-- What a snapshot of a collection holds, and how its parts agree. -/
structure Consistent (s : Settings) (values : List Value) (snapshot : Snapshot) : Prop where
  documents : snapshot.documents.length = values.length
  summaries : snapshot.summaries.length = values.length
  places : ∀ id value, values[id]? = some value → ∃ d t summary,
    enroll s.fieldPlan value id = .ok (d, t) ∧ snapshot.documents[id]? = some d ∧
      snapshot.summaries[id]? = some summary ∧ summary.docId = id ∧
      summary = summarize s.summaryPrefixWords id t
  postings : ∀ w id, id ∈ snapshot.postings w ↔
    s.minIndexedWordLength ≤ w.length ∧ ∃ t, IndexedAs s values id t ∧ w ∈ Text.words t
  ascending : Text.Ascending snapshot.vocabulary
  vocabulary : ∀ w, w ∈ snapshot.vocabulary ↔ snapshot.postings w ≠ []
  words : ∀ w ∈ snapshot.vocabulary, w ≠ [] ∧ Text.lower w = w ∧ Text.Trimmed Text.isEdge w ∧
    Text.words w = [w]

/-- Every snapshot that is built of a collection is consistent with it. -/
theorem build_consistent (built : build s values = .ok snapshot) :
    Consistent s values snapshot := by
  obtain ⟨entries, ok, rfl⟩ := build_eq_ok.mp built
  have length := enrollAll_length ok
  refine ⟨?_, ?_, ?_, fun w id => mem_postings_build ok, vocabulary_ascending, ?_, ?_⟩
  · simp [ofTexts, length]
  · simp [ofTexts, length]
  · intro id value place
    obtain ⟨⟨d, t⟩, found, enrolled⟩ := enrollAll_place ok place
    rw [Nat.zero_add] at enrolled
    refine ⟨d, t, summarize s.summaryPrefixWords id t, enrolled, ?_, ?_, rfl, rfl⟩
    · simp [ofTexts, found]
    · simp [ofTexts, found]
  · intro w
    rw [mem_vocabulary_iff_posted]
    constructor
    · rintro ⟨id, posted⟩
      exact List.ne_nil_of_mem posted
    · exact List.exists_mem_of_ne_nil _
  · intro w known
    obtain ⟨id, posted⟩ := mem_vocabulary_iff_posted.mp known
    obtain ⟨_, t, indexed, member⟩ := (mem_postings_build ok).mp posted
    obtain ⟨word, _⟩ := Text.isWord_of_mem indexed.lowered member
    exact ⟨word.nonempty, Text.lower_of_lowered word.lowered, word.trimmed, word.words_eq⟩

def dogs : List Value :=
  [.map [("text".toList, .text "-Dog's- a CAT".toList)], .map [("text".toList, .text "cat".toList)]]

def dogIndex : Snapshot :=
  { plan := Settings.fieldPlan {}
    documents := [.record [("text".toList, .text "-Dog's- a CAT".toList)],
      .record [("text".toList, .text "cat".toList)]]
    summaries := [⟨0, 3, "-dog's- a cat".toList, 13⟩, ⟨1, 1, "cat".toList, 3⟩]
    entries := [("cat".toList, [0, 1]), ("dog's".toList, [0])] }

theorem dogs_built : build {} dogs = .ok dogIndex := by
  have words : indexableWords 2 "-dog's- a cat".toList = ["dog's".toList, "cat".toList] ∧
      indexableWords 2 "cat".toList = ["cat".toList] := by
    decide
  have distinct : [["dog's".toList, "cat".toList], ["cat".toList]].flatten.eraseDups =
      ["dog's".toList, "cat".toList] := by
    decide
  have sorted : ["dog's".toList, "cat".toList].mergeSort Text.precedes =
      ["cat".toList, "dog's".toList] :=
    Text.mergeSort_eq (List.Perm.swap _ _ _) (by decide)
  have inverted : invert [["dog's".toList, "cat".toList], ["cat".toList]] = dogIndex.entries := by
    rw [invert, distinct, sorted]
    decide
  refine build_eq_ok.mpr ⟨[(.record [("text".toList, .text "-Dog's- a CAT".toList)],
    "-dog's- a cat".toList), (.record [("text".toList, .text "cat".toList)], "cat".toList)], rfl, ?_⟩
  simp only [ofTexts, List.map_cons, List.map_nil, words.1, words.2, inverted]
  rfl

theorem dogs_consistent : build {} dogs = .ok dogIndex ∧ Consistent {} dogs dogIndex :=
  ⟨dogs_built, build_consistent dogs_built⟩

/-- Of every vocabulary the scan for a prefix gives the words that begin with it, and these in
ascending order, each once. -/
theorem wordsWithPrefix_eq_filter (built : build s values = .ok snapshot) (start : Text) :
    snapshot.wordsWithPrefix start = snapshot.vocabulary.filter start.isPrefixOf ∧
    Text.Ascending (snapshot.wordsWithPrefix start) ∧
    ∀ w, w ∈ snapshot.wordsWithPrefix start ↔ w ∈ snapshot.vocabulary ∧ start <+: w := by
  obtain ⟨entries, _, rfl⟩ := build_eq_ok.mp built
  rw [wordsWithPrefix_ofTexts]
  refine ⟨rfl, vocabulary_ascending.sublist List.filter_sublist, fun w => ?_⟩
  rw [List.mem_filter, List.isPrefixOf_iff_prefix]

theorem dogs_with_prefix :
    build {} dogs = .ok dogIndex ∧ dogIndex.wordsWithPrefix "do".toList = ["dog's".toList] := by
  refine ⟨dogs_built, (wordsWithPrefix_eq_filter dogs_built "do".toList).1.trans ?_⟩
  decide

end Snapshot
end Concordance
