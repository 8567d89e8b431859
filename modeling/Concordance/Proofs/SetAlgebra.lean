import Concordance.Proofs.DocumentAlone
import Concordance.Proofs.EngineRun
import Concordance.Proofs.QueryWords
import Concordance.Proofs.RankedCandidates

/-! Boolean queries as sets of documents. Two words with an operator between them find the documents
in which both stand as whole words, and a word with another one excluded those in which only the
first does. A word alone also finds what it begins and what is one edit away; so the laws of sets
hold between these searches on the documents where both readings of the words agree, and not on
others. -/
namespace Concordance

namespace Snapshot
variable {s : Settings} {values : List Value} {documents : List (Document × Text)} {d : Document}
  {t w : Text} {id : Nat}

/-- Whether a word stands in a document: among the words it is indexed for, or with no word
character on either side. -/
def Stands (s : Settings) (snapshot : Snapshot) (w : Text) (id : Nat) : Prop :=
  id ∈ snapshot.docIds ∧ ∃ t, snapshot.normalizedText id = .ok t ∧
    (w ∈ Text.words t ∧ s.minIndexedWordLength ≤ w.length ∨ Text.hasWholeWord w t = true)

def Counts (s : Settings) (snapshot : Snapshot) (w : Text) (id : Nat) : Prop :=
  id ∈ snapshot.docIds ∧ ∃ t, snapshot.normalizedText id = .ok t ∧
    Candidates.Reached s s.defaultFuzzy [w] t

theorem counts_ofTexts (ok : enrollAll s.fieldPlan 0 values = .ok documents) :
    Counts s (ofTexts s documents) w id ↔
      ∃ d t, documents[id]? = some (d, t) ∧ Candidates.Reached s s.defaultFuzzy [w] t := by
  constructor
  · rintro ⟨member, u, text, reached⟩
    obtain ⟨d, t, place⟩ := mem_docIds_ofTexts.mp member
    cases text.symm.trans (normalizedText_ofTexts ok place)
    exact ⟨d, _, place, reached⟩
  · rintro ⟨d, t, place, reached⟩
    exact ⟨mem_docIds_ofTexts.mpr ⟨d, t, place⟩, t, normalizedText_ofTexts ok place, reached⟩

theorem stands_ofTexts (ok : enrollAll s.fieldPlan 0 values = .ok documents)
    (place : documents[id]? = some (d, t)) :
    Stands s (ofTexts s documents) w id ↔
      w ∈ Text.words t ∧ s.minIndexedWordLength ≤ w.length ∨ Text.hasWholeWord w t = true := by
  have text := normalizedText_ofTexts ok place
  constructor
  · rintro ⟨_, u, same, reading⟩
    cases text.symm.trans same
    exact reading
  · exact fun reading => ⟨mem_docIds_ofTexts.mpr ⟨d, t, place⟩, t, text, reading⟩

theorem matching_word (ok : enrollAll s.fieldPlan 0 values = .ok documents)
    (word : Text.IsQueryWord w) (kind : TokenKind) (plain : kind ≠ .phrase) :
    ∃ ids, QueryToken.matching (ofTexts s documents) ⟨kind, w⟩ = .ok ids ∧
      ∀ id, id ∈ ids ↔ Stands s (ofTexts s documents) w id := by
  have own : Text.distinctWords w = [w] := by
    rw [Text.distinctWords, word.own]
    rfl
  obtain ⟨ids, matched⟩ := QueryToken.matching_of_readable (readable_ofTexts ok) ⟨kind, w⟩
  have stands (id : Nat) (d : Document) (t : Text) (place : documents[id]? = some (d, t)) :
      id ∈ ids ↔ Stands s (ofTexts s documents) w id := by
    rw [← QueryToken.matches_iff matched, QueryToken.matches_iff_mentioned ok place,
      stands_ofTexts ok place, ← mem_indexableWords]
    simp [QueryToken.mentionedIn, plain, own]
  refine ⟨ids, matched, fun id => ?_⟩
  constructor
  · intro member
    obtain ⟨d, t, place⟩ := mem_docIds_ofTexts.mp (QueryToken.matching_inside matched member)
    exact (stands id d t place).mp member
  · intro standing
    obtain ⟨d, t, place⟩ := mem_docIds_ofTexts.mp standing.1
    exact (stands id d t place).mpr standing

end Snapshot

namespace Evaluation
variable {snapshot : Snapshot} {a b w : Text} {first second ids : List Nat}

theorem step_term (ok : QueryToken.matching snapshot ⟨.term, w⟩ = .ok ids) (e : Evaluation) :
    step snapshot e ⟨.term, w⟩ = .ok (gain snapshot false e ids) := by
  simp only [step, ok]
  rfl

theorem step_excluded (ok : QueryToken.matching snapshot ⟨.excluded, w⟩ = .ok ids)
    (e : Evaluation) : step snapshot e ⟨.excluded, w⟩ = .ok { e with found := diff e.found ids } := by
  simp only [step, ok]
  rfl

theorem step_and (e : Evaluation) :
    step snapshot e ⟨.operator, Connective.and.word⟩ = .ok { e with connective := .and } := rfl

theorem run_conjunction (left : QueryToken.matching snapshot ⟨.term, a⟩ = .ok first)
    (right : QueryToken.matching snapshot ⟨.term, b⟩ = .ok second) :
    ∃ result, run snapshot [⟨.term, a⟩, ⟨.operator, Connective.and.word⟩, ⟨.term, b⟩] =
      .ok result ∧ result.docIds = inter (inter snapshot.docIds first) second := by
  have found := Outcome.foldlM_cons (step_term left { found := snapshot.docIds })
    (Outcome.foldlM_cons (step_and _)
      (Outcome.foldlM_cons (step_term right _) Outcome.foldlM_nil))
  exact ⟨_, Outcome.bind_eq_ok.mpr ⟨_, found, rfl⟩, rfl⟩

theorem run_exclusion (left : QueryToken.matching snapshot ⟨.term, a⟩ = .ok first)
    (right : QueryToken.matching snapshot ⟨.excluded, b⟩ = .ok second) :
    ∃ result, run snapshot [⟨.term, a⟩, ⟨.excluded, b⟩] = .ok result ∧
      result.docIds = diff (inter snapshot.docIds first) second := by
  have found := Outcome.foldlM_cons (step_term left { found := snapshot.docIds })
    (Outcome.foldlM_cons (step_excluded right _) Outcome.foldlM_nil)
  exact ⟨_, Outcome.bind_eq_ok.mpr ⟨_, found, rfl⟩, rfl⟩

end Evaluation

namespace Findings
variable {s : Settings} {values : List Value} {documents : List (Document × Text)}
  {query : Text} {tokens : List QueryToken} {found : BooleanMatch}

theorem booleanMatch_shows (ok : Snapshot.enrollAll s.fieldPlan 0 values = .ok documents) {id : Nat}
    (member : id ∈ (Snapshot.ofTexts s documents).docIds) (place : Nat) :
    ∃ result, booleanMatch s (Snapshot.ofTexts s documents) tokens found id place = .ok result ∧
      result.docId = id := by
  obtain ⟨d, t, known⟩ := Snapshot.mem_docIds_ofTexts.mp member
  obtain ⟨u, shown⟩ := Snapshot.shownText_ofTexts ok known
  refine ⟨_, Outcome.bind_eq_ok.mpr ⟨_, Outcome.bind_eq_ok.mpr ⟨u, shown, rfl⟩, rfl⟩, rfl⟩

theorem boolean_lists (ok : Snapshot.enrollAll s.fieldPlan 0 values = .ok documents)
    (read : QueryToken.parse query = tokens) (some : tokens.all (·.kind == .operator) = false)
    (evaluated : Evaluation.run (Snapshot.ofTexts s documents) tokens = .ok found)
    (inside : ∀ id ∈ found.docIds, id ∈ (Snapshot.ofTexts s documents).docIds) :
    ∃ results total, (boolean s (Snapshot.ofTexts s documents) query {}).listing =
      .ok (results, total) ∧ results.map (·.docId) = found.docIds := by
  have shown : ∃ results, (found.docIds.zipIdx 1).mapM (fun entry =>
      booleanMatch s (Snapshot.ofTexts s documents) tokens found entry.1 entry.2) = .ok results ∧
        List.Forall₂ (fun id (result : Match) => result.docId = id) found.docIds results :=
    Outcome.mapM_zipIdx_eq_ok (fun id member => booleanMatch_shows ok (inside id member)) 1
  obtain ⟨results, all, each⟩ := shown
  have ids : results.map (·.docId) = found.docIds := by
    have same := Outcome.map_eq_map_of_forall₂ each
    rwa [List.map_id'] at same
  refine ⟨results, found.docIds.length, ?_, ids⟩
  unfold boolean
  simp only [read, some, Bool.false_eq_true, if_false, evaluated]
  exact Outcome.bind_eq_ok.mpr ⟨_, restrict_unfiltered rfl _, Outcome.bind_eq_ok.mpr ⟨_, all, rfl⟩⟩

end Findings

namespace Engine
variable {s : Settings} {values : List Value} {documents : List (Document × Text)} {a b w : Text}
  {id : Nat}

def idsOn (s : Settings) (snapshot : Snapshot) (query : Text) : List Nat :=
  (answerOn s snapshot query {}).results.map (·.docId)

theorem idsOn_eq {snapshot : Snapshot} {query : Text} {results : List Match} {total : Nat}
    (long : s.minQueryLength ≤ query.length) (ready : snapshot.isReady = true)
    (listed : (Findings.find Binary64 s snapshot query {}).listing = .ok (results, total)) :
    idsOn s snapshot query = results.map (·.docId) := by
  rw [idsOn, answerOn_eq, if_neg (Nat.not_lt.mpr long), if_pos ready, listed]
  rfl

theorem idsOn_unready {snapshot : Snapshot} (unready : snapshot.isReady = false) (query : Text) :
    idsOn s snapshot query = [] := by
  rw [idsOn, answerOn_eq, unready]
  split <;> rfl

theorem docIds_unready {snapshot : Snapshot} (unready : snapshot.isReady = false) :
    snapshot.docIds = [] := by
  have none : snapshot.documents = [] := by simpa [Snapshot.isReady] using unready
  rw [Snapshot.docIds, Snapshot.size, none]
  rfl

theorem length_pos_of_word (word : Text.IsQueryWord w) (short : s.minQueryLength ≤ 1) (rest : Text) :
    s.minQueryLength ≤ (w ++ rest).length := by
  have some := List.length_pos_iff.mpr word.isWord.nonempty
  rw [List.length_append]
  omega

theorem mem_idsOn_boolean (ok : Snapshot.enrollAll s.fieldPlan 0 values = .ok documents)
    {query : Text} {tokens : List QueryToken} {found : BooleanMatch}
    (long : s.minQueryLength ≤ query.length) (reads : QueryToken.isBoolean query = true)
    (read : QueryToken.parse query = tokens) (some : tokens.all (·.kind == .operator) = false)
    (evaluated : Evaluation.run (Snapshot.ofTexts s documents) tokens = .ok found)
    (inside : ∀ id ∈ found.docIds, id ∈ (Snapshot.ofTexts s documents).docIds) :
    id ∈ idsOn s (Snapshot.ofTexts s documents) query ↔ id ∈ found.docIds := by
  cases ready : (Snapshot.ofTexts s documents).isReady with
  | false =>
    have nothing : ∀ id, id ∉ found.docIds := fun id member => by
      have member := inside id member
      rw [docIds_unready ready] at member
      cases member
    simp [idsOn_unready ready, nothing id]
  | true =>
    obtain ⟨results, total, listed, ids⟩ := Findings.boolean_lists ok read some evaluated inside
    have answered : (Findings.find Binary64 s (Snapshot.ofTexts s documents) query {}).listing =
        .ok (results, total) := by
      rw [Findings.find, Findings.searchTypeOf, if_pos reads]
      exact listed
    rw [idsOn_eq long ready answered, ids]

theorem mem_idsOn_conjunction (ok : Snapshot.enrollAll s.fieldPlan 0 values = .ok documents)
    (short : s.minQueryLength ≤ 1) (first : Text.IsQueryWord a) (second : Text.IsQueryWord b) :
    id ∈ idsOn s (Snapshot.ofTexts s documents) (a ++ (" AND ".toList ++ b)) ↔
      Snapshot.Stands s (Snapshot.ofTexts s documents) a id ∧
        Snapshot.Stands s (Snapshot.ofTexts s documents) b id := by
  obtain ⟨left, matchesLeft, inLeft⟩ := Snapshot.matching_word ok first .term (by decide)
  obtain ⟨right, matchesRight, inRight⟩ :=
    Snapshot.matching_word ok second .term (by decide)
  obtain ⟨found, evaluated, ids⟩ := Evaluation.run_conjunction matchesLeft matchesRight
  have inside : ∀ id ∈ found.docIds, id ∈ (Snapshot.ofTexts s documents).docIds := by
    intro id member
    rw [ids, Evaluation.mem_inter, Evaluation.mem_inter] at member
    exact member.1.1
  rw [mem_idsOn_boolean ok (length_pos_of_word first short _) (QueryToken.isBoolean_conjunction a b)
    (QueryToken.parse_conjunction first second) rfl evaluated inside, ids, Evaluation.mem_inter,
    Evaluation.mem_inter, inLeft, inRight]
  exact and_congr_left fun _ => ⟨And.right, fun stands => ⟨stands.1, stands⟩⟩

theorem mem_idsOn_exclusion (ok : Snapshot.enrollAll s.fieldPlan 0 values = .ok documents)
    (short : s.minQueryLength ≤ 1) (first : Text.IsQueryWord a) (second : Text.IsQueryWord b) :
    id ∈ idsOn s (Snapshot.ofTexts s documents) (a ++ (" -".toList ++ b)) ↔
      Snapshot.Stands s (Snapshot.ofTexts s documents) a id ∧
        ¬Snapshot.Stands s (Snapshot.ofTexts s documents) b id := by
  obtain ⟨left, matchesLeft, inLeft⟩ := Snapshot.matching_word ok first .term (by decide)
  obtain ⟨right, matchesRight, inRight⟩ :=
    Snapshot.matching_word ok second .excluded (by decide)
  obtain ⟨found, evaluated, ids⟩ := Evaluation.run_exclusion matchesLeft matchesRight
  have inside : ∀ id ∈ found.docIds, id ∈ (Snapshot.ofTexts s documents).docIds := by
    intro id member
    rw [ids, Evaluation.mem_diff, Evaluation.mem_inter] at member
    exact member.1.1
  rw [mem_idsOn_boolean ok (length_pos_of_word first short _) (QueryToken.isBoolean_exclusion a b)
    (QueryToken.parse_exclusion first second) rfl evaluated inside, ids, Evaluation.mem_diff,
    Evaluation.mem_inter, inLeft, inRight]
  exact and_congr_left fun _ => ⟨And.right, fun stands => ⟨stands.1, stands⟩⟩

theorem mem_idsOn_word (ok : Snapshot.enrollAll s.fieldPlan 0 values = .ok documents)
    (valid : s.Valid) (keeps : s.KeepsHits) (moderate : s.Moderate)
    (lengths : ∀ id t, Snapshot.IndexedAs s values id t → t.length ≤ 2 ^ 64)
    (short : s.minQueryLength ≤ 1) (word : Text.IsQueryWord w) :
    id ∈ idsOn s (Snapshot.ofTexts s documents) w ↔
      Snapshot.Counts s (Snapshot.ofTexts s documents) w id := by
  cases ready : (Snapshot.ofTexts s documents).isReady with
  | false => simp [idsOn_unready ready, Snapshot.Counts, docIds_unready ready]
  | true =>
    have plain : Text.words (Text.trim (Text.lower w)) = [w] := by rw [word.normalized, word.own]
    have few : [w].length ≤ 2 ^ 51 := by
      rw [List.length_singleton]
      decide
    have kept : Scoring.KeepsAll Binary64 s (Snapshot.ofTexts s documents) [w]
        (Text.trim (Text.lower w)) s.defaultFuzzy :=
      Scoring.rank_keepsAll (.ofBinary64 valid keeps moderate.leastWeight_le) valid ok
        (fun id t indexed => moderate.fits (lengths id t indexed) few) _ _
    rw [← plain] at kept
    have lists : Findings.ListsAll Binary64 s (Snapshot.ofTexts s documents) w {} :=
      Findings.fast_listsAll ok rfl rfl kept
    obtain ⟨results, listed, perm, _⟩ := lists
    have answered : (Findings.find Binary64 s (Snapshot.ofTexts s documents) w {}).listing =
        (Findings.fast Binary64 s (Snapshot.ofTexts s documents) w {}).listing := by
      rw [Findings.find, Findings.searchTypeOf, QueryToken.isBoolean_word word]
      rfl
    have long := length_pos_of_word word short []
    rw [List.append_nil] at long
    rw [idsOn_eq long ready (answered.trans listed), perm.mem_iff, plain,
      Candidates.mem_find_ofTexts, Snapshot.counts_ofTexts ok]
    rfl

theorem mem_idsOn_word_standard
    (ok : Snapshot.enrollAll (Settings.fieldPlan {}) 0 values = .ok documents)
    (lengths : ∀ i t, (Snapshot.ofTexts {} documents).normalizedText i = .ok t →
      t.length ≤ 2 ^ 64)
    (word : Text.IsQueryWord w) :
    id ∈ idsOn {} (Snapshot.ofTexts {} documents) w ↔
      Snapshot.Counts {} (Snapshot.ofTexts {} documents) w id := by
  apply mem_idsOn_word ok (Settings.valid_of_read Settings.read_standard)
    Settings.keepsHits_standard Settings.moderate_standard _ (by decide) word
  intro i t indexed
  obtain ⟨d, place⟩ := (Snapshot.indexedAs_iff ok).mp indexed
  exact lengths i t (Snapshot.normalizedText_ofTexts ok place)

theorem snapshotOf_eq_ofTexts (s : Settings) (collection : Value) :
    ∃ values documents, Snapshot.enrollAll s.fieldPlan 0 values = .ok documents ∧
      snapshotOf s collection = Snapshot.ofTexts s documents := by
  have empty : Snapshot.empty s = Snapshot.ofTexts s [] := by
    simp [Snapshot.empty, Snapshot.ofTexts, Snapshot.invert]
  unfold snapshotOf
  split
  next snapshot built =>
    obtain ⟨members, _, built⟩ := Outcome.bind_eq_ok.mp built
    unfold index at built
    split at built
    · cases built
      exact ⟨[], [], rfl, empty⟩
    · obtain ⟨documents, ok, rfl⟩ := Snapshot.build_eq_ok.mp built
      exact ⟨members, documents, ok, rfl⟩
  next => exact ⟨[], [], rfl, empty⟩

def found (e : Engine) (query : Text) (elapsed : Binary64) : List Nat :=
  (e.search query {} elapsed).2.results.map (·.docId)

theorem found_create (s : Settings) (name : Text) (collection : Value) (began : Binary64)
    (query : Text) (elapsed : Binary64) :
    found (create s name collection began) query elapsed =
      idsOn s (snapshotOf s collection) query := by
  rw [found, create_search, idsOn]

/-- With default settings two words with an operator between them find the documents in which both
stand, and a word with another one excluded those in which only the first does. On a document in
which each word stands exactly if an indexed word counts for it, these are the intersection and the
difference of what the words find alone. -/
theorem set_algebra_where_readings_agree (name : Text) (collection : Value)
    (began elapsed : Binary64) {a b : Text} (first : Text.IsQueryWord a)
    (second : Text.IsQueryWord b) (id : Nat) :
    let e := create {} name collection began
    let snapshot := snapshotOf {} collection
    (id ∈ found e (a ++ (" AND ".toList ++ b)) elapsed ↔
      Snapshot.Stands {} snapshot a id ∧ Snapshot.Stands {} snapshot b id) ∧
    (id ∈ found e (a ++ (" -".toList ++ b)) elapsed ↔
      Snapshot.Stands {} snapshot a id ∧ ¬Snapshot.Stands {} snapshot b id) ∧
    ((∀ i t, snapshot.normalizedText i = .ok t → t.length ≤ 2 ^ 64) →
      (Snapshot.Stands {} snapshot a id ↔ Snapshot.Counts {} snapshot a id) →
      (Snapshot.Stands {} snapshot b id ↔ Snapshot.Counts {} snapshot b id) →
      (id ∈ found e (a ++ (" AND ".toList ++ b)) elapsed ↔
        id ∈ found e a elapsed ∧ id ∈ found e b elapsed) ∧
      (id ∈ found e (a ++ (" -".toList ++ b)) elapsed ↔
        id ∈ found e a elapsed ∧ id ∉ found e b elapsed)) := by
  obtain ⟨values, documents, ok, published⟩ := snapshotOf_eq_ofTexts {} collection
  have both : id ∈ idsOn {} (Snapshot.ofTexts {} documents) (a ++ (" AND ".toList ++ b)) ↔
      Snapshot.Stands {} (Snapshot.ofTexts {} documents) a id ∧
        Snapshot.Stands {} (Snapshot.ofTexts {} documents) b id :=
    mem_idsOn_conjunction ok (by decide) first second
  have only : id ∈ idsOn {} (Snapshot.ofTexts {} documents) (a ++ (" -".toList ++ b)) ↔
      Snapshot.Stands {} (Snapshot.ofTexts {} documents) a id ∧
        ¬Snapshot.Stands {} (Snapshot.ofTexts {} documents) b id :=
    mem_idsOn_exclusion ok (by decide) first second
  simp only [found_create, published]
  refine ⟨both, only, fun lengths left right => ?_⟩
  rw [both, only, mem_idsOn_word_standard ok lengths first,
    mem_idsOn_word_standard ok lengths second, left, right]
  exact ⟨Iff.rfl, Iff.rfl⟩

theorem isQueryWord_ca : Text.IsQueryWord "ca".toList :=
  ⟨by decide, by decide, by decide⟩

theorem isQueryWord_cat : Text.IsQueryWord "cat".toList :=
  ⟨by decide, by decide, by decide⟩

theorem isQueryWord_dog : Text.IsQueryWord "dog".toList :=
  ⟨by decide, by decide, by decide⟩

def catMembers : List Value := [.map [("text".toList, .text "cat".toList)]]

def catDocuments : List (Document × Text) :=
  [(.record [("text".toList, .text "cat".toList)], "cat".toList)]

theorem catDocuments_enrolled :
    Snapshot.enrollAll (Settings.fieldPlan {}) 0 catMembers = .ok catDocuments := rfl

theorem snapshotOf_cats : snapshotOf {} Session.cats = .ofTexts {} catDocuments := by
  rw [snapshotOf, Session.cats_indexed]
  exact (Snapshot.ofTexts_one_word (by decide)).symm

theorem lengths_of_cats {i : Nat} {t : Text}
    (text : (snapshotOf {} Session.cats).normalizedText i = .ok t) : t.length ≤ 2 ^ 64 := by
  rw [snapshotOf_cats] at text
  cases i with
  | zero =>
    have known : (Snapshot.ofTexts {} catDocuments).normalizedText 0 = .ok "cat".toList :=
      Snapshot.normalizedText_ofTexts catDocuments_enrolled rfl
    cases text.symm.trans known
    decide
  | succ i =>
    cases text
    decide

theorem stands_among_cats (w : Text) : Snapshot.Stands {} (snapshotOf {} Session.cats) w 0 ↔
    w ∈ Text.words "cat".toList ∧ 2 ≤ w.length ∨ Text.hasWholeWord w "cat".toList = true := by
  rw [snapshotOf_cats]
  exact Snapshot.stands_ofTexts catDocuments_enrolled rfl

theorem counts_among_cats (w : Text) : Snapshot.Counts {} (snapshotOf {} Session.cats) w 0 ↔
    Candidates.Expands {} true w "cat".toList := by
  have only : Text.words "cat".toList = ["cat".toList] := isQueryWord_cat.own
  rw [snapshotOf_cats, Snapshot.counts_ofTexts catDocuments_enrolled]
  constructor
  · rintro ⟨d, t, place, q, asked, v, member, _, expands⟩
    cases place
    rw [only, List.mem_singleton] at member
    cases List.mem_singleton.mp asked
    rwa [member] at expands
  · intro expands
    refine ⟨_, _, rfl, w, List.mem_singleton_self w, "cat".toList, ?_, by decide, expands⟩
    rw [only]
    exact List.mem_singleton_self _

theorem not_expands_dog : ¬Candidates.Expands {} true "dog".toList "cat".toList := by
  intro expands
  have unlike : "cat".toList ≠ "dog".toList ∧ "dog".toList.isPrefixOf "cat".toList = false ∧
      Fuzzy.isVariant "dog".toList "cat".toList = false := by decide +kernel
  generalize "cat".toList = v at expands unlike
  cases expands with
  | word => exact unlike.1 rfl
  | extension _ _ begins => cases unlike.2.1.symm.trans begins
  | variant _ _ _ near => cases unlike.2.2.symm.trans near

theorem cats_without_dogs :
    Text.IsQueryWord "cat".toList ∧ Text.IsQueryWord "dog".toList ∧
    (∀ i t, (snapshotOf {} Session.cats).normalizedText i = .ok t → t.length ≤ 2 ^ 64) ∧
    (Snapshot.Stands {} (snapshotOf {} Session.cats) "cat".toList 0 ↔
      Snapshot.Counts {} (snapshotOf {} Session.cats) "cat".toList 0) ∧
    (Snapshot.Stands {} (snapshotOf {} Session.cats) "dog".toList 0 ↔
      Snapshot.Counts {} (snapshotOf {} Session.cats) "dog".toList 0) ∧
    let e := create {} "cats".toList Session.cats .zero
    0 ∈ found e "cat -dog".toList .zero ∧ 0 ∉ found e "cat AND dog".toList .zero ∧
    0 ∈ found e "cat".toList .zero ∧ 0 ∉ found e "dog".toList .zero := by
  have cat : Snapshot.Stands {} (snapshotOf {} Session.cats) "cat".toList 0 :=
    (stands_among_cats _).mpr (by decide +kernel)
  have dog : ¬Snapshot.Stands {} (snapshotOf {} Session.cats) "dog".toList 0 :=
    (stands_among_cats _).not.mpr (by decide +kernel)
  have catAgrees : Snapshot.Stands {} (snapshotOf {} Session.cats) "cat".toList 0 ↔
      Snapshot.Counts {} (snapshotOf {} Session.cats) "cat".toList 0 :=
    iff_of_true cat ((counts_among_cats _).mpr .word)
  have dogAgrees : Snapshot.Stands {} (snapshotOf {} Session.cats) "dog".toList 0 ↔
      Snapshot.Counts {} (snapshotOf {} Session.cats) "dog".toList 0 :=
    iff_of_false dog ((counts_among_cats _).not.mpr not_expands_dog)
  obtain ⟨both, only, laws⟩ := set_algebra_where_readings_agree "cats".toList Session.cats .zero
    .zero isQueryWord_cat isQueryWord_dog 0
  obtain ⟨_, difference⟩ := laws (fun _ _ => lengths_of_cats) catAgrees dogAgrees
  have without := only.mpr ⟨cat, dog⟩
  have apart := difference.mp without
  exact ⟨isQueryWord_cat, isQueryWord_dog, fun _ _ => lengths_of_cats, catAgrees, dogAgrees,
    without, fun together => dog (both.mp together).2, apart.1, apart.2⟩

theorem found_among_cats {w : Text} (word : Text.IsQueryWord w) :
    0 ∈ found (create {} "cats".toList Session.cats .zero) w .zero ↔
      Candidates.Expands {} true w "cat".toList := by
  have lengths := @lengths_of_cats
  rw [snapshotOf_cats] at lengths
  rw [← counts_among_cats, found_create, snapshotOf_cats]
  exact mem_idsOn_word_standard catDocuments_enrolled (fun _ _ => lengths) word

theorem set_algebra_does_not_always_hold :
    (¬∀ (collection : Value) (a b : Text) (id : Nat),
      Text.IsQueryWord a → Text.IsQueryWord b →
      let e := create {} "cats".toList collection .zero
      (id ∈ found e (a ++ (" AND ".toList ++ b)) .zero ↔
        id ∈ found e a .zero ∧ id ∈ found e b .zero)) ∧
    ¬∀ (collection : Value) (a b : Text) (id : Nat),
      Text.IsQueryWord a → Text.IsQueryWord b →
      let e := create {} "cats".toList collection .zero
      (id ∈ found e (a ++ (" -".toList ++ b)) .zero ↔
        id ∈ found e a .zero ∧ id ∉ found e b .zero) := by
  have cat := (found_among_cats isQueryWord_cat).mpr .word
  have ca := (found_among_cats isQueryWord_ca).mpr (.extension _ (by decide) (by decide))
  have stands : Snapshot.Stands {} (snapshotOf {} Session.cats) "cat".toList 0 :=
    (stands_among_cats _).mpr (by decide +kernel)
  have lacks : ¬Snapshot.Stands {} (snapshotOf {} Session.cats) "ca".toList 0 :=
    (stands_among_cats _).not.mpr (by decide +kernel)
  rw [snapshotOf_cats] at stands lacks
  constructor
  · intro all
    have together := (all Session.cats _ _ 0 isQueryWord_ca isQueryWord_cat).mpr ⟨ca, cat⟩
    rw [found_create, snapshotOf_cats, mem_idsOn_conjunction catDocuments_enrolled (by decide)
      isQueryWord_ca isQueryWord_cat] at together
    exact lacks together.1
  · intro all
    have without : 0 ∈ found (create {} "cats".toList Session.cats .zero)
        ("cat".toList ++ (" -".toList ++ "ca".toList)) .zero := by
      rw [found_create, snapshotOf_cats, mem_idsOn_exclusion catDocuments_enrolled (by decide)
        isQueryWord_cat isQueryWord_ca]
      exact ⟨stands, lacks⟩
    exact ((all Session.cats _ _ 0 isQueryWord_cat isQueryWord_ca).mp without).2 ca

end Engine
end Concordance
