import Concordance.Proofs.CandidateSet
import Concordance.Proofs.FloatCredit
import Concordance.Search.Findings

/-! No candidate is lost in ranking. A document is a candidate because a word of its text counts for
a query word; the word, or the query word that begins it, stands in the text when it is scored, or
the word is one of the variants. So every candidate earns something and keeps it, and an answer in
free text that is neither filtered nor cut lists exactly the candidates. -/
namespace Concordance

namespace Candidates
variable {s : Settings} {snapshot : Snapshot} {fuzzy : Bool} {documents : List (Document × Text)}
  {words : List Text} {q v t : Text} {id : Nat} {d : Document}

theorem lookup_nonempty (g : Text → List Text) (listed : List Text) (q : Text) :
    (listed.filterMap fun w => if (g w).isEmpty then none else some (w, g w)).lookup q =
      if q ∈ listed ∧ g q ≠ [] then some (g q) else none := by
  induction listed with
  | nil => rfl
  | cons w listed ih =>
    rw [List.filterMap_cons]
    cases empty : (g w).isEmpty with
    | true =>
      have nothing : g w = [] := List.isEmpty_iff.mp empty
      simp only [if_true, ih, List.mem_cons]
      by_cases same : q = w
      · simp [same, nothing]
      · simp [same]
    | false =>
      have some : g w ≠ [] := List.isEmpty_eq_false_iff.mp empty
      simp only [Bool.false_eq_true, if_false, List.lookup_cons, ih, List.mem_cons]
      by_cases same : q = w
      · simp [same, some]
      · simp [same, beq_eq_false_iff_ne.mpr same]

theorem lookup_variants (member : q ∈ words) :
    ((find s snapshot words fuzzy).variants.lookup q).getD [] = variantsOf s snapshot fuzzy q := by
  have listed := lookup_nonempty (variantsOf s snapshot fuzzy) words.eraseDups q
  simp only [List.mem_eraseDups, member, true_and] at listed
  simp only [find, listed]
  by_cases none : variantsOf s snapshot fuzzy q = [] <;> simp [none]

theorem find_no_words : (find s snapshot [] fuzzy).docIds = [] :=
  List.filter_eq_nil_iff.mpr (by simp)

theorem found_of_word (word : Text.IsWord v) (within : v <:+: t) : (WordHits.of v t).found = true :=
  WordHits.found_of_occurs word.nonempty (Text.occursIn_iff_within.mpr within)

theorem holds_of_expands (valid : s.Valid) (lowered : Text.Lowered t)
    (place : documents[id]? = some (d, t)) (query : q ∈ words) (member : v ∈ Text.words t)
    (long : s.minIndexedWordLength ≤ v.length) (expands : Expands s fuzzy q v) :
    Scoring.Holds (find s (Snapshot.ofTexts s documents) words fuzzy).variants t q := by
  obtain ⟨word, within⟩ := Text.isWord_of_mem lowered member
  cases expands with
  | word => exact .inl (found_of_word word within)
  | extension _ due begins =>
    have nonempty : q ≠ [] := List.length_pos_iff.mp (Nat.lt_of_lt_of_le valid.minPrefixLength due)
    have starts : q <:+: v := (List.isPrefixOf_iff_prefix.mp begins).isInfix
    exact .inl (WordHits.found_of_occurs nonempty
      (Text.occursIn_iff_within.mpr (starts.trans within)))
  | variant _ on due near =>
    have known : v ∈ (Snapshot.ofTexts s documents).vocabulary :=
      Snapshot.mem_vocabulary_ofTexts.mpr ⟨_, List.mem_of_getElem? place,
        Snapshot.mem_indexableWords.mpr ⟨member, long⟩⟩
    refine .inr ⟨v, ?_, found_of_word word within⟩
    rw [lookup_variants query]
    exact mem_variantsOf.mpr ⟨known, on, due, near⟩

end Candidates

namespace Snapshot
variable {s : Settings} {snapshot : Snapshot} {documents : List (Document × Text)} {d : Document}
  {t : Text} {id : Nat}

theorem shownText_of_indexed {number : Nat} (place : snapshot.documents[id]? = some d)
    (ok : d.indexedText snapshot.plan number = .ok t) : ∃ u, snapshot.shownText id = .ok u := by
  unfold Document.indexedText at ok
  simp only [shownText, currentText, place]
  split at ok
  case h_1 => cases ok
  case h_2 given =>
    simp only [given]
    exact ⟨_, rfl⟩
  case h_3 u given =>
    simp only [given]
    cases u with
    | nil => exact ⟨_, rfl⟩
    | cons c u => exact ⟨_, rfl⟩
  case h_4 => cases ok

theorem shownText_ofTexts (ok : enrollAll s.fieldPlan 0 values = .ok documents)
    (place : documents[id]? = some (d, t)) : ∃ u, (ofTexts s documents).shownText id = .ok u :=
  shownText_of_indexed (by simp [ofTexts, place]) (enrollAll_indexedText ok place)

end Snapshot

namespace Scoring
variable {α : Type} [Credit α] {s : Settings} {largest terms : Option Nat} {values : List Value}
  {documents : List (Document × Text)} {fuzzy : Bool} {words : List Text} {query t : Text}
  {id : Nat}

theorem Fits.of_unlimited : Fits s none none t words := by
  constructor <;> exact fun _ none => nomatch none

theorem Fits.eraseDups (fits : Fits s largest terms t words) :
    Fits s largest terms t words.eraseDups := by
  have fewer : words.eraseDups.length ≤ words.length :=
    ((Text.nodup_eraseDups words).subperm fun _ => List.mem_eraseDups.mp).length_le
  exact { fits with
    several := fits.several.mono (Nat.mul_le_mul_right _ fewer)
    terms := fits.terms.mono (Nat.add_le_add_right fewer 4) }

def IsHit (id : Nat) (d : Scored) : Prop := d.docId = id ∧ 0 < d.score ∧ 1 ≤ d.matchCount

theorem scoreDocument_isHit (law : Rewarding α s largest terms) (valid : s.Valid)
    (ok : Snapshot.enrollAll s.fieldPlan 0 values = .ok documents)
    (fits : ∀ id t, Snapshot.IndexedAs s values id t → Fits s largest terms t words)
    (candidate : id ∈ (Candidates.find s (Snapshot.ofTexts s documents) words fuzzy).docIds)
    (query : Text) :
    ∃ d, scoreDocument α s (Snapshot.ofTexts s documents) id words query
      (Candidates.find s (Snapshot.ofTexts s documents) words fuzzy).variants = .ok d ∧
        IsHit id d := by
  obtain ⟨d, t, place, q, member, v, spoken, long, expands⟩ :=
    Candidates.mem_find_ofTexts.mp candidate
  have indexed : Snapshot.IndexedAs s values id t := (Snapshot.indexedAs_iff ok).mpr ⟨d, place⟩
  have holds : Holds (Candidates.find s (Snapshot.ofTexts s documents) words fuzzy).variants t q :=
    Candidates.holds_of_expands valid indexed.lowered place member spoken long expands
  have distinct : q ∈ words.eraseDups := List.mem_eraseDups.mpr member
  have text := Snapshot.normalizedText_ofTexts ok place
  have summary : (Snapshot.ofTexts s documents).summaries[id]? =
      some (Snapshot.summarize s.summaryPrefixWords id t) := by
    simp [Snapshot.ofTexts, place]
  obtain ⟨score, count, scored, positive, some⟩ := scoreText_rewarded law (fits id t indexed).eraseDups
    ⟨q, distinct, holds⟩ (Snapshot.summarize s.summaryPrefixWords id t) query
  refine ⟨⟨id, score, count⟩, ?_, rfl, positive, some⟩
  unfold scoreDocument
  have nonempty : words.eraseDups.isEmpty = false :=
    List.isEmpty_eq_false_iff.mpr (List.ne_nil_of_mem distinct)
  simp only [nonempty, Bool.false_eq_true, if_false]
  refine Outcome.bind_eq_ok.mpr ⟨t, text, ?_⟩
  simp only [summary]
  exact Outcome.bind_eq_ok.mpr ⟨_, scored, rfl⟩

def KeepsAll (α : Type) [Credit α] (s : Settings) (snapshot : Snapshot) (words : List Text)
    (query : Text) (fuzzy : Bool) : Prop :=
  ∃ ranked, rank α s snapshot (Candidates.find s snapshot words fuzzy) words query = .ok ranked ∧
    (ranked.map (·.docId)).Perm (Candidates.find s snapshot words fuzzy).docIds ∧
      ∀ d ∈ ranked, 0 < d.score ∧ 1 ≤ d.matchCount

theorem rank_keepsAll (law : Rewarding α s largest terms) (valid : s.Valid)
    (ok : Snapshot.enrollAll s.fieldPlan 0 values = .ok documents)
    (fits : ∀ id t, Snapshot.IndexedAs s values id t → Fits s largest terms t words)
    (query : Text) (fuzzy : Bool) :
    KeepsAll α s (Snapshot.ofTexts s documents) words query fuzzy := by
  obtain ⟨scored, all, each⟩ := Outcome.mapM_eq_ok fun id candidate =>
    scoreDocument_isHit law valid ok fits candidate (Text.trim (Text.lower query))
  have ids := Outcome.map_eq_map_of_forall₂ (each.imp fun _ _ hit => hit.1)
  have hit := Outcome.forall_of_forall₂ (each.imp fun _ _ hit => hit.2)
  have kept : (scored.filter fun d => 0 < d.score) = scored :=
    List.filter_eq_self.mpr fun d member => decide_eq_true (hit d member).1
  have sorted := List.mergeSort_perm scored ranksBefore
  refine ⟨scored.mergeSort ranksBefore, ?_, ?_, fun d member => hit d (sorted.mem_iff.mp member)⟩
  · refine Outcome.bind_eq_ok.mpr ⟨_, all, ?_⟩
    rw [kept]
    rfl
  · rw [List.map_id'] at ids
    rw [← ids]
    exact sorted.map _

end Scoring

namespace Findings
variable {α : Type} [Credit α] {s : Settings} {largest terms : Option Nat} {values : List Value}
  {documents : List (Document × Text)} {snapshot : Snapshot} {options : SearchOptions}
  {ids : List Nat} {query : Text}

theorem restrict_unfiltered (unfiltered : options.filters = []) (ids : List Nat) :
    restrict snapshot options ids = .ok ids := by
  refine Outcome.filterM_eq_ok.mpr ⟨fun id _ => ⟨true, ?_⟩, ?_⟩
  · rw [unfiltered]
    rfl
  · rw [unfiltered]
    exact (List.filter_eq_self.mpr fun _ _ => rfl).symm

theorem cap_unlimited {β : Type} (unlimited : options.limit = none) (results : List β) :
    options.cap results = results := by
  rw [SearchOptions.cap, unlimited]

theorem highlight_of_candidate (ok : Snapshot.enrollAll s.fieldPlan 0 values = .ok documents)
    {words others : List Text} {fuzzy : Bool} {id : Nat}
    (candidate : id ∈ (Candidates.find s (Snapshot.ofTexts s documents) words fuzzy).docIds) :
    ∃ u, highlight s (Snapshot.ofTexts s documents) others id = .ok u := by
  obtain ⟨d, t, place, _⟩ := Candidates.mem_find_ofTexts.mp candidate
  obtain ⟨u, shown⟩ := Snapshot.shownText_ofTexts ok place
  exact ⟨_, Outcome.bind_eq_ok.mpr ⟨u, shown, rfl⟩⟩

def ShowsHit (d : Scored) (found : Match) : Prop :=
  found.docId = d.docId ∧ 0 < found.score ∧ 1 ≤ found.matchCount

theorem scoredMatch_showsHit (ok : Snapshot.enrollAll s.fieldPlan 0 values = .ok documents)
    {words others : List Text} {fuzzy : Bool} {d : Scored}
    (candidate : d.docId ∈ (Candidates.find s (Snapshot.ofTexts s documents) words fuzzy).docIds)
    (hit : 0 < d.score ∧ 1 ≤ d.matchCount) (place : Nat) :
    ∃ found, scoredMatch s (Snapshot.ofTexts s documents) others d place = .ok found ∧
      ShowsHit d found := by
  obtain ⟨u, shown⟩ := highlight_of_candidate ok candidate
  exact ⟨_, Outcome.bind_eq_ok.mpr ⟨u, shown, rfl⟩, rfl, hit⟩

def ListsAll (α : Type) [Credit α] (s : Settings) (snapshot : Snapshot) (query : Text)
    (options : SearchOptions) : Prop :=
  let words := Text.words (Text.trim (Text.lower query))
  let candidates := Candidates.find s snapshot words (options.isFuzzy s)
  ∃ results, (fast α s snapshot query options).listing = .ok (results, candidates.docIds.length) ∧
    (results.map (·.docId)).Perm candidates.docIds ∧
      ∀ found ∈ results, 0 < found.score ∧ 1 ≤ found.matchCount

theorem fast_listsAll (ok : Snapshot.enrollAll s.fieldPlan 0 values = .ok documents)
    (unfiltered : options.filters = []) (unlimited : options.limit = none)
    (kept : Scoring.KeepsAll α s (Snapshot.ofTexts s documents)
      (Text.words (Text.trim (Text.lower query))) (Text.trim (Text.lower query))
      (options.isFuzzy s)) :
    ListsAll α s (Snapshot.ofTexts s documents) query options := by
  obtain ⟨ranking, ranks, perm, hit⟩ := kept
  unfold ListsAll fast
  dsimp only
  split
  next empty =>
    have nothing := List.isEmpty_iff.mp empty
    rw [nothing, Candidates.find_no_words]
    exact ⟨[], rfl, List.Perm.refl _, List.forall_mem_nil _⟩
  next =>
    have scored : ranked α s (Snapshot.ofTexts s documents)
        (Text.words (Text.trim (Text.lower query))) (Text.trim (Text.lower query)) options =
          .ok ranking :=
      Outcome.bind_eq_ok.mpr ⟨_, restrict_unfiltered unfiltered _, ranks⟩
    have shown : ∃ results, (ranking.zipIdx 1).mapM (fun entry => scoredMatch s
        (Snapshot.ofTexts s documents) (Text.words (Text.trim (Text.lower query))).eraseDups
        entry.1 entry.2) = .ok results ∧ List.Forall₂ ShowsHit ranking results :=
      Outcome.mapM_zipIdx_eq_ok (fun d member =>
        scoredMatch_showsHit ok (perm.subset (List.mem_map_of_mem member)) (hit d member)) 1
    obtain ⟨results, all, each⟩ := shown
    have ids := Outcome.map_eq_map_of_forall₂ (each.imp fun _ _ shows => shows.1)
    refine ⟨results, ?_, ?_, Outcome.forall_of_forall₂ (each.imp fun _ _ shows => shows.2)⟩
    · refine Outcome.bind_eq_ok.mpr ⟨_, scored, ?_⟩
      rw [cap_unlimited unlimited]
      refine Outcome.bind_eq_ok.mpr ⟨_, all, ?_⟩
      rw [← perm.length_eq, List.length_map]
      rfl
    · exact ids ▸ perm

end Findings

namespace Settings

/-- Settings whose weights and bonuses are represented exactly in floating point. -/
structure Moderate (s : Settings) : Prop where
  weights : s.greatestWeight ≤ 2 ^ 53
  several : s.multiWordBonus ≤ 2 ^ 53
  phrase : s.exactPhraseBonus ≤ 2 ^ 53
  leading : s.leadingWordsBonus ≤ 2 ^ 53
  position : s.positionBonusMax ≤ 2 ^ 53

theorem Moderate.fits {s : Settings} (moderate : s.Moderate) {t : Text} {words : List Text}
    (short : t.length ≤ 2 ^ 64) (few : words.length ≤ 2 ^ 51) :
    Scoring.Fits s (some (2 ^ 128)) (some (2 ^ 52)) t words := by
  have single {n : Nat} (le : n ≤ 2 ^ 53) : Within (some (2 ^ 128)) n := by
    rintro _ ⟨⟩
    omega
  refine ⟨?_, ?_, single moderate.phrase, single moderate.leading, single moderate.position, ?_⟩
  · rintro _ ⟨⟩
    exact (Nat.mul_le_mul short moderate.weights).trans (by decide)
  · rintro _ ⟨⟩
    exact (Nat.mul_le_mul few moderate.several).trans (by decide)
  · rintro _ ⟨⟩
    omega

theorem Moderate.leastWeight_le {s : Settings} (moderate : s.Moderate) :
    s.leastWeight ≤ 2 ^ 53 :=
  s.leastWeight_le.1.trans (s.le_greatestWeight.1.trans moderate.weights)

theorem half_le_value {x : Binary64} (exact : x = .finite false x.quanta)
    (half : Binary64.unit ≤ 2 * x.quanta) : 1 / 2 ≤ x.value := by
  have half : (Binary64.unit : ℚ) ≤ 2 * x.quanta := by exact_mod_cast half
  rw [exact, Binary64.value, Binary64.signed, if_neg Bool.false_ne_true,
    le_div_iff₀ Binary64.unit_cast_pos]
  push_cast
  linarith

theorem KeepsHits.of_standard {s : Settings} (weights : 15 ≤ s.leastWeight)
    (discount : s.fuzzyDiscount = ({} : Settings).fuzzyDiscount)
    (penalty : s.longDocumentPenalty = ({} : Settings).longDocumentPenalty) : s.KeepsHits := by
  have least := s.leastWeight_le
  have half_discount : 1 / 2 ≤ s.fuzzyDiscount.value := by
    rw [discount]
    exact half_le_value (by decide +kernel) (by decide +kernel)
  have half_penalty : 1 / 2 ≤ s.longDocumentPenalty.value := by
    rw [penalty]
    exact half_le_value (by decide +kernel) (by decide +kernel)
  have enough : (15 : ℚ) ≤ s.leastWeight := by exact_mod_cast weights
  refine ⟨by omega, by omega, by omega, ?_⟩
  rw [mul_assoc]
  calc
    (1 / 2 : ℚ) ≤ 15 * (1 / 2 * (1 / 2)) := by norm_num
    _ ≤ (s.leastWeight : ℚ) * (s.fuzzyDiscount.value * s.longDocumentPenalty.value) :=
      mul_le_mul enough
        (mul_le_mul half_discount half_penalty (by norm_num)
          (le_trans (by norm_num) half_discount))
        (by norm_num) (by positivity)

theorem keepsHits_standard : ({} : Settings).KeepsHits := .of_standard (by decide) rfl rfl

theorem moderate_standard : ({} : Settings).Moderate := by
  constructor <;> decide

end Settings

namespace Findings
variable {s : Settings} {snapshot : Snapshot} {values : List Value} {given : Fields}
  {environment : List (Text × Text)}

/-- Under settings that keep hits every candidate is ranked with a score above zero and a matched
word, and an answer in free text, neither filtered nor cut, lists exactly the candidates. This holds
in exact arithmetic, and in floating point if weights, texts and queries are not beyond all
measure. -/
theorem candidates_kept_and_listed (read : Settings.read given environment = .ok s)
    (keeps : s.KeepsHits) (built : Snapshot.build s values = .ok snapshot) :
    (∀ words query fuzzy, Scoring.KeepsAll ℚ s snapshot words query fuzzy) ∧
    (∀ query options, options.filters = [] → options.limit = none →
      ListsAll ℚ s snapshot query options) ∧
    (s.Moderate → (∀ id t, Snapshot.IndexedAs s values id t → t.length ≤ 2 ^ 64) →
      (∀ words query fuzzy, words.length ≤ 2 ^ 51 →
        Scoring.KeepsAll Binary64 s snapshot words query fuzzy) ∧
      ∀ query options, options.filters = [] → options.limit = none →
        (Text.words (Text.trim (Text.lower query))).length ≤ 2 ^ 51 →
        ListsAll Binary64 s snapshot query options) := by
  have valid := Settings.valid_of_read read
  obtain ⟨documents, ok, rfl⟩ := Snapshot.build_eq_ok.mp built
  have exact (words query fuzzy) :
      Scoring.KeepsAll ℚ s (Snapshot.ofTexts s documents) words query fuzzy :=
    Scoring.rank_keepsAll (.ofRational valid keeps) valid ok
      (fun _ _ _ => .of_unlimited) query fuzzy
  refine ⟨exact, fun query options unfiltered unlimited =>
    fast_listsAll ok unfiltered unlimited (exact _ _ _), fun moderate short => ?_⟩
  have floating (words query fuzzy) (few : words.length ≤ 2 ^ 51) :
      Scoring.KeepsAll Binary64 s (Snapshot.ofTexts s documents) words query fuzzy :=
    Scoring.rank_keepsAll (.ofBinary64 valid keeps moderate.leastWeight_le) valid ok
      (fun id t indexed => moderate.fits (short id t indexed) few) query fuzzy
  exact ⟨floating, fun query options unfiltered unlimited few =>
    fast_listsAll ok unfiltered unlimited (floating _ _ _ few)⟩

theorem misspelt_cat_kept_and_listed :
    Settings.read [] [] = .ok {} ∧ ({} : Settings).KeepsHits ∧
    Snapshot.build {} Snapshot.dogs = .ok Snapshot.dogIndex ∧
    Scoring.KeepsAll ℚ {} Snapshot.dogIndex ["cot".toList] "cot".toList true ∧
    ListsAll ℚ {} Snapshot.dogIndex "cot".toList {} ∧
    Scoring.KeepsAll Binary64 {} Snapshot.dogIndex ["cot".toList] "cot".toList true ∧
    ListsAll Binary64 {} Snapshot.dogIndex "cot".toList {} := by
  obtain ⟨exact, listed, floating⟩ := candidates_kept_and_listed Settings.read_standard
    Settings.keepsHits_standard Snapshot.dogs_built
  have enrolled : Snapshot.enrollAll (Settings.fieldPlan {}) 0 Snapshot.dogs =
      .ok [(.record [("text".toList, .text "-Dog's- a CAT".toList)], "-dog's- a cat".toList),
        (.record [("text".toList, .text "cat".toList)], "cat".toList)] := rfl
  have short : ∀ id t, Snapshot.IndexedAs {} Snapshot.dogs id t → t.length ≤ 2 ^ 64 := by
    intro id t indexed
    obtain ⟨d, place⟩ := (Snapshot.indexedAs_iff enrolled).mp indexed
    have listed := List.mem_of_getElem? place
    simp only [List.mem_cons, Prod.mk.injEq, List.not_mem_nil, or_false] at listed
    rcases listed with ⟨_, rfl⟩ | ⟨_, rfl⟩
    · decide +kernel
    · decide +kernel
  obtain ⟨kept, found⟩ := floating Settings.moderate_standard short
  refine ⟨Settings.read_standard, Settings.keepsHits_standard, Snapshot.dogs_built,
    exact _ _ _, listed _ _ rfl rfl, kept _ _ _ ?_, found _ _ rfl rfl ?_⟩
  · decide +kernel
  · decide +kernel

end Findings

/-! Weights have no upper bound, but a floating-point number has: a word may be worth more than can
be added up. -/

def heavy : Settings := { exactWordWeight := 10 ^ 309 }

def catAndCats : List Value :=
  [.map [("text".toList, .text "cat".toList)], .map [("text".toList, .text "cats".toList)]]

def heavyIndex : Snapshot :=
  { plan := heavy.fieldPlan
    documents := [.record [("text".toList, .text "cat".toList)],
      .record [("text".toList, .text "cats".toList)]]
    summaries := [⟨0, 1, "cat".toList, 3⟩, ⟨1, 1, "cats".toList, 4⟩]
    entries := [("cat".toList, [0]), ("cats".toList, [1])] }

theorem heavy_built : Snapshot.build heavy catAndCats = .ok heavyIndex := by
  have words : Snapshot.indexableWords heavy.minIndexedWordLength "cat".toList = ["cat".toList] ∧
      Snapshot.indexableWords heavy.minIndexedWordLength "cats".toList = ["cats".toList] := by
    decide
  have distinct : [["cat".toList], ["cats".toList]].flatten.eraseDups =
      ["cat".toList, "cats".toList] := by
    decide
  have sorted : ["cat".toList, "cats".toList].mergeSort Text.precedes =
      ["cat".toList, "cats".toList] :=
    Text.mergeSort_eq (List.Perm.refl _) (by decide)
  have inverted : Snapshot.invert [["cat".toList], ["cats".toList]] = heavyIndex.entries := by
    rw [Snapshot.invert, distinct, sorted]
    decide
  refine Snapshot.build_eq_ok.mpr ⟨[(.record [("text".toList, .text "cat".toList)], "cat".toList),
    (.record [("text".toList, .text "cats".toList)], "cats".toList)], rfl, ?_⟩
  simp only [Snapshot.ofTexts, List.map_cons, List.map_nil, words.1, words.2, inverted]
  rfl

namespace Findings

theorem overweight_candidates_not_ranked :
    Settings.read [("exact_word_weight".toList, .int (10 ^ 309 : Nat))] [] = .ok heavy ∧
    heavy.KeepsHits ∧ Snapshot.build heavy catAndCats = .ok heavyIndex ∧
    (Candidates.find heavy heavyIndex ["cat".toList] true).docIds = [0, 1] ∧
    ¬Scoring.KeepsAll Binary64 heavy heavyIndex ["cat".toList] "cat".toList true ∧
    ¬ListsAll Binary64 heavy heavyIndex "cat".toList {} := by
  have tooMuch : Scoring.rank Binary64 heavy heavyIndex
      (Candidates.find heavy heavyIndex ["cat".toList] true) ["cat".toList] "cat".toList =
        .error .integerTooLarge := by decide +kernel
  have failed : (fast Binary64 heavy heavyIndex "cat".toList {}).listing =
      .error .integerTooLarge := by decide +kernel
  refine ⟨Settings.read_exactWordWeight _, .of_standard (by decide +kernel) rfl rfl, heavy_built,
    by decide +kernel, ?_, ?_⟩
  · rintro ⟨ranked, ranks, _⟩
    cases tooMuch.symm.trans ranks
  · rintro ⟨results, lists, _⟩
    cases failed.symm.trans lists

end Findings
end Concordance
