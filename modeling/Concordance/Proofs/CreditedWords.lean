import Concordance.Proofs.IntegerRounding
import Concordance.Proofs.QueryWords
import Concordance.Proofs.RankingAlone

/-! The words that a match counts. A document is listed for its score and counts the query words
that earned credit in it. The two differ where weights are zero: bonuses are given for words that
stand in the text, whatever credit their places have. So a listed document counts no word only if
some word of the query stands in it, and all that do only in places of weight zero. -/
namespace Concordance

namespace Binary64
variable {n q : Nat} {x y : Binary64}

theorem eq_of_ofInt? (ok : ofInt? (n : Int) = .ok x) : x = finite false (quantaOf n) := by
  obtain ⟨reach, rfl⟩ := ofInt?_eq_ok.mp ok
  have sign : decide ((quantaOf n : Int) < 0) = false :=
    decide_eq_false (Int.not_lt.mpr (Int.natCast_nonneg _))
  rw [ofInt_of_inReach reach, signedQuanta_natCast, sign, Int.natAbs_natCast]

theorem zero_lt_finite : lt .zero (finite false q) = true ↔ 0 < q := by
  simp [lt, Binary64.zero, signed]

theorem zero_lt_ofInt? (ok : ofInt? (n : Int) = .ok x) : lt .zero x = true ↔ 0 < n := by
  rw [eq_of_ofInt? ok, zero_lt_finite]
  refine ⟨fun some => ?_, quantaOf_pos⟩
  rcases Nat.eq_zero_or_pos n with rfl | positive
  · exact absurd quantaOf_zero some.ne'
  · exact positive

theorem zero_lt_mul (ok : ofInt? (n : Int) = .ok x) (fraction : y.IsFraction) :
    lt .zero (mul x y) = true ↔ 0 < n := by
  obtain ⟨r, rfl, some, _⟩ := fraction.finite
  rw [eq_of_ofInt? ok, mul_finite]
  rcases Nat.eq_zero_or_pos n with rfl | positive
  · rw [quantaOf_zero, Nat.zero_mul, nearest_zero, zero_lt_finite]
  · have whole : 1 * unit ≤ quantaOf n * r := by
      rw [Nat.one_mul]
      exact Nat.le_trans (unit_le_quantaOf positive) (Nat.le_mul_of_pos_right _ some)
    have quantum : 1 ≤ rounded (quantaOf n * r) unit :=
      le_rounded unit_pos (spacing_dvd_two_pow 0) whole
    refine iff_of_true ?_ positive
    rw [nearest_eq]
    split
    · exact zero_lt_finite.mpr quantum
    · rfl

theorem zero_lt_of_lt (above : lt .zero x = true) (more : lt x y = true) : lt .zero y = true := by
  cases x with
  | nan => cases above
  | infinite negative =>
    cases negative with
    | true => cases above
    | false => cases y <;> cases more
  | finite =>
    cases y with
    | nan => cases more
    | infinite => exact more
    | finite =>
      rw [Binary64.zero, lt, decide_eq_true_eq] at *
      exact Int.lt_trans above more

end Binary64

namespace Text
variable {w t a b : Text} {ts : List Text} {c : Char}

theorem within_cut (absent : c ∉ w) (within : w <:+: a ++ c :: b) : w <:+: a ∨ w <:+: b := by
  obtain ⟨front, back, whole⟩ := within
  rcases List.append_eq_append_iff.mp whole with ⟨gap, rfl, _⟩ | ⟨rest, cut, split⟩
  · exact .inl ⟨front, gap, rfl⟩
  rcases List.append_eq_append_iff.mp cut with ⟨gap, rfl, rfl⟩ | ⟨gap, rfl, rfl⟩
  · -- it ends behind the character or where that begins
    cases rest with
    | nil => exact .inl ⟨front, [], by simp⟩
    | cons x rest =>
      obtain rfl := (List.cons.inj split).1
      simp at absent
  · cases gap with
    | cons x gap => exact .inr ⟨gap, back, (List.cons.inj split).2.symm⟩
    | nil =>
      cases w with
      | nil => exact .inl List.nil_infix
      | cons x w =>
        obtain rfl := (List.cons.inj split).1
        simp at absent

theorem within_join (nonempty : w ≠ []) (unbroken : ' ' ∉ w) (within : w <:+: join [' '] ts) :
    ∃ part ∈ ts, w <:+: part := by
  cases ts with
  | nil => exact absurd (List.infix_nil.mp within) nonempty
  | cons t ts =>
    rw [join_cons] at within
    induction ts generalizing t with
    | nil => exact ⟨t, List.mem_singleton_self t, by simpa using within⟩
    | cons u ts ih =>
      rcases within_cut unbroken within with first | later
      · exact ⟨t, List.mem_cons_self, first⟩
      · obtain ⟨part, member, inside⟩ := ih u later
        exact ⟨part, List.mem_cons_of_mem t member, inside⟩

theorem IsWord.within_of_parts (word : IsWord w) {n : Nat}
    (within : w <:+: join [' '] ((Text.parts t).take n)) : w <:+: t := by
  have unbroken : ' ' ∉ w := fun member => by
    have solid := not_isBlank_of_isWordPart (word.parts ' ' member)
    exact absurd solid (by decide)
  obtain ⟨part, member, inside⟩ := within_join word.nonempty unbroken within
  exact inside.trans (of_mem_runs (List.mem_of_mem_take member)).2.2

end Text

namespace Scoring
variable {s : Settings} {t query word v : Text} {summary : Summary} {words found : List Text}
  {variants : List (Text × List Text)} {best next e : Earned Binary64} {due : Prop}

def credited (s : Settings) (t : Text) (variants : List Text) (word : Text) : Bool :=
  if (WordHits.of word t).found then 0 < wordCredit s (.of word t)
  else variants.any fun v => 0 < wordCredit s (.of v t)

theorem wordCredit_of_not_found (unfound : (WordHits.of word t).found = false) :
    wordCredit s (.of word t) = 0 := by
  cases word with
  | nil => exact wordCredit_none
  | cons c word =>
    have absent : Text.occursIn (c :: word) t = false := Bool.eq_false_iff.mpr fun occurs => by
      cases unfound.symm.trans (WordHits.found_of_occurs (List.cons_ne_nil c word) occurs)
    rw [WordHits.of_absent absent, wordCredit_none]

structure Pays (due : Prop) (e : Earned Binary64) : Prop where
  paid : due → Binary64.lt .zero e.1 = true
  unpaid : ¬due → e = (.zero, none)

theorem Pays.iff (pays : Pays due e) : Binary64.lt .zero e.1 = true ↔ due := by
  refine ⟨fun some => ?_, pays.paid⟩
  by_contra undue
  rw [pays.unpaid undue] at some
  cases (Binary64.lt_irrefl .zero).symm.trans some

theorem better_pays (valid : s.Valid) (pays : Pays due best)
    (ok : better s t best v = .ok next) :
    Pays (due ∨ 0 < wordCredit s (.of v t)) next := by
  unfold better at ok
  dsimp only at ok
  split at ok
  next unfound =>
    cases ok
    rw [wordCredit_of_not_found (by simpa using unfound)]
    simpa using pays
  next =>
    obtain ⟨x, given, ok⟩ := Outcome.bind_eq_ok.mp ok
    cases ok
    have worth := Binary64.zero_lt_mul given valid.fuzzyDiscount
    split
    next more =>
      have above : Binary64.lt .zero (Credit.mul x (Credit.ofFraction s.fuzzyDiscount)) = true := by
        by_cases had : due
        · exact Binary64.zero_lt_of_lt (pays.paid had) more
        · rw [pays.unpaid had] at more
          exact more
      exact ⟨fun _ => above, fun undue => absurd (.inr (worth.mp above)) undue⟩
    next less =>
      refine ⟨fun some => ?_, fun undue => pays.unpaid fun had => undue (.inl had)⟩
      by_contra nothing
      have undue : ¬due := fun had => nothing (pays.paid had)
      rw [pays.unpaid undue] at less
      exact less (worth.mpr (some.resolve_left undue))

theorem foldlM_better_pays (valid : s.Valid) (pays : Pays due best)
    (ok : found.foldlM (better s t) best = .ok e) :
    Pays (due ∨ ∃ v ∈ found, 0 < wordCredit s (.of v t)) e := by
  induction found generalizing due best with
  | nil =>
    cases ok
    simpa using pays
  | cons v found ih =>
    rw [List.foldlM_cons] at ok
    obtain ⟨next, first, rest⟩ := Outcome.bind_eq_ok.mp ok
    simpa [or_assoc] using ih (better_pays valid pays first) rest

theorem bestVariant_pays (valid : s.Valid) (ok : bestVariant s t found = .ok e) :
    Pays (∃ v ∈ found, 0 < wordCredit s (.of v t)) e := by
  have start : Pays False ((.zero, none) : Earned Binary64) := ⟨False.elim, fun _ => rfl⟩
  simpa using foldlM_better_pays valid start ok

theorem earned_pays (valid : s.Valid) (unfound : (WordHits.of word t).found = false)
    (ok : earned s t variants word = .ok e) :
    Pays (∃ v ∈ (variants.lookup word).getD [], 0 < wordCredit s (.of v t)) e := by
  obtain ⟨x, _, ok⟩ := Outcome.bind_eq_ok.mp ok
  rw [unfound] at ok
  exact bestVariant_pays valid ok

theorem earned_credited (valid : s.Valid) (ok : earned s t variants word = .ok e) :
    Binary64.lt .zero e.1 = credited s t ((variants.lookup word).getD []) word := by
  rw [Bool.eq_iff_iff, credited]
  cases found : (WordHits.of word t).found with
  | false =>
    rw [(earned_pays valid found ok).iff]
    simp
  | true =>
    obtain ⟨x, given, ok⟩ := Outcome.bind_eq_ok.mp ok
    rw [found] at ok
    cases ok
    rw [Binary64.zero_lt_ofInt? given]
    simp

theorem foldl_withCredit_count (earnings : List (Earned Binary64)) (sum : Binary64 × Nat) :
    (earnings.foldl withCredit sum).2 =
      sum.2 + earnings.countP fun e => Binary64.lt .zero e.1 := by
  induction earnings generalizing sum with
  | nil => rfl
  | cons e earnings ih =>
    rw [List.foldl_cons, ih, List.countP_cons, withCredit]
    simp only [Credit.exceeds, Credit.none]
    split
    · rw [Nat.add_right_comm, Nat.add_assoc]
    · rfl

variable {score : Int} {count : Nat}

theorem scoreText_total
    (ok : @scoreText Binary64 _ s t summary words query variants = .ok (score, count)) :
    ∃ earnings, words.mapM (earned s t variants) = .ok earnings ∧
      count = (@total Binary64 _ earnings).2 := by
  obtain ⟨earnings, each, ok⟩ := Outcome.bind_eq_ok.mp ok
  obtain ⟨_, _, ok⟩ := Outcome.bind_eq_ok.mp ok
  obtain ⟨_, _, ok⟩ := Outcome.bind_eq_ok.mp ok
  obtain ⟨_, _, ok⟩ := Outcome.bind_eq_ok.mp ok
  obtain ⟨_, _, ok⟩ := Outcome.bind_eq_ok.mp ok
  obtain ⟨_, _, same⟩ := Outcome.bind_eq_ok.mp ok
  cases same
  exact ⟨earnings, each, rfl⟩

theorem count_of_scoreText (valid : s.Valid)
    (ok : @scoreText Binary64 _ s t summary words query variants = .ok (score, count)) :
    count = words.countP fun w => credited s t ((variants.lookup w).getD []) w := by
  obtain ⟨earnings, each, rfl⟩ := scoreText_total ok
  have same : earnings.map (fun e => Binary64.lt .zero e.1) =
      words.map fun w => credited s t ((variants.lookup w).getD []) w :=
    Outcome.map_eq_map_of_forall₂
      ((Outcome.mapM_eq_ok_iff.mp each).imp fun w e => earned_credited valid)
  calc (total earnings).2
      = earnings.countP fun e => Binary64.lt .zero e.1 := by
        rw [total_eq, foldl_withCredit_count, Nat.zero_add]
    _ = (earnings.map fun e => Binary64.lt .zero e.1).countP id := by rw [List.countP_map]; rfl
    _ = words.countP fun w => credited s t ((variants.lookup w).getD []) w := by
        rw [same, List.countP_map]; rfl

theorem found_of_uncredited (valid : s.Valid) (positive : 0 < score)
    (ok : @scoreText Binary64 _ s t summary words query variants = .ok (score, 0))
    (phrase : Text.occursIn query t = true → ∃ w ∈ words, (WordHits.of w t).found = true)
    (leading : ∀ w, words.head? = some w → Text.occursIn w summary.firstWords = true →
      (WordHits.of w t).found = true) :
    ∃ w ∈ words, (WordHits.of w t).found = true := by
  by_contra nowhere
  have unfound (w : Text) (member : w ∈ words) : (WordHits.of w t).found = false :=
    Bool.eq_false_iff.mpr fun found => nowhere ⟨w, member, found⟩
  obtain ⟨earnings, each, _⟩ := scoreText_total ok
  have uncredited := List.countP_eq_zero.mp (count_of_scoreText valid ok).symm
  have absent (w : Text) (member : w ∈ words) :
      earned s t variants w = .ok ((.zero, none) : Earned Binary64) := by
    obtain ⟨e, made⟩ := Outcome.mapM_ok_iff.mp ⟨earnings, each⟩ w member
    have pays := earned_pays valid (unfound w member) made
    have nothing := uncredited w member
    rw [← earned_credited valid made] at nothing
    rw [made, pays.unpaid fun due => nothing (pays.paid due)]
  have apart : (3 < query.length && Text.occursIn query t) = false :=
    Bool.eq_false_iff.mpr fun both => nowhere (phrase (Bool.and_eq_true_iff.mp both).2)
  have late : (words.head?.any fun w => Text.occursIn w summary.firstWords) = false := by
    refine Bool.eq_false_iff.mpr fun some => ?_
    obtain ⟨w, first, occurs⟩ := (Option.any_eq_true _ _).mp some
    exact nowhere ⟨w, List.mem_of_mem_head? first, leading w first occurs⟩
  exact absurd (scoreText_absent absent apart late ok) positive.ne'

end Scoring

namespace Findings
variable {α : Type} [Credit α] {s : Settings} {snapshot : Snapshot} {options : SearchOptions}
  {query w t : Text} {results : List Match} {total id : Nat} {found : Match} {d : Document}
  {values : List Value} {documents : List (Document × Text)} {scored : Scored}

theorem scored_of_mem (ok : (fast α s snapshot query options).listing = .ok (results, total))
    (member : found ∈ results) : found.docId ∈ (candidatesOf s snapshot query options).docIds ∧
    ∃ scored, scoreOf α s snapshot query options found.docId = .ok scored ∧ 0 < scored.score ∧
      scored.matchCount = found.matchCount := by
  rw [fast_layOut] at ok
  obtain ⟨ranking, ranks, laid⟩ := Outcome.bind_eq_ok.mp ok
  obtain ⟨all, _⟩ := layOut_eq_ok.mp laid
  obtain ⟨⟨scored, rank⟩, listed, made⟩ := (Outcome.mem_mapM all).mp member
  obtain ⟨_, _, same⟩ := Outcome.bind_eq_ok.mp made
  cases same
  have among := (SearchOptions.cap_sublist options ranking).subset
    (List.fst_mem_of_mem_zipIdx listed)
  obtain ⟨ids, kept, ranks⟩ := ranked_eq_ok.mp ranks
  obtain ⟨passed, positive, made⟩ := (Scoring.mem_rank ranks).mp among
  exact ⟨((Outcome.mem_filterM kept).mp passed).1, scored, made, positive, rfl⟩

theorem isWord_of_wordsOf (member : w ∈ wordsOf query) :
    Text.IsWord w ∧ w <:+: phraseOf query := by
  have lowered := (Text.lowered_lower query).part (Text.trimBy_within Unicode.isBlank _)
  have same : phraseOf query = Text.trim (Text.lower query) :=
    Text.trim_lower_of_trimmed lowered (Text.trimmed_trimBy Unicode.isBlank _)
  rw [same]
  exact Text.isWord_of_mem lowered member

theorem counted_of_scoreOf (valid : s.Valid)
    (ok : Snapshot.enrollAll s.fieldPlan 0 values = .ok documents)
    (place : documents[id]? = some (d, t)) (positive : 0 < scored.score)
    (made : scoreOf Binary64 s (Snapshot.ofTexts s documents) query options id = .ok scored) :
    scored.matchCount = ((wordsOf query).eraseDups.countP fun w => Scoring.credited s t
      (Candidates.variantsOf s (Snapshot.ofTexts s documents) (options.isFuzzy s) w) w) ∧
    (scored.matchCount = 0 → ∃ w ∈ wordsOf query, (WordHits.of w t).found = true) := by
  rw [scoreOf_ofTexts ok place] at made
  split at made
  next =>
    cases made
    exact absurd positive (Int.lt_irrefl 0)
  next nonempty =>
    obtain ⟨⟨score, count⟩, summed, rfl⟩ := Outcome.map_eq_ok.mp made
    constructor
    · refine (Scoring.count_of_scoreText valid summed).trans (List.countP_congr fun w member => ?_)
      rw [candidatesOf, Candidates.lookup_variants (List.mem_eraseDups.mp member)]
    · rintro rfl
      have phrase (occurs : Text.occursIn (phraseOf query) t = true) :
          ∃ w ∈ (wordsOf query).eraseDups, (WordHits.of w t).found = true := by
        obtain ⟨w, member⟩ := List.exists_mem_of_ne_nil (wordsOf query).eraseDups
          fun none => nonempty (List.isEmpty_iff.mpr none)
        obtain ⟨word, within⟩ := isWord_of_wordsOf (List.mem_eraseDups.mp member)
        have inside := within.trans (Text.occursIn_iff_within.mp occurs)
        exact ⟨w, member, Candidates.found_of_word word inside⟩
      have leading (w : Text) (first : (wordsOf query).eraseDups.head? = some w)
          (occurs : Text.occursIn w (Snapshot.summarize s.summaryPrefixWords id t).firstWords =
            true) : (WordHits.of w t).found = true := by
        have word := (isWord_of_wordsOf (List.mem_eraseDups.mp (List.mem_of_mem_head? first))).1
        exact Candidates.found_of_word word
          (word.within_of_parts (Text.occursIn_iff_within.mp occurs))
      obtain ⟨w, member, found⟩ := Scoring.found_of_uncredited valid positive summed phrase leading
      exact ⟨w, List.mem_eraseDups.mp member, found⟩

end Findings

namespace Engine
open Findings
variable {s : Settings} {snapshot : Snapshot} {query : Text} {options : SearchOptions}
  {values : List Value} {found : Match} {given : Fields} {environment : List (Text × Text)}

theorem listing_of_mem (free : QueryToken.isBoolean query = false)
    (member : found ∈ (answerOn s snapshot query options).results) : ∃ results total,
      (fast Binary64 s snapshot query options).listing = .ok (results, total) ∧
        found ∈ results := by
  by_cases asks : Asks s snapshot query
  · rw [answerOn_fast free asks] at member
    cases listing : (fast Binary64 s snapshot query options).listing with
    | error f =>
      rw [listing] at member
      cases member
    | ok listed =>
      rw [listing] at member
      exact ⟨listed.1, listed.2, rfl, member⟩
  · rw [(answerOn_settled asks options).2] at member
    cases member

/-- A match in free text counts the distinct query words that earn credit in its document. That is
at least one, unless some query word is found there and every one that is has only places of weight
zero. -/
theorem match_counts_credited_words (read : Settings.read given environment = .ok s)
    (built : Snapshot.build s values = .ok snapshot) (free : QueryToken.isBoolean query = false)
    (options : SearchOptions) (name : Text) (began elapsed : Binary64) :
    ∀ found ∈ ((create s name (.list values) began).search query options elapsed).2.results,
      ∃ t, Snapshot.IndexedAs s values found.docId t ∧
        found.matchCount = ((wordsOf query).eraseDups.countP fun w => Scoring.credited s t
          (Candidates.variantsOf s snapshot (options.isFuzzy s) w) w) ∧
        found.matchCount ≤ (wordsOf query).eraseDups.length ∧
        (1 ≤ found.matchCount ∨ (∃ w ∈ wordsOf query, (WordHits.of w t).found = true) ∧
          ∀ w ∈ wordsOf query, (WordHits.of w t).found = true →
            Scoring.wordCredit s (.of w t) = 0) ∧
        (0 < s.leastWeight → 1 ≤ found.matchCount) := by
  intro found member
  rw [create_search, snapshotOf_list built] at member
  obtain ⟨results, total, ok, listed⟩ := listing_of_mem free member
  obtain ⟨candidate, scored, made, positive, same⟩ := scored_of_mem ok listed
  obtain ⟨documents, enrolled, rfl⟩ := Snapshot.build_eq_ok.mp built
  obtain ⟨d, t, place, _⟩ := Candidates.mem_find_ofTexts.mp candidate
  obtain ⟨counted, stands⟩ :=
    counted_of_scoreOf (Settings.valid_of_read read) enrolled place positive made
  rw [same] at counted stands
  have most : found.matchCount ≤ (wordsOf query).eraseDups.length :=
    counted ▸ List.countP_le_length
  have unpaid (none : found.matchCount = 0) (w : Text) (member : w ∈ wordsOf query)
      (hit : (WordHits.of w t).found = true) : Scoring.wordCredit s (.of w t) = 0 := by
    have uncredited := List.countP_eq_zero.mp (counted.symm.trans none) w
      (List.mem_eraseDups.mpr member)
    simpa [Scoring.credited, hit] using uncredited
  refine ⟨t, (Snapshot.indexedAs_iff enrolled).mpr ⟨d, place⟩, counted, most, ?_, fun weighty => ?_⟩
  · rcases Nat.eq_zero_or_pos found.matchCount with none | some
    · exact .inr ⟨stands none, unpaid none⟩
    · exact .inl some
  · by_contra none
    have none : found.matchCount = 0 := Nat.eq_zero_of_not_pos none
    obtain ⟨w, member, hit⟩ := stands none
    have credit := Scoring.leastWeight_le_wordCredit (s := s) hit
    rw [unpaid none w member hit] at credit
    exact absurd weighty (Nat.not_lt.mpr credit)

def weighing (n : Nat) : Settings := { exactWordWeight := n }

def oneCat : List Value := [.map [("text".toList, .text "cat".toList)]]

def oneCatIndex (n : Nat) : Snapshot :=
  { plan := (weighing n).fieldPlan, documents := [.record [("text".toList, .text "cat".toList)]]
    summaries := [⟨0, 1, "cat".toList, 3⟩], entries := [("cat".toList, [0])] }

theorem oneCat_built (n : Nat) : Snapshot.build (weighing n) oneCat = .ok (oneCatIndex n) := by
  have enrolled : Snapshot.enrollAll (Settings.fieldPlan {}) 0 oneCat =
      .ok [(.record [("text".toList, .text "cat".toList)], "cat".toList)] := rfl
  have plan : (weighing n).fieldPlan = Settings.fieldPlan {} := rfl
  have words : Snapshot.indexableWords (weighing n).minIndexedWordLength "cat".toList =
      ["cat".toList] :=
    (by decide : Snapshot.indexableWords 2 "cat".toList = ["cat".toList])
  exact Snapshot.build_eq_ok.mpr ⟨_, plan ▸ enrolled, Snapshot.ofTexts_one_word words⟩

theorem oneCat_listed {n : Nat} {v : Verdict} (judged : Findings.verdict Binary64 (weighing n)
      (oneCatIndex n) "cat".toList {} 0 = .ok (some v)) :
    Match.Lists ((create (weighing n) "cats".toList (.list oneCat) .zero).search
      "cat".toList {} .zero).2.results 0 v := by
  have free : QueryToken.isBoolean "cat".toList = false := by decide +kernel
  have evaluated : (answerOn (weighing n) (oneCatIndex n) "cat".toList {}).Evaluated := by
    refine (evaluated_fast_iff free rfl).mpr fun _ id => ?_
    match id with
    | 0 => exact ⟨_, judged⟩
    | id + 1 => exact ⟨none, Findings.verdict_beyond (oneCat_built n) rfl⟩
  rw [create_search, snapshotOf_list (oneCat_built n)]
  exact (lists_fast_iff free rfl evaluated).mpr ⟨⟨(by decide : 1 ≤ 3), rfl⟩, judged⟩

theorem one_word_counted :
    ∃ found ∈ ((create (weighing 7) "cats".toList (.list oneCat) .zero).search
      "cat".toList {} .zero).2.results, found.score = 62 ∧ found.matchCount = 1 ∧
      ∃ t, Snapshot.IndexedAs (weighing 7) oneCat found.docId t ∧
        found.matchCount = ((wordsOf "cat".toList).eraseDups.countP fun w =>
          Scoring.credited (weighing 7) t
            (Candidates.variantsOf (weighing 7) (oneCatIndex 7) true w) w) := by
  have free : QueryToken.isBoolean "cat".toList = false := by decide +kernel
  have judged : verdict Binary64 (weighing 7) (oneCatIndex 7) "cat".toList {} 0 =
      .ok (some ⟨62, 1, "<mark class=\"fast-highlight\">cat</mark>".toList⟩) := by
    decide +kernel
  obtain ⟨found, member, _, same⟩ := oneCat_listed judged
  obtain ⟨t, indexed, counted, _⟩ := match_counts_credited_words
    (Settings.read_exactWordWeight 7) (oneCat_built 7) free {} _ _ _ found member
  exact ⟨found, member, congrArg Verdict.score same, congrArg Verdict.matchCount same, t, indexed,
    counted⟩

theorem listed_word_may_count_nothing :
    Settings.read [("exact_word_weight".toList, .int (0 : Nat))] [] = .ok (weighing 0) ∧
    Snapshot.build (weighing 0) oneCat = .ok (oneCatIndex 0) ∧
    QueryToken.isBoolean "cat".toList = false ∧
    ¬∀ found ∈ ((create (weighing 0) "cats".toList (.list oneCat) .zero).search
        "cat".toList {} .zero).2.results,
      1 ≤ found.matchCount ∧ found.matchCount ≤ (wordsOf "cat".toList).eraseDups.length := by
  have judged : verdict Binary64 (weighing 0) (oneCatIndex 0) "cat".toList {} 0 =
      .ok (some ⟨55, 0, "<mark class=\"fast-highlight\">cat</mark>".toList⟩) := by
    decide +kernel
  refine ⟨Settings.read_exactWordWeight 0, oneCat_built 0, by decide +kernel, fun each => ?_⟩
  obtain ⟨found, member, _, same⟩ := oneCat_listed judged
  have counted : found.matchCount = 0 := congrArg Verdict.matchCount same
  have least := (each found member).1
  rw [counted] at least
  exact absurd least (by decide)

end Engine
end Concordance
