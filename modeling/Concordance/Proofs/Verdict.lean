import Concordance.Proofs.EngineRun
import Concordance.Proofs.Layout

/-! The verdict on a document. A search in free text asks of every candidate on its own whether the
filters let it through, what it scores and how its text is shown; only its place in the list comes
from the others. An answer that is not cut succeeds if every document has a verdict, and lists the
documents whose verdict says so. -/
namespace Concordance

structure Verdict where
  score : Int
  matchCount : Nat
  highlighted : Text
deriving DecidableEq

namespace Match

def verdict (found : Match) : Verdict := ⟨found.score, found.matchCount, found.highlighted⟩

def atRank (found : Match) (rank : Nat) : Match :=
  match found.searchType with
  | .fast => { found with rank }
  | .boolean => { found with rank, score := Findings.placeScore rank }

def renumber (found : List Match) : List Match :=
  (found.zipIdx 1).map fun entry => entry.1.atRank entry.2

theorem mapM_places {ε α : Type} {f : α × Nat → Except ε Match} {g : α → Except ε Match}
    (places : ∀ item rank, f (item, rank) = (g item).map (·.atRank rank)) {items : List α}
    {results : List Match} : (items.zipIdx 1).mapM f = .ok results ↔
      ∃ bare, items.mapM g = .ok bare ∧ results = renumber bare :=
  Outcome.mapM_zipIdx_eq_ok_iff (fun rank (found : Match) => found.atRank rank) places

theorem mem_renumber {found : List Match} {later : Match} (member : later ∈ renumber found) :
    ∃ first ∈ found, ∃ rank, later = first.atRank rank := by
  obtain ⟨⟨first, rank⟩, listed, rfl⟩ := List.mem_map.mp member
  exact ⟨first, List.fst_mem_of_mem_zipIdx listed, rank, rfl⟩

theorem renumber_mem {found : List Match} {first : Match} (member : first ∈ found) :
    ∃ rank, first.atRank rank ∈ renumber found := by
  rw [← List.zipIdx_map_fst 1 found] at member
  obtain ⟨entry, listed, rfl⟩ := List.mem_map.mp member
  exact ⟨entry.2, List.mem_map.mpr ⟨entry, listed, rfl⟩⟩

def Lists (results : List Match) (id : Nat) (v : Verdict) : Prop :=
  ∃ found ∈ results, found.docId = id ∧ found.verdict = v

end Match

namespace Scoring
variable {α : Type} [Credit α] {s : Settings} {snapshot : Snapshot} {ids : List Nat}
  {words : List Text} {query : Text} {variants : List (Text × List Text)} {id : Nat} {d : Scored}
  {ranked : List Scored}

theorem scoreDocument_docId
    (ok : scoreDocument α s snapshot id words query variants = .ok d) : d.docId = id := by
  unfold scoreDocument at ok
  dsimp only at ok
  split at ok
  · cases ok
    rfl
  · obtain ⟨t, _, ok⟩ := Outcome.bind_eq_ok.mp ok
    split at ok
    · cases ok
    · obtain ⟨_, _, ok⟩ := Outcome.bind_eq_ok.mp ok
      cases ok
      rfl

theorem rank_ok_iff :
    (∃ ranked, rank α s snapshot ⟨ids, variants⟩ words query = .ok ranked) ↔
      ∀ id ∈ ids, ∃ d, scoreDocument α s snapshot id words
        (Text.trim (Text.lower query)) variants = .ok d := by
  rw [← Outcome.mapM_ok_iff]
  constructor
  · rintro ⟨ranked, ok⟩
    obtain ⟨scored, all, _⟩ := Outcome.bind_eq_ok.mp ok
    exact ⟨scored, all⟩
  · rintro ⟨scored, all⟩
    exact ⟨_, Outcome.bind_eq_ok.mpr ⟨scored, all, rfl⟩⟩

theorem rank_nothing : rank α s snapshot ⟨[], variants⟩ words query = .ok [] :=
  Outcome.bind_eq_ok.mpr ⟨[], rfl, congrArg Except.ok (List.mergeSort_nil ..)⟩

theorem mem_rank (ok : rank α s snapshot ⟨ids, variants⟩ words query = .ok ranked) :
    d ∈ ranked ↔ d.docId ∈ ids ∧ 0 < d.score ∧
      scoreDocument α s snapshot d.docId words (Text.trim (Text.lower query))
        variants = .ok d := by
  obtain ⟨scored, all, ok⟩ := Outcome.bind_eq_ok.mp ok
  cases ok
  rw [(List.mergeSort_perm _ _).mem_iff, List.mem_filter, Outcome.mem_mapM all]
  constructor
  · rintro ⟨⟨id, member, made⟩, positive⟩
    cases scoreDocument_docId made
    exact ⟨member, of_decide_eq_true positive, made⟩
  · rintro ⟨member, positive, made⟩
    exact ⟨⟨_, member, made⟩, decide_eq_true positive⟩

end Scoring

namespace Findings
variable {α : Type} [Credit α] {s : Settings} {snapshot : Snapshot} {options : SearchOptions}
  {query : Text} {words : List Text} {ids : List Nat} {id total : Nat} {v : Verdict}
  {results : List Match}

def satisfies (snapshot : Snapshot) (options : SearchOptions) (id : Nat) : Except Failure Bool :=
  MetadataFilter.matchesAll ((snapshot.documents[id]?.map Document.toValue).getD .null)
    options.filters

def Answered (snapshot : Snapshot) (options : SearchOptions) : Prop :=
  ∀ id ∈ snapshot.docIds, ∃ answer, satisfies snapshot options id = .ok answer

theorem restrict_ok_iff : (∃ kept, restrict snapshot options ids = .ok kept) ↔
    ∀ id ∈ ids, ∃ answer, satisfies snapshot options id = .ok answer := by
  constructor
  · intro ⟨kept, ok⟩
    exact (Outcome.filterM_eq_ok.mp ok).1
  · intro answered
    exact ⟨_, Outcome.filterM_eq_ok.mpr ⟨answered, rfl⟩⟩

def wordsOf (query : Text) : List Text := Text.words (Text.trim (Text.lower query))

def candidatesOf (s : Settings) (snapshot : Snapshot) (query : Text) (options : SearchOptions) :
    Candidates :=
  Candidates.find s snapshot (wordsOf query) (options.isFuzzy s)

/-- The query as it is looked for as a whole; it is normalized once more when documents are
ranked. -/
def phraseOf (query : Text) : Text := Text.trim (Text.lower (Text.trim (Text.lower query)))

def scoreOf (α : Type) [Credit α] (s : Settings) (snapshot : Snapshot) (query : Text)
    (options : SearchOptions) (id : Nat) : Except Failure Scored :=
  Scoring.scoreDocument α s snapshot id (wordsOf query) (phraseOf query)
    (candidatesOf s snapshot query options).variants

theorem candidatesOf_strict (strict : options.isFuzzy s = false) :
    (candidatesOf s snapshot query options).variants = [] := by
  have none (word : Text) : Candidates.variantsOf s snapshot false word = [] := rfl
  simp [candidatesOf, Candidates.find, strict, none]

theorem scoreOf_ofTexts {values : List Value} {documents : List (Document × Text)} {d : Document}
    {t : Text} (ok : Snapshot.enrollAll s.fieldPlan 0 values = .ok documents)
    (place : documents[id]? = some (d, t)) :
    scoreOf α s (Snapshot.ofTexts s documents) query options id =
      if (wordsOf query).eraseDups.isEmpty then .ok ⟨id, 0, 0⟩
      else (@Scoring.scoreText α _ s t (Snapshot.summarize s.summaryPrefixWords id t)
        (wordsOf query).eraseDups (phraseOf query)
        (candidatesOf s (Snapshot.ofTexts s documents) query options).variants).map
          fun scored => ⟨id, scored.1, scored.2⟩ := by
  have summary : (Snapshot.ofTexts s documents).summaries[id]? =
      some (Snapshot.summarize s.summaryPrefixWords id t) := by
    simp [Snapshot.ofTexts, place]
  unfold scoreOf Scoring.scoreDocument
  rw [Snapshot.normalizedText_ofTexts ok place, summary]
  simp only [bind, Except.bind]
  split
  next => rfl
  next =>
    cases @Scoring.scoreText α _ s t (Snapshot.summarize s.summaryPrefixWords id t)
      (wordsOf query).eraseDups (phraseOf query)
      (candidatesOf s (Snapshot.ofTexts s documents) query options).variants <;> rfl

/-- What a query in free text comes to on one document: what it is listed with, if it is. -/
def verdict (α : Type) [Credit α] (s : Settings) (snapshot : Snapshot) (query : Text)
    (options : SearchOptions) (id : Nat) : Except Failure (Option Verdict) :=
  if id ∈ (candidatesOf s snapshot query options).docIds then do
    if ← satisfies snapshot options id then
      let d ← scoreOf α s snapshot query options id
      if 0 < d.score then
        let text ← highlight s snapshot (wordsOf query).eraseDups id
        pure (some ⟨d.score, d.matchCount, text⟩)
      else pure none
    else pure none
  else pure none

theorem verdict_eq_some : verdict α s snapshot query options id = .ok (some v) ↔
    id ∈ (candidatesOf s snapshot query options).docIds ∧
    satisfies snapshot options id = .ok true ∧
    ∃ d, scoreOf α s snapshot query options id = .ok d ∧ 0 < d.score ∧
      ∃ text, highlight s snapshot (wordsOf query).eraseDups id = .ok text ∧
        v = ⟨d.score, d.matchCount, text⟩ := by
  unfold verdict
  split
  next candidate =>
    rw [and_iff_right candidate, Outcome.bind_eq_ok]
    constructor
    · rintro ⟨answer, accepted, ok⟩
      split at ok
      next yes =>
        cases yes
        obtain ⟨d, scored, ok⟩ := Outcome.bind_eq_ok.mp ok
        split at ok
        next positive =>
          obtain ⟨text, shown, same⟩ := Outcome.bind_eq_ok.mp ok
          cases same
          exact ⟨accepted, d, scored, positive, text, shown, rfl⟩
        next => cases ok
      next => cases ok
    · rintro ⟨accepted, d, scored, positive, text, shown, rfl⟩
      refine ⟨true, accepted, Outcome.bind_eq_ok.mpr ⟨d, scored, ?_⟩⟩
      rw [if_pos positive]
      exact Outcome.bind_eq_ok.mpr ⟨text, shown, rfl⟩
  next other => exact iff_of_false (by simp [pure, Except.pure]) fun listed => other listed.1

theorem verdict_ok_iff : (∃ v, verdict α s snapshot query options id = .ok v) ↔
    (id ∈ (candidatesOf s snapshot query options).docIds →
      ∃ answer, satisfies snapshot options id = .ok answer ∧ (answer = true →
        ∃ d, scoreOf α s snapshot query options id = .ok d ∧ (0 < d.score →
          ∃ text, highlight s snapshot (wordsOf query).eraseDups id = .ok text))) := by
  unfold verdict
  split
  next candidate =>
    rw [forall_prop_of_true candidate]
    simp only [Outcome.bind_eq_ok]
    constructor
    · rintro ⟨v, answer, accepted, ok⟩
      refine ⟨answer, accepted, fun yes => ?_⟩
      cases yes
      obtain ⟨d, scored, ok⟩ := Outcome.bind_eq_ok.mp ok
      refine ⟨d, scored, fun positive => ?_⟩
      rw [if_pos positive] at ok
      obtain ⟨text, shown, _⟩ := Outcome.bind_eq_ok.mp ok
      exact ⟨text, shown⟩
    · rintro ⟨answer, accepted, further⟩
      cases answer with
      | false => exact ⟨none, false, accepted, rfl⟩
      | true =>
        obtain ⟨d, scored, shows⟩ := further rfl
        by_cases positive : 0 < d.score
        · obtain ⟨text, shown⟩ := shows positive
          refine ⟨some ⟨d.score, d.matchCount, text⟩, true, accepted,
            Outcome.bind_eq_ok.mpr ⟨d, scored, ?_⟩⟩
          rw [if_pos positive]
          exact Outcome.bind_eq_ok.mpr ⟨text, shown, rfl⟩
        · refine ⟨none, true, accepted, Outcome.bind_eq_ok.mpr ⟨d, scored, ?_⟩⟩
          rw [if_neg positive]
          rfl
  next other => exact ⟨fun _ candidate => absurd candidate other, fun _ => ⟨none, rfl⟩⟩

theorem verdict_beyond {values : List Value} (built : Snapshot.build s values = .ok snapshot)
    (beyond : values[id]? = none) : verdict α s snapshot query options id = .ok none := by
  obtain ⟨documents, ok, rfl⟩ := Snapshot.build_eq_ok.mp built
  refine if_neg fun candidate => ?_
  obtain ⟨d, t, place, _⟩ := Candidates.mem_find_ofTexts.mp candidate
  obtain ⟨within, _⟩ := List.getElem?_eq_some_iff.mp place
  rw [Snapshot.enrollAll_length ok] at within
  exact absurd within (Nat.not_lt.mpr (List.getElem?_eq_none_iff.mp beyond))

theorem scoredMatch_eq {words : List Text} {d : Scored} {rank : Nat} {one : Match}
    (ok : scoredMatch s snapshot words d rank = .ok one) :
    one.docId = d.docId ∧ one.score = d.score ∧ one.rank = rank := by
  obtain ⟨_, _, same⟩ := Outcome.bind_eq_ok.mp ok
  cases same
  exact ⟨rfl, rfl, rfl⟩

theorem scoredMatch_ranked (s : Settings) (snapshot : Snapshot) (words : List Text) (d : Scored)
    (rank : Nat) : scoredMatch s snapshot words d rank =
      (scoredMatch s snapshot words d 0).map (·.atRank rank) := by
  unfold scoredMatch
  cases highlight s snapshot words d.docId <;> rfl

theorem layOut_places {β : Type} {make : β → Nat → Except Failure Match} {items : List β}
    (unlimited : options.limit = none)
    (places : ∀ item rank, make item rank = (make item 0).map (·.atRank rank)) :
    layOut options make items = .ok (results, total) ↔ ∃ bare,
      items.mapM (make · 0) = .ok bare ∧ results = Match.renumber bare ∧ total = items.length := by
  rw [layOut_eq_ok, cap_unlimited unlimited, Match.mapM_places places]
  simp only [and_assoc, ← exists_and_right]

theorem fast_layOut (s : Settings) (snapshot : Snapshot) (query : Text) (options : SearchOptions) :
    (fast α s snapshot query options).listing =
      ranked α s snapshot (wordsOf query) (Text.trim (Text.lower query)) options >>=
        layOut options (scoredMatch s snapshot (wordsOf query).eraseDups) := by
  unfold fast
  dsimp only
  split
  next empty =>
    have nothing : wordsOf query = [] := List.isEmpty_iff.mp empty
    have unranked : ranked α s snapshot (wordsOf query) (Text.trim (Text.lower query)) options =
        .ok [] := by
      simp only [nothing, ranked, Candidates.find_no_words]
      exact Outcome.bind_eq_ok.mpr ⟨[], rfl, Scoring.rank_nothing⟩
    rw [unranked]
    exact layOut_nil.symm
  next => rfl

theorem fast_eq_ok (unlimited : options.limit = none) :
    (fast α s snapshot query options).listing = .ok (results, total) ↔
      ∃ scored bare, ranked α s snapshot (wordsOf query) (Text.trim (Text.lower query)) options =
          .ok scored ∧
        scored.mapM (scoredMatch s snapshot (wordsOf query).eraseDups · 0) = .ok bare ∧
        results = Match.renumber bare ∧ total = scored.length := by
  rw [fast_layOut, Outcome.bind_eq_ok]
  simp only [layOut_places unlimited (scoredMatch_ranked s snapshot _), exists_and_left]

theorem find_free (free : QueryToken.isBoolean query = false) :
    find α s snapshot query options = fast α s snapshot query options := by
  have read : searchTypeOf query = .fast := by simp [searchTypeOf, free]
  rw [find, read]

theorem ranked_eq_ok {scored : List Scored} :
    ranked α s snapshot (wordsOf query) (Text.trim (Text.lower query)) options = .ok scored ↔
      ∃ ids, restrict snapshot options (candidatesOf s snapshot query options).docIds = .ok ids ∧
        Scoring.rank α s snapshot ⟨ids, (candidatesOf s snapshot query options).variants⟩
          (wordsOf query) (Text.trim (Text.lower query)) = .ok scored :=
  Outcome.bind_eq_ok

theorem verdict_of_listing (unlimited : options.limit = none)
    (ok : (fast α s snapshot query options).listing = .ok (results, total)) (id : Nat) :
    ∃ v, verdict α s snapshot query options id = .ok v := by
  rw [verdict_ok_iff]
  intro candidate
  obtain ⟨scored, bare, ranks, all, _⟩ := (fast_eq_ok unlimited).mp ok
  obtain ⟨ids, kept, ranks⟩ := ranked_eq_ok.mp ranks
  obtain ⟨answer, accepted⟩ := restrict_ok_iff.mp ⟨ids, kept⟩ id candidate
  refine ⟨answer, accepted, fun yes => ?_⟩
  cases yes
  have member : id ∈ ids := (Outcome.mem_filterM kept).mpr ⟨candidate, accepted⟩
  obtain ⟨d, made⟩ := Scoring.rank_ok_iff.mp ⟨scored, ranks⟩ id member
  refine ⟨d, made, fun positive => ?_⟩
  cases Scoring.scoreDocument_docId made
  have listed := (Scoring.mem_rank ranks).mpr ⟨member, positive, made⟩
  obtain ⟨found, shown⟩ := Outcome.mapM_ok_iff.mp ⟨bare, all⟩ d listed
  obtain ⟨text, shown, _⟩ := Outcome.bind_eq_ok.mp shown
  exact ⟨text, shown⟩

theorem listing_of_verdicts (unlimited : options.limit = none)
    (each : ∀ id, ∃ v, verdict α s snapshot query options id = .ok v) :
    ∃ listing, (fast α s snapshot query options).listing = .ok listing := by
  simp only [verdict_ok_iff] at each
  have answered (id : Nat) (candidate : id ∈ (candidatesOf s snapshot query options).docIds) :
      ∃ answer, satisfies snapshot options id = .ok answer := by
    obtain ⟨answer, accepted, _⟩ := each id candidate
    exact ⟨answer, accepted⟩
  obtain ⟨ids, kept⟩ := restrict_ok_iff.mpr answered
  have passed (id : Nat) (member : id ∈ ids) :
      ∃ d, scoreOf α s snapshot query options id = .ok d ∧ (0 < d.score →
        ∃ text, highlight s snapshot (wordsOf query).eraseDups id = .ok text) := by
    obtain ⟨candidate, accepted⟩ := (Outcome.mem_filterM kept).mp member
    obtain ⟨answer, same, further⟩ := each id candidate
    cases accepted.symm.trans same
    exact further rfl
  have scores : ∃ scored, Scoring.rank α s snapshot
      ⟨ids, (candidatesOf s snapshot query options).variants⟩ (wordsOf query)
        (Text.trim (Text.lower query)) = .ok scored := by
    refine Scoring.rank_ok_iff.mpr fun id member => ?_
    obtain ⟨d, made, _⟩ := passed id member
    exact ⟨d, made⟩
  obtain ⟨scored, ranks⟩ := scores
  have shows (d : Scored) (listed : d ∈ scored) : ∃ found,
      scoredMatch s snapshot (wordsOf query).eraseDups d 0 = .ok found := by
    obtain ⟨member, positive, made⟩ := (Scoring.mem_rank ranks).mp listed
    obtain ⟨other, again, shows⟩ := passed d.docId member
    cases made.symm.trans again
    obtain ⟨text, shown⟩ := shows positive
    exact ⟨_, Outcome.bind_eq_ok.mpr ⟨text, shown, rfl⟩⟩
  obtain ⟨bare, all⟩ := Outcome.mapM_ok_iff.mpr shows
  exact ⟨(Match.renumber bare, scored.length), (fast_eq_ok unlimited).mpr
    ⟨scored, bare, ranked_eq_ok.mpr ⟨ids, kept, ranks⟩, all, rfl, rfl⟩⟩

theorem fast_ok_iff (unlimited : options.limit = none) :
    (∃ listing, (fast α s snapshot query options).listing = .ok listing) ↔
      ∀ id, ∃ v, verdict α s snapshot query options id = .ok v :=
  ⟨fun ⟨_, ok⟩ => verdict_of_listing unlimited ok, listing_of_verdicts unlimited⟩

theorem mem_scoredMatches {scored : List Scored} {bare : List Match} {found : Match}
    (all : scored.mapM (scoredMatch s snapshot words · 0) = .ok bare) :
    found ∈ bare ↔ ∃ d ∈ scored, ∃ text, highlight s snapshot words d.docId = .ok text ∧
      found = ⟨d.docId, d.score, 0, d.matchCount, .fast, text⟩ := by
  rw [Outcome.mem_mapM all]
  refine exists_congr fun d => and_congr_right fun _ => ?_
  unfold scoredMatch
  rw [Outcome.bind_eq_ok]
  refine exists_congr fun text => and_congr_right fun _ => ?_
  exact ⟨fun same => (Except.ok.inj same).symm, fun same => congrArg Except.ok same.symm⟩

theorem lists_iff (unlimited : options.limit = none)
    (ok : (fast α s snapshot query options).listing = .ok (results, total)) :
    Match.Lists results id v ↔ verdict α s snapshot query options id = .ok (some v) := by
  obtain ⟨scored, bare, ranks, all, rfl, _⟩ := (fast_eq_ok unlimited).mp ok
  obtain ⟨ids, kept, ranks⟩ := ranked_eq_ok.mp ranks
  rw [verdict_eq_some]
  constructor
  · rintro ⟨found, member, rfl, rfl⟩
    obtain ⟨first, listed, rank, rfl⟩ := Match.mem_renumber member
    obtain ⟨d, among, text, shown, rfl⟩ := (mem_scoredMatches all).mp listed
    obtain ⟨passed, positive, made⟩ := (Scoring.mem_rank ranks).mp among
    obtain ⟨candidate, accepted⟩ := (Outcome.mem_filterM kept).mp passed
    exact ⟨candidate, accepted, d, made, positive, text, shown, rfl⟩
  · rintro ⟨candidate, accepted, d, made, positive, text, shown, rfl⟩
    cases Scoring.scoreDocument_docId made
    have passed := (Outcome.mem_filterM kept).mpr ⟨candidate, accepted⟩
    have among := (Scoring.mem_rank ranks).mpr ⟨passed, positive, made⟩
    obtain ⟨rank, listed⟩ := Match.renumber_mem
      ((mem_scoredMatches all).mpr ⟨d, among, text, shown, rfl⟩)
    exact ⟨_, listed, rfl, rfl⟩

end Findings

namespace Engine
variable {s : Settings} {snapshot : Snapshot} {query : Text} {options : SearchOptions}
  {id : Nat} {v : Verdict}

def Asks (s : Settings) (snapshot : Snapshot) (query : Text) : Prop :=
  s.minQueryLength ≤ query.length ∧ snapshot.isReady = true

theorem answerOn_fast (free : QueryToken.isBoolean query = false) (asks : Asks s snapshot query)
    (options : SearchOptions) : answerOn s snapshot query options =
      .ofListing query (Findings.fast Binary64 s snapshot query options).listing := by
  rw [answerOn_eq, if_neg (Nat.not_lt.mpr asks.1), if_pos asks.2, Findings.find_free free]

theorem answerOn_settled (settled : ¬Asks s snapshot query) (options : SearchOptions) :
    (answerOn s snapshot query options).Evaluated ∧
      (answerOn s snapshot query options).results = [] := by
  rw [answerOn_eq]
  split
  next => exact ⟨SearchResponse.evaluated_of_ok rfl, rfl⟩
  next enough =>
    have unready : ¬snapshot.isReady = true := fun ready => settled ⟨Nat.not_lt.mp enough, ready⟩
    rw [if_neg unready]
    exact ⟨fun f failed => (by cases failed), rfl⟩

theorem evaluated_fast_iff (free : QueryToken.isBoolean query = false)
    (unlimited : options.limit = none) :
    (answerOn s snapshot query options).Evaluated ↔ (Asks s snapshot query →
      ∀ id, ∃ v, Findings.verdict Binary64 s snapshot query options id = .ok v) := by
  by_cases asks : Asks s snapshot query
  · rw [forall_prop_of_true asks, answerOn_fast free asks, ← Findings.fast_ok_iff unlimited]
    cases (Findings.fast Binary64 s snapshot query options).listing with
    | error f => simp [SearchResponse.not_evaluated_ofListing]
    | ok listing => simp [SearchResponse.evaluated_of_ok, SearchResponse.ofListing]
  · exact iff_of_true (answerOn_settled asks options).1 fun asked => absurd asked asks

theorem lists_fast_iff (free : QueryToken.isBoolean query = false)
    (unlimited : options.limit = none) (evaluated : (answerOn s snapshot query options).Evaluated) :
    Match.Lists (answerOn s snapshot query options).results id v ↔ Asks s snapshot query ∧
      Findings.verdict Binary64 s snapshot query options id = .ok (some v) := by
  by_cases asks : Asks s snapshot query
  · rw [and_iff_right asks]
    rw [answerOn_fast free asks] at evaluated ⊢
    cases found : (Findings.fast Binary64 s snapshot query options).listing with
    | error f =>
      rw [found] at evaluated
      exact absurd evaluated (SearchResponse.not_evaluated_ofListing query f)
    | ok listing => exact Findings.lists_iff unlimited found
  · rw [(answerOn_settled asks options).2]
    exact iff_of_false (by simp [Match.Lists]) fun asked => asks asked.1

theorem results_of_failed (failed : ¬(answerOn s snapshot query options).Evaluated) :
    (answerOn s snapshot query options).results = [] := by
  by_cases asks : Asks s snapshot query
  · rw [answerOn_eq, if_neg (Nat.not_lt.mpr asks.1), if_pos asks.2] at failed ⊢
    cases found : (Findings.find Binary64 s snapshot query options).listing with
    | error f => rfl
    | ok listing =>
      rw [found] at failed
      exact absurd (SearchResponse.evaluated_of_ok rfl) failed
  · exact (answerOn_settled asks options).2

end Engine

end Concordance
