import Concordance.Proofs.FilteredAnswer

/-! Answers with a limit. An answer with a limit is the beginning of the one without, provided that
there is one: a text that cannot be shown only fails the search that has to show it. Both are in the
order that goes with the way the query is read. -/
namespace Concordance

namespace Findings
open Outcome
variable {α : Type} [Credit α] {s : Settings} {snapshot : Snapshot} {query : Text}
  {options : SearchOptions} {results : List Match} {total : Nat}

/-! Free text. -/

theorem shown_of_scored {words : List Text} {phrase : Text} {d : Scored}
    {variants : List (Text × List Text)} (positive : 0 < d.score)
    (scored : Scoring.scoreDocument α s snapshot d.docId words phrase variants = .ok d) :
    ∃ t, snapshot.shownText d.docId = .ok t := by
  unfold Scoring.scoreDocument at scored
  dsimp only at scored
  split at scored
  · have nothing : 0 = d.score := congrArg Scored.score (Except.ok.inj scored)
    omega
  · obtain ⟨t, normalized, _⟩ := bind_eq_ok.mp scored
    obtain ⟨u, shown, _⟩ := Snapshot.shownText_of_normalizedText normalized
    exact ⟨u, shown⟩

theorem scoredMatch_ok_iff {words : List Text} {d : Scored} {rank : Nat} :
    (∃ one, scoredMatch s snapshot words d rank = .ok one) ↔
      ∃ t, snapshot.shownText d.docId = .ok t := by
  simp [scoredMatch, highlight, bind_eq_ok, pure, Except.pure]

theorem rank_order {ids : List Nat} {variants : List (Text × List Text)} {words : List Text}
    {phrase : Text} {scored : List Scored} (distinct : ids.Nodup)
    (ok : Scoring.rank α s snapshot ⟨ids, variants⟩ words phrase = .ok scored) :
    (scored.map (·.docId)).Nodup ∧
      scored.Pairwise fun a b => b.score < a.score ∨ b.score = a.score ∧ a.docId < b.docId := by
  obtain ⟨all, made, same⟩ := bind_eq_ok.mp ok
  cases same
  have own : all.map (·.docId) = ids := by
    have each := (mapM_eq_ok_iff.mp made).imp fun id d => Scoring.scoreDocument_docId
    simpa using map_eq_map_of_forall₂ (g := id) each
  have apart : (((all.filter fun d => decide (0 < d.score)).mergeSort Scoring.ranksBefore).map
      (·.docId)).Nodup := by
    rw [((List.mergeSort_perm _ _).map _).nodup_iff]
    exact (own ▸ distinct).sublist (List.filter_sublist.map _)
  refine ⟨apart, ?_⟩
  refine (Scoring.sorted_rank _).imp₂ (fun a b before differ => ?_) (List.pairwise_map.mp apart)
  rw [Scoring.ranksBefore_iff] at before
  omega

theorem ranked_order {words : List Text} {phrase : Text} {scored : List Scored}
    (ok : ranked α s snapshot words phrase options = .ok scored) :
    (scored.map (·.docId)).Nodup ∧
      scored.Pairwise fun a b => b.score < a.score ∨ b.score = a.score ∧ a.docId < b.docId := by
  obtain ⟨ids, kept, ranks⟩ := bind_eq_ok.mp ok
  refine rank_order ?_ ranks
  obtain ⟨_, rfl⟩ := filterM_eq_ok.mp kept
  exact (List.nodup_range.filter _).filter _

theorem fast_order (ok : (fast α s snapshot query options).listing = .ok (results, total)) :
    (results.map (·.docId)).Nodup ∧ results.map (·.rank) = List.range' 1 results.length ∧
      (∀ one ∈ results, 0 < one.score) ∧
      results.Pairwise fun a b => b.score < a.score ∨ b.score = a.score ∧ a.docId < b.docId := by
  rw [fast_layOut] at ok
  obtain ⟨scored, ranks, laid⟩ := bind_eq_ok.mp ok
  obtain ⟨apart, sorted⟩ := ranked_order ranks
  have begins := SearchOptions.cap_sublist options scored
  have same : results.map (fun one => (one.docId, one.score)) =
      (options.cap scored).map fun d => (d.docId, d.score) :=
    map_layOut_of_item _ (fun d rank one made => by
      obtain ⟨docId, score, _⟩ := scoredMatch_eq made
      rw [docId, score]) laid
  refine ⟨?_, ranks_layOut (fun d rank one made => (scoredMatch_eq made).2.2) laid, ?_, ?_⟩
  · have ids := congrArg (List.map Prod.fst) same
    rw [List.map_map, List.map_map] at ids
    exact ids ▸ apart.sublist (begins.map _)
  · intro one member
    have told : (one.docId, one.score) ∈ (options.cap scored).map fun d => (d.docId, d.score) :=
      same ▸ List.mem_map_of_mem (f := fun one : Match => (one.docId, one.score)) member
    obtain ⟨d, listed, pair⟩ := List.mem_map.mp told
    obtain ⟨_, score⟩ := Prod.mk.inj pair
    obtain ⟨ids, _, ranks⟩ := bind_eq_ok.mp ranks
    rw [← score]
    exact ((Scoring.mem_rank ranks).mp (begins.subset listed)).2.1
  · have ordered : ((options.cap scored).map fun d => (d.docId, d.score)).Pairwise
        fun a b => b.2 < a.2 ∨ b.2 = a.2 ∧ a.1 < b.1 :=
      List.pairwise_map.mpr (sorted.sublist begins)
    exact List.pairwise_map.mp (same ▸ ordered)

/-! Boolean queries. -/

def evaluated (snapshot : Snapshot) (query : Text) : Except Failure BooleanMatch :=
  let tokens := QueryToken.parse query
  if tokens.all (·.kind == .operator) then .ok ⟨[], []⟩ else Evaluation.run snapshot tokens

theorem evaluated_ascending {found : BooleanMatch} (ok : evaluated snapshot query = .ok found) :
    found.docIds.Pairwise (· < ·) := by
  unfold evaluated at ok
  dsimp only at ok
  split at ok
  · cases ok
    exact .nil
  · exact Evaluation.docIds_ascending ok

theorem boolean_layOut (s : Settings) (snapshot : Snapshot) (query : Text)
    (options : SearchOptions) : (boolean s snapshot query options).listing =
      evaluated snapshot query >>= fun found =>
        restrict snapshot options found.docIds >>=
          layOut options (booleanMatch s snapshot (QueryToken.parse query) found) := by
  rw [boolean_listing, evaluated]
  split
  · exact layOut_nil.symm
  · rfl

theorem boolean_order (ok : (boolean s snapshot query options).listing = .ok (results, total)) :
    results.map (·.rank) = List.range' 1 results.length ∧
      (results.Pairwise fun a b => a.docId < b.docId) ∧
      ∀ one ∈ results, one.score = max (101 - (one.rank : Int)) 1 := by
  rw [boolean_layOut] at ok
  obtain ⟨found, ok, laid⟩ := bind_eq_ok.mp ok
  obtain ⟨ids, kept, laid⟩ := bind_eq_ok.mp laid
  have ids_eq : results.map (·.docId) = options.cap ids := by
    simpa using map_layOut_of_item id (fun _ _ _ made => (booleanMatch_eq made).1) laid
  refine ⟨ranks_layOut (fun _ _ _ made => (booleanMatch_eq made).2.2) laid, ?_, ?_⟩
  · obtain ⟨_, rfl⟩ := filterM_eq_ok.mp kept
    refine List.pairwise_map.mp (ids_eq ▸ ?_)
    exact ((evaluated_ascending ok).filter _).sublist (SearchOptions.cap_sublist ..)
  · intro one member
    obtain ⟨made, _⟩ := layOut_eq_ok.mp laid
    obtain ⟨entry, _, made⟩ := (mem_mapM made).mp member
    obtain ⟨_, score, rank⟩ := booleanMatch_eq made
    rw [score, rank, placeScore]

/-! Cutting. -/

theorem find_layOut (ok : (find α s snapshot query options).listing = .ok (results, total)) :
    ∃ (β : Type) (make : β → Nat → Except Failure Match) (items : List β), ∀ maxResults,
      (find α s snapshot query { options with maxResults }).listing =
        layOut { options with maxResults } make items := by
  unfold find at ok ⊢
  cases read : searchTypeOf query with
  | fast =>
    rw [read] at ok
    dsimp only at ok ⊢
    rw [fast_layOut] at ok
    obtain ⟨scored, ranks, _⟩ := bind_eq_ok.mp ok
    refine ⟨Scored, scoredMatch s snapshot (wordsOf query).eraseDups, scored, fun maxResults => ?_⟩
    rw [fast_layOut]
    change (ranked α s snapshot _ _ options >>= _) = _
    rw [ranks]
    rfl
  | boolean =>
    rw [read] at ok
    dsimp only at ok ⊢
    rw [boolean_layOut] at ok
    obtain ⟨found, come, ok⟩ := bind_eq_ok.mp ok
    obtain ⟨ids, kept, _⟩ := bind_eq_ok.mp ok
    refine ⟨Nat, booleanMatch s snapshot (QueryToken.parse query) found, ids, fun maxResults => ?_⟩
    rw [boolean_layOut, come]
    change (restrict snapshot options found.docIds >>= _) = _
    rw [kept]
    rfl

theorem length_find (ok : (find α s snapshot query options).listing = .ok (results, total)) :
    results.length = min (options.limit.getD total) total := by
  obtain ⟨_, make, items, laid⟩ := find_layOut ok
  exact length_layOut ((laid options.maxResults).symm.trans ok)

theorem find_cut (ok : (find α s snapshot query options.uncapped).listing = .ok (results, total)) :
    (find α s snapshot query options).listing = .ok (options.cap results, total) := by
  obtain ⟨_, make, items, laid⟩ := find_layOut ok
  exact (laid options.maxResults).trans (layOut_cut ((laid none).symm.trans ok))

def AllShown (snapshot : Snapshot) (query : Text) (options : SearchOptions) : Prop :=
  ∀ found ids, evaluated snapshot query = .ok found →
    restrict snapshot options found.docIds = .ok ids →
      ∀ id ∈ ids, ∃ t, snapshot.shownText id = .ok t

theorem booleanMatch_ok_iff {tokens : List QueryToken} {found : BooleanMatch} {id rank : Nat} :
    (∃ one, booleanMatch s snapshot tokens found id rank = .ok one) ↔
      ∃ t, snapshot.shownText id = .ok t := by
  simp [booleanMatch, highlight, bind_eq_ok, pure, Except.pure]

theorem fast_uncapped_ok {listing : Listing}
    (ok : (fast α s snapshot query options).listing = .ok listing) :
    ∃ whole, (fast α s snapshot query options.uncapped).listing = .ok whole := by
  rw [fast_layOut] at ok
  obtain ⟨scored, ranks, _⟩ := bind_eq_ok.mp ok
  -- what lies behind the limit has scored as well, so its text has been read already
  have shown : ∀ d ∈ scored, ∃ t, snapshot.shownText d.docId = .ok t := fun d member => by
    obtain ⟨ids, _, ranks⟩ := ranked_eq_ok.mp ranks
    obtain ⟨_, positive, made⟩ := (Scoring.mem_rank ranks).mp member
    exact shown_of_scored positive made
  have makes (d : Scored) (rank : Nat) :
      (∃ one, scoredMatch s snapshot (wordsOf query).eraseDups d rank = .ok one) ↔
        ∃ t, snapshot.shownText d.docId = .ok t := scoredMatch_ok_iff
  obtain ⟨whole, laid⟩ := (layOut_uncapped_ok_iff options makes).mpr shown
  rw [fast_layOut]
  exact ⟨whole, bind_eq_ok.mpr ⟨scored, ranks, laid⟩⟩

theorem boolean_uncapped_ok_iff {listing : Listing}
    (ok : (boolean s snapshot query options).listing = .ok listing) :
    (∃ whole, (boolean s snapshot query options.uncapped).listing = .ok whole) ↔
      AllShown snapshot query options := by
  rw [boolean_layOut] at ok
  obtain ⟨found, come, ok⟩ := bind_eq_ok.mp ok
  obtain ⟨ids, kept, _⟩ := bind_eq_ok.mp ok
  have whole : (boolean s snapshot query options.uncapped).listing = layOut options.uncapped
      (booleanMatch s snapshot (QueryToken.parse query) found) ids := by
    rw [boolean_layOut, come]
    change (restrict snapshot options found.docIds >>= _) = _
    rw [kept]
    rfl
  have makes (id rank : Nat) :
      (∃ one, booleanMatch s snapshot (QueryToken.parse query) found id rank = .ok one) ↔
        ∃ t, snapshot.shownText id = .ok t := booleanMatch_ok_iff
  rw [whole, layOut_uncapped_ok_iff options makes]
  constructor
  · intro shown other others same again id member
    cases come.symm.trans same
    cases kept.symm.trans again
    exact shown id member
  · exact fun shown => shown found ids come kept

theorem find_uncapped_ok_iff {listing : Listing}
    (ok : (find α s snapshot query options).listing = .ok listing) :
    (∃ whole, (find α s snapshot query options.uncapped).listing = .ok whole) ↔
      (searchTypeOf query = .boolean → AllShown snapshot query options) := by
  unfold find at ok ⊢
  cases read : searchTypeOf query with
  | fast =>
    rw [read] at ok
    exact iff_of_true (fast_uncapped_ok ok) nofun
  | boolean =>
    rw [read] at ok
    rw [forall_prop_of_true rfl]
    exact boolean_uncapped_ok_iff ok

theorem allShown_of_built {values : List Value} (built : Snapshot.build s values = .ok snapshot)
    (query : Text) (options : SearchOptions) : AllShown snapshot query options := by
  obtain ⟨documents, ok, rfl⟩ := Snapshot.build_eq_ok.mp built
  intro found ids come kept id member
  have inside : id ∈ (Snapshot.ofTexts s documents).docIds := by
    obtain ⟨_, rfl⟩ := filterM_eq_ok.mp kept
    have among := List.mem_of_mem_filter member
    unfold evaluated at come
    dsimp only at come
    split at come
    · cases come
      cases among
    · exact (Evaluation.docIds_sublist come).subset among
  obtain ⟨d, t, known⟩ := Snapshot.mem_docIds_ofTexts.mp inside
  exact Snapshot.shownText_ofTexts ok known

end Findings

/-- The order of an answer. Free text is listed by falling scores and rising numbers, and what a
boolean query finds by rising numbers, with scores that go by the rank. -/
structure SearchResponse.Ordered (response : SearchResponse) : Prop where
  distinct : (response.results.map (·.docId)).Nodup
  ranks : response.results.map (·.rank) = List.range' 1 response.results.length
  free : response.searchType = some .fast → (∀ one ∈ response.results, 0 < one.score) ∧
    response.results.Pairwise fun a b => b.score < a.score ∨ b.score = a.score ∧ a.docId < b.docId
  boolean : response.searchType = some .boolean →
    (response.results.Pairwise fun a b => a.docId < b.docId) ∧
      ∀ one ∈ response.results, one.score = max (101 - (one.rank : Int)) 1

namespace Engine
variable {s : Settings} {snapshot : Snapshot} {query : Text} {options : SearchOptions}
  {results : List Match} {total : Nat}

theorem ordered_nothing (query : Text) : SearchResponse.Ordered { query } :=
  ⟨List.nodup_nil, rfl, nofun, nofun⟩

theorem ordered_listing
    (ok : (Findings.find Binary64 s snapshot query options).listing = .ok (results, total)) :
    (SearchResponse.ofListing query (.ok (results, total))).Ordered := by
  unfold Findings.find at ok
  cases read : Findings.searchTypeOf query with
  | fast =>
    rw [read] at ok
    obtain ⟨distinct, ranks, order⟩ := Findings.fast_order ok
    refine ⟨distinct, ranks, fun _ => order, fun other => ?_⟩
    cases (congrArg some read).symm.trans other
  | boolean =>
    rw [read] at ok
    obtain ⟨ranks, ascending, scores⟩ := Findings.boolean_order ok
    refine ⟨?_, ranks, fun other => ?_, fun _ => ⟨ascending, scores⟩⟩
    · exact List.pairwise_map.mpr (ascending.imp Nat.ne_of_lt)
    · cases (congrArg some read).symm.trans other

theorem answerOn_short (few : query.length < s.minQueryLength) (options : SearchOptions) :
    answerOn s snapshot query options = { query } := by
  rw [answerOn_eq, if_pos few]

theorem ofListing_ok_iff {listing : Except Failure Listing} :
    (SearchResponse.ofListing query listing).error = none ↔ ∃ found, listing = .ok found := by
  cases listing with
  | ok found => exact iff_of_true rfl ⟨found, rfl⟩
  | error f => exact iff_of_false nofun nofun

theorem short_or_listed (fine : (answerOn s snapshot query options).error = none) :
    query.length < s.minQueryLength ∨
      (∃ listing, (Findings.find Binary64 s snapshot query options).listing = .ok listing) ∧
      ∀ other, answerOn s snapshot query other =
        .ofListing query (Findings.find Binary64 s snapshot query other).listing := by
  by_cases few : query.length < s.minQueryLength
  · exact .inl few
  rw [answerOn_eq, if_neg few] at fine
  split at fine
  next ready =>
    refine .inr ⟨ofListing_ok_iff.mp fine, fun other => ?_⟩
    rw [answerOn_eq, if_neg few, if_pos ready]
  next => cases fine

theorem answer_ordered (fine : (answerOn s snapshot query options).error = none) :
    (answerOn s snapshot query options).Ordered ∧
      (answerOn s snapshot query options).results.length =
        min (options.limit.getD (answerOn s snapshot query options).total)
          (answerOn s snapshot query options).total := by
  obtain few | ⟨⟨⟨results, total⟩, found⟩, answered⟩ := short_or_listed fine
  · rw [answerOn_short few]
    exact ⟨ordered_nothing query, (Nat.min_zero _).symm⟩
  · rw [answered, found]
    exact ⟨ordered_listing found, Findings.length_find found⟩

theorem answer_begins (fine : (answerOn s snapshot query options.uncapped).error = none) :
    (answerOn s snapshot query options).total =
        (answerOn s snapshot query options.uncapped).total ∧
      (answerOn s snapshot query options).results =
        options.cap (answerOn s snapshot query options.uncapped).results := by
  obtain few | ⟨⟨⟨results, total⟩, found⟩, answered⟩ := short_or_listed fine
  · rw [answerOn_short few, answerOn_short few, SearchOptions.cap_eq_take]
    exact ⟨rfl, List.take_nil.symm⟩
  · rw [answered, answered, found, Findings.find_cut found]
    exact ⟨rfl, rfl⟩

theorem uncapped_fine_iff (fine : (answerOn s snapshot query options).error = none) :
    (answerOn s snapshot query options.uncapped).error = none ↔
      ((answerOn s snapshot query options).searchType = some .boolean →
        Findings.AllShown snapshot query options) := by
  obtain few | ⟨⟨listing, found⟩, answered⟩ := short_or_listed fine
  · rw [answerOn_short few, answerOn_short few]
    exact iff_of_true rfl nofun
  · rw [answered, answered, ofListing_ok_iff, Findings.find_uncapped_ok_iff found, found]
    simp [SearchResponse.ofListing]

/-- Every search without an error has an ordered answer, as long as the limit goes. It is the
beginning of the answer without a limit, unless that has an error: in free text it has none, and for
a boolean query only if a further document cannot be shown, which does not happen to a collection as
it was indexed. -/
theorem capped_answer_begins_whole (s : Settings) (snapshot : Snapshot) (query : Text)
    (options : SearchOptions) (fine : (answerOn s snapshot query options).error = none) :
    let answer := answerOn s snapshot query options
    let whole := answerOn s snapshot query options.uncapped
    answer.Ordered ∧ answer.results.length = min (options.limit.getD answer.total) answer.total ∧
    (whole.error = none → answer.total = whole.total ∧ whole.results.length = whole.total ∧
      answer.results = whole.results.take (min (options.limit.getD whole.total) whole.total)) ∧
    (whole.error = none ↔
      (answer.searchType = some .boolean → Findings.AllShown snapshot query options)) ∧
    ∀ values, Snapshot.build s values = .ok snapshot → whole.error = none := by
  intro answer whole
  obtain ⟨ordered, length⟩ := answer_ordered fine
  refine ⟨ordered, length, fun complete => ?_, uncapped_fine_iff fine, fun values built => ?_⟩
  · obtain ⟨total, results⟩ := answer_begins complete
    have all : whole.results.length = whole.total := by simpa using (answer_ordered complete).2
    rw [SearchOptions.cap_eq_take] at results
    exact ⟨total, all, all ▸ results⟩
  · exact (uncapped_fine_iff fine).mpr fun _ => Findings.allShown_of_built built query options

theorem first_cat_begins_cats :
    let answer := answerOn {} Snapshot.dogIndex "+cat".toList { maxResults := some 1 }
    let whole := answerOn {} Snapshot.dogIndex "+cat".toList {}
    answer.error = none ∧ answer.total = 2 ∧ answer.results.length = 1 ∧ whole.error = none ∧
      whole.results.length = 2 ∧ answer.results = whole.results.take 1 := by
  intro answer whole
  have found : answer.error = none ∧ answer.total = 2 := by
    rw [show answer = _ from answerOn_eq ..]
    decide +kernel
  obtain ⟨_, length, begins, _, complete⟩ := capped_answer_begins_whole {} Snapshot.dogIndex
    "+cat".toList { maxResults := some 1 } found.1
  have fine : whole.error = none := complete _ Snapshot.dogs_built
  obtain ⟨total, all, results⟩ := begins fine
  have two : whole.total = 2 := total.symm.trans found.2
  change answer.results.length = min 1 answer.total at length
  change answer.results = whole.results.take (min 1 whole.total) at results
  change whole.results.length = whole.total at all
  rw [two] at all results
  rw [found.2] at length
  exact ⟨found.1, found.2, length, fine, all, results⟩

theorem capped_answer_is_not_always_beginning :
    let notes := Value.list (List.replicate 2 (.note (.text "cat".toList) none []))
    let e := (create {} "notes".toList notes .zero).modify 1 (.silence "gone".toList)
    let answer := answerOn e.settings e.snapshot "+cat".toList { maxResults := some 1 }
    let whole := answerOn e.settings e.snapshot "+cat".toList {}
    answer.error = none ∧ answer.total = 2 ∧ whole.total = 0 ∧
      answer.results ≠ whole.results.take (min 1 whole.total) := by
  decide +kernel

end Engine
end Concordance
