import Concordance.Proofs.CandidateOrder
import Concordance.Proofs.DocumentAlone
import Concordance.Proofs.SetAlgebra

/-! Filtering before listing and after it. Filters look at one document at a time, so ranking the
documents they let through is ranking all and then passing over the others: the ranks are counted
anew, and with them the scores that go by rank alone. -/
namespace Concordance

namespace Match
variable {found : Match} {keep : Nat → Bool}

@[simp] theorem atRank_docId (found : Match) (rank : Nat) :
    (found.atRank rank).docId = found.docId := by
  unfold atRank
  split <;> rfl

@[simp] theorem atRank_atRank (found : Match) (rank further : Nat) :
    (found.atRank rank).atRank further = found.atRank further := by
  cases found with
  | mk docId score place matchCount searchType highlighted => cases searchType <;> rfl

def narrow (keep : Nat → Bool) (found : List Match) : List Match :=
  renumber (found.filter fun one => keep one.docId)

theorem narrow_length (keep : Nat → Bool) (found : List Match) :
    (narrow keep found).length = (found.filter fun one => keep one.docId).length := by
  simp [narrow, renumber]

theorem narrow_renumber (keep : Nat → Bool) (found : List Match) :
    narrow keep (renumber found) = narrow keep found := by
  have from_any (start later : Nat) :
      ((((found.zipIdx start).map fun entry => entry.1.atRank entry.2).filter
        fun one => keep one.docId).zipIdx later).map (fun entry => entry.1.atRank entry.2) =
      ((found.filter fun one => keep one.docId).zipIdx later).map
        fun entry => entry.1.atRank entry.2 := by
    induction found generalizing start later with
    | nil => rfl
    | cons first found ih =>
      rw [List.zipIdx_cons, List.map_cons, List.filter_cons, List.filter_cons, atRank_docId]
      split
      · simp only [List.zipIdx_cons, List.map_cons, atRank_atRank, ih]
      · exact ih (start + 1) later
  exact from_any 1 1

end Match

def SearchOptions.unfiltered (o : SearchOptions) : SearchOptions := { o with filters := [] }

namespace Findings
open Outcome
variable {α : Type} [Credit α] {s : Settings} {snapshot : Snapshot} {query : Text}
  {options : SearchOptions} {ids : List Nat} {tokens : List QueryToken} {found : BooleanMatch}
  {results : List Match} {total : Nat}

def keeps (snapshot : Snapshot) (options : SearchOptions) (id : Nat) : Bool :=
  accepted (satisfies snapshot options id)

theorem restrict_answered (answered : Answered snapshot options)
    (inside : ∀ id ∈ ids, id ∈ snapshot.docIds) :
    restrict snapshot options ids = .ok (ids.filter (keeps snapshot options)) :=
  filterM_eq_ok.mpr ⟨fun id member => answered id (inside id member), rfl⟩

theorem fast_narrow (unlimited : options.limit = none) (answered : Answered snapshot options)
    (ok : (fast α s snapshot query options.unfiltered).listing = .ok (results, total)) :
    (fast α s snapshot query options).listing =
      .ok (Match.narrow (keeps snapshot options) results,
        (Match.narrow (keeps snapshot options) results).length) := by
  have uncut : options.unfiltered.limit = none := unlimited
  obtain ⟨scored, bare, ranks, all, rfl, _⟩ := (fast_eq_ok uncut).mp ok
  obtain ⟨ids, kept, ranks⟩ := ranked_eq_ok.mp ranks
  cases (restrict_unfiltered rfl _).symm.trans kept
  have inside : ∀ id ∈ (candidatesOf s snapshot query options).docIds, id ∈ snapshot.docIds :=
    fun id member => List.mem_of_mem_filter member
  have fewer := mapM_filter (q := fun one : Match => keeps snapshot options one.docId) all
    fun d one shown => congrArg (keeps snapshot options) (scoredMatch_eq shown).1
  rw [Match.narrow_renumber]
  refine (fast_eq_ok unlimited).mpr ⟨_, _, ranked_eq_ok.mpr ⟨_, restrict_answered answered inside,
    Scoring.rank_filter ranks _⟩, fewer, rfl, ?_⟩
  rw [Match.narrow_length, length_of_mapM fewer]

theorem booleanMatch_eq {id rank : Nat}
    {one : Match} (ok : booleanMatch s snapshot tokens found id rank = .ok one) :
    one.docId = id ∧ one.score = placeScore rank ∧ one.rank = rank := by
  obtain ⟨_, _, same⟩ := bind_eq_ok.mp ok
  cases same
  exact ⟨rfl, rfl, rfl⟩

theorem booleanMatch_ranked (s : Settings) (snapshot : Snapshot) (tokens : List QueryToken)
    (found : BooleanMatch) (id rank : Nat) : booleanMatch s snapshot tokens found id rank =
      (booleanMatch s snapshot tokens found id 0).map (·.atRank rank) := by
  unfold booleanMatch
  cases highlight s snapshot (QueryToken.highlightTerms tokens) id <;> rfl

theorem listed_layOut (s : Settings) (snapshot : Snapshot) (tokens : List QueryToken)
    (found : BooleanMatch) (options : SearchOptions) :
    listed s snapshot tokens found options = restrict snapshot options found.docIds >>=
      layOut options (booleanMatch s snapshot tokens found) := rfl

theorem listed_eq_ok (unlimited : options.limit = none) :
    listed s snapshot tokens found options = .ok (results, total) ↔
      ∃ ids bare, restrict snapshot options found.docIds = .ok ids ∧
        ids.mapM (booleanMatch s snapshot tokens found · 0) = .ok bare ∧
        results = Match.renumber bare ∧ total = ids.length := by
  rw [listed_layOut, bind_eq_ok]
  simp only [layOut_places unlimited (booleanMatch_ranked s snapshot tokens found),
    exists_and_left]

theorem listed_narrow (unlimited : options.limit = none) (answered : Answered snapshot options)
    (inside : ∀ id ∈ found.docIds, id ∈ snapshot.docIds)
    (ok : listed s snapshot tokens found options.unfiltered = .ok (results, total)) :
    listed s snapshot tokens found options =
      .ok (Match.narrow (keeps snapshot options) results,
        (Match.narrow (keeps snapshot options) results).length) := by
  have uncut : options.unfiltered.limit = none := unlimited
  obtain ⟨ids, bare, kept, all, rfl, _⟩ := (listed_eq_ok uncut).mp ok
  cases (restrict_unfiltered rfl _).symm.trans kept
  have fewer := mapM_filter (q := fun one : Match => keeps snapshot options one.docId) all
    fun id one shown => congrArg (keeps snapshot options) (booleanMatch_eq shown).1
  rw [Match.narrow_renumber]
  refine (listed_eq_ok unlimited).mpr ⟨_, _, restrict_answered answered inside, fewer, rfl, ?_⟩
  rw [Match.narrow_length, length_of_mapM fewer]

theorem boolean_listing (s : Settings) (snapshot : Snapshot) (query : Text)
    (options : SearchOptions) : (boolean s snapshot query options).listing =
      if (QueryToken.parse query).all (·.kind == .operator) then .ok ([], 0)
      else Evaluation.run snapshot (QueryToken.parse query) >>= fun found =>
        listed s snapshot (QueryToken.parse query) found options := by
  unfold boolean
  dsimp only
  split
  · rfl
  · cases Evaluation.run snapshot (QueryToken.parse query) <;> rfl

theorem boolean_narrow (unlimited : options.limit = none) (answered : Answered snapshot options)
    (ok : (boolean s snapshot query options.unfiltered).listing = .ok (results, total)) :
    (boolean s snapshot query options).listing =
      .ok (Match.narrow (keeps snapshot options) results,
        (Match.narrow (keeps snapshot options) results).length) := by
  rw [boolean_listing] at ok ⊢
  split
  next nothing =>
    rw [if_pos nothing] at ok
    cases ok
    rfl
  next some =>
    rw [if_neg some] at ok
    obtain ⟨found, evaluated, ok⟩ := bind_eq_ok.mp ok
    refine bind_eq_ok.mpr ⟨found, evaluated, listed_narrow unlimited answered ?_ ok⟩
    exact fun id member => (Evaluation.docIds_sublist evaluated).subset member

theorem find_narrow (unlimited : options.limit = none) (answered : Answered snapshot options)
    (ok : (find α s snapshot query options.unfiltered).listing = .ok (results, total)) :
    (find α s snapshot query options).listing =
      .ok (Match.narrow (keeps snapshot options) results,
        (Match.narrow (keeps snapshot options) results).length) := by
  unfold find at ok ⊢
  cases read : searchTypeOf query with
  | fast =>
    rw [read] at ok
    exact fast_narrow unlimited answered ok
  | boolean =>
    rw [read] at ok
    exact boolean_narrow unlimited answered ok

end Findings

def SearchResponse.narrowed (response : SearchResponse) (keep : Nat → Bool) : SearchResponse :=
  { response with
    results := Match.narrow keep response.results
    total := (Match.narrow keep response.results).length }

namespace Engine
variable {s : Settings} {snapshot : Snapshot} {query : Text} {options : SearchOptions}
  {values : List Value}

theorem boolean_evaluated (built : Snapshot.build s values = .ok snapshot)
    (boolean : QueryToken.isBoolean query = true) (unfiltered : options.filters = [])
    (unlimited : options.limit = none) : (answerOn s snapshot query options).Evaluated := by
  by_cases asks : Asks s snapshot query
  · obtain ⟨documents, ok, rfl⟩ := Snapshot.build_eq_ok.mp built
    have read : Findings.searchTypeOf query = .boolean := by simp [Findings.searchTypeOf, boolean]
    rw [answerOn_eq, if_neg (Nat.not_lt.mpr asks.1), if_pos asks.2, Findings.find, read]
    dsimp only
    rw [Findings.boolean_listing]
    split
    · exact SearchResponse.evaluated_of_ok rfl
    · obtain ⟨found, evaluated⟩ :=
        Evaluation.run_parse_of_readable (Snapshot.readable_ofTexts ok) query
      have shows (id : Nat) (member : id ∈ found.docIds) : ∃ one, Findings.booleanMatch s
          (Snapshot.ofTexts s documents) (QueryToken.parse query) found id 0 = .ok one := by
        have inside := (Evaluation.docIds_sublist evaluated).subset member
        obtain ⟨one, shown, _⟩ := Findings.booleanMatch_shows ok inside 0
        exact ⟨one, shown⟩
      obtain ⟨bare, all⟩ := Outcome.mapM_ok_iff.mpr shows
      have listed := (Findings.listed_eq_ok unlimited).mpr
        ⟨found.docIds, bare, Findings.restrict_unfiltered unfiltered _, all, rfl, rfl⟩
      rw [Outcome.bind_eq_ok.mpr ⟨found, evaluated, listed⟩]
      exact SearchResponse.evaluated_of_ok rfl
  · exact (answerOn_settled asks options).1

/-- What an engine that has published a snapshot and remembers nothing gives for a search. -/
def askOn (s : Settings) (snapshot : Snapshot) (query : Text) (options : SearchOptions) :
    Except Failure SearchResponse :=
  (({ settings := s, snapshot } : Engine).ask query (.ok options) .zero).2

theorem askOn_eq (writable : options.obstacle? = none) :
    askOn s snapshot query options = .ok (answerOn s snapshot query options) := by
  simp [askOn, ask, unlessBarred, obstacle?, writable, answerOn]

theorem answerOn_narrowed (unlimited : options.limit = none)
    (answered : Findings.Answered snapshot options)
    (evaluated : (answerOn s snapshot query options.unfiltered).Evaluated) :
    answerOn s snapshot query options =
      (answerOn s snapshot query options.unfiltered).narrowed (Findings.keeps snapshot options) := by
  rw [answerOn_eq] at evaluated ⊢
  rw [answerOn_eq]
  split
  next => rfl
  next enough =>
    rw [if_neg enough] at evaluated
    split
    next ready =>
      rw [if_pos ready] at evaluated
      cases found : (Findings.find Binary64 s snapshot query options.unfiltered).listing with
      | error f =>
        rw [found] at evaluated
        exact absurd evaluated (SearchResponse.not_evaluated_ofListing query f)
      | ok listing =>
        rw [Findings.find_narrow unlimited answered found]
        rfl
    next => rfl

/-- A search that is not cut, whose key can be written and whose filters can be applied to every
document, is answered as it is without filters, of which answer the documents that satisfy them are
left in their order, with new ranks. Only where the search without filters fails there may be an
answer of another kind, which does not happen to a boolean query on a collection as it was
indexed. -/
theorem filtered_answer_is_narrowed (unlimited : options.limit = none)
    (answered : Findings.Answered snapshot options) (writable : options.obstacle? = none) :
    ∃ bare, askOn s snapshot query options.unfiltered = .ok bare ∧
      (bare.Evaluated → askOn s snapshot query options =
        .ok (bare.narrowed (Findings.keeps snapshot options))) ∧
      (QueryToken.isBoolean query = true → ∀ values, Snapshot.build s values = .ok snapshot →
        bare.Evaluated) := by
  refine ⟨_, askOn_eq rfl, fun evaluated => ?_, fun boolean values built => ?_⟩
  · rw [askOn_eq writable, answerOn_narrowed unlimited answered evaluated]
  · exact boolean_evaluated built boolean rfl unlimited

def saying (t : String) : SearchOptions :=
  { filters := [("text".toList, ⟨.category, .text t.toList⟩)] }

theorem cats_narrowed :
    (saying "cat").limit = none ∧ Findings.Answered Snapshot.dogIndex (saying "cat") ∧
    (saying "cat").obstacle? = none ∧
    (∀ query ∈ ["cat".toList, "+cat".toList], ∃ bare,
      askOn {} Snapshot.dogIndex query (saying "cat").unfiltered = .ok bare ∧ bare.Evaluated ∧
      askOn {} Snapshot.dogIndex query (saying "cat") =
        .ok (bare.narrowed (Findings.keeps Snapshot.dogIndex (saying "cat")))) ∧
    (answerOn {} Snapshot.dogIndex "+cat".toList (saying "cat").unfiltered).results.map
      (fun found => (found.docId, found.score)) = [(0, 100), (1, 99)] ∧
    (answerOn {} Snapshot.dogIndex "+cat".toList (saying "cat")).results.map
      (fun found => (found.docId, found.score)) = [(1, 100)] := by
  have answered : Findings.Answered Snapshot.dogIndex (saying "cat") := by
    intro id member
    obtain rfl | rfl : id = 0 ∨ id = 1 := by simpa using (show id ∈ [0, 1] from member)
    · exact ⟨false, by decide +kernel⟩
    · exact ⟨true, by decide +kernel⟩
  have writable : (saying "cat").obstacle? = none := by decide +kernel
  have free : QueryToken.isBoolean "cat".toList = false := by decide +kernel
  have evaluated :
      (answerOn {} Snapshot.dogIndex "cat".toList (saying "cat").unfiltered).Evaluated := by
    refine (evaluated_fast_iff free rfl).mpr fun _ id => ?_
    match id with
    | 0 => exact ⟨some ⟨85, 1, "-Dog's- a <mark class=\"fast-highlight\">CAT</mark>".toList⟩,
        by decide +kernel⟩
    | 1 => exact ⟨some ⟨85, 1, "<mark class=\"fast-highlight\">cat</mark>".toList⟩,
        by decide +kernel⟩
    | id + 2 => exact ⟨none, Findings.verdict_beyond Snapshot.dogs_built rfl⟩
  have narrowed (query : Text) := @filtered_answer_is_narrowed {} Snapshot.dogIndex query
    (saying "cat") rfl answered writable
  refine ⟨rfl, answered, writable, ?_, ?_, ?_⟩
  · rw [List.forall_mem_cons, List.forall_mem_singleton]
    constructor
    · obtain ⟨bare, asked, narrows, _⟩ := narrowed "cat".toList
      have whole : bare.Evaluated := by
        rw [← Except.ok.inj ((askOn_eq rfl).symm.trans asked)]
        exact evaluated
      exact ⟨bare, asked, whole, narrows whole⟩
    · obtain ⟨bare, asked, narrows, always⟩ := narrowed "+cat".toList
      have evaluated := always (by decide +kernel) _ Snapshot.dogs_built
      exact ⟨bare, asked, evaluated, narrows evaluated⟩
  · rw [answerOn_eq]
    decide +kernel
  · rw [answerOn_eq]
    decide +kernel

theorem narrowing_takes_an_answer :
    Settings.read [("exact_word_weight".toList, .int (10 ^ 309 : Nat))] [] = .ok heavy ∧
    Snapshot.build heavy catAndCats = .ok heavyIndex ∧
    (saying "cats").limit = none ∧ Findings.Answered heavyIndex (saying "cats") ∧
    (saying "cats").obstacle? = none ∧
    ∃ bare answer, askOn heavy heavyIndex "cat".toList (saying "cats").unfiltered = .ok bare ∧
      askOn heavy heavyIndex "cat".toList (saying "cats") = .ok answer ∧
      answer.results ≠ (bare.narrowed (Findings.keeps heavyIndex (saying "cats"))).results := by
  have answered : Findings.Answered heavyIndex (saying "cats") := by
    intro id member
    obtain rfl | rfl : id = 0 ∨ id = 1 := by simpa using (show id ∈ [0, 1] from member)
    · exact ⟨false, by decide +kernel⟩
    · exact ⟨true, by decide +kernel⟩
  have free : QueryToken.isBoolean "cat".toList = false := by decide +kernel
  have tooMuch : Findings.verdict Binary64 heavy heavyIndex "cat".toList
      (saying "cats").unfiltered 0 = .error .integerTooLarge := by decide +kernel
  have failed : ¬(answerOn heavy heavyIndex "cat".toList (saying "cats").unfiltered).Evaluated := by
    intro evaluated
    obtain ⟨v, judged⟩ := (evaluated_fast_iff free rfl).mp evaluated ⟨by decide, rfl⟩ 0
    cases tooMuch.symm.trans judged
  have second : Findings.verdict Binary64 heavy heavyIndex "cat".toList (saying "cats") 1 =
      .ok (some ⟨75, 1, "<mark class=\"fast-highlight\">cat</mark>s".toList⟩) := by decide +kernel
  have evaluated : (answerOn heavy heavyIndex "cat".toList (saying "cats")).Evaluated := by
    refine (evaluated_fast_iff free rfl).mpr fun _ id => ?_
    match id with
    | 0 => exact ⟨none, by decide +kernel⟩
    | 1 => exact ⟨_, second⟩
    | id + 2 => exact ⟨none, Findings.verdict_beyond heavy_built rfl⟩
  obtain ⟨found, member, _⟩ := (lists_fast_iff free rfl evaluated).mpr ⟨⟨by decide, rfl⟩, second⟩
  have writable : (saying "cats").obstacle? = none := by decide +kernel
  refine ⟨Settings.read_exactWordWeight _, heavy_built, rfl, answered, writable, _, _,
    askOn_eq rfl, askOn_eq writable, fun same => ?_⟩
  rw [same, SearchResponse.narrowed, results_of_failed failed] at member
  cases member

end Engine
end Concordance
