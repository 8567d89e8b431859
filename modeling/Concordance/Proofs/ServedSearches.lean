import Concordance.Proofs.WindowStatistics

/-! What an engine tells of the searches it has served. Each of them is written to three places: to
the counters of the telemetry, by labels, to the events of the window, and to the engine itself as
the latest one. None of the places can miss a search, or see one that the others do not, so whatever
has happened, all three tell of the same searches. -/
namespace Concordance

namespace Series
variable {κ : Type} [DecidableEq κ]

def sumWhere (p : κ → Bool) (series : Series κ Nat) : Nat :=
  ((series.filter fun entry => p entry.1).map (·.2)).sum

theorem sumWhere_counted (p : κ → Bool) (key : κ) (series : Series κ Nat) :
    sumWhere p (series.adjust 0 key (· + 1)) = sumWhere p series + if p key then 1 else 0 := by
  induction series with
  | nil => by_cases passes : p key <;> simp [adjust, sumWhere, passes]
  | cons entry rest ih =>
    obtain ⟨known, n⟩ := entry
    unfold sumWhere at ih ⊢
    -- the count goes to the first entry of its key, and further ones are left as they are
    by_cases same : known = key
    · subst same
      by_cases passes : p known <;> simp [adjust, passes]
      omega
    · by_cases passes : p known <;> simp [adjust, same, passes, ih]
      omega

end Series

namespace Telemetry

def queriesWhere (p : Labels → Bool) (t : Telemetry) : Nat := Series.sumWhere p t.searchCount

end Telemetry

namespace SearchResponse
variable {response : SearchResponse} {searchType : SearchType}

def labels (engine : Text) (response : SearchResponse) : Labels :=
  Telemetry.queryLabels engine (response.searchType.getD .fast).name response.cached

theorem labels_cached (engine : Text) (response : SearchResponse) :
    (response.labels engine).contains ("cached".toList, "true".toList) = response.cached := by
  unfold labels
  cases response.cached <;> rfl

theorem labels_searchType (engine : Text) (read : response.searchType = some searchType)
    (other : SearchType) : (response.labels engine).contains
      ("search_type".toList, other.name) = (response.searchType == some other) := by
  rw [labels, read]
  cases searchType <;> cases other <;> rfl

end SearchResponse

namespace Engine
variable {ledger : Ledger} {served : List SearchResponse} {response : SearchResponse}

structure Tallies (ledger : Ledger) (served : List SearchResponse) : Prop where
  queries : ∀ p, ledger.telemetry.queriesWhere p =
    served.countP fun response => p (response.labels ledger.name)
  total : ledger.window.occurrences SearchWindow.totalEvent = served.length
  ofType : ∀ searchType : SearchType,
    ledger.window.occurrences (SearchWindow.typeEvent searchType.name) =
      served.countP (·.searchType == some searchType)
  lastQuery : ledger.lastQuery = served.getLast?.map (·.query)
  lastResultCount : ledger.lastResultCount = (served.getLast?.map (·.results.length)).getD 0
  size : ledger.window.size = some 1000
  kept : ledger.window.latest.length = min 1000 served.length
  samples : ∀ sample ∈ ledger.window.latest, (∃ x, sample.latency = .real x) ∧
    ∃ response ∈ served, sample.resultCount = response.results.length

theorem tallies_blank (name : Text) : Tallies (.blank name) [] := by
  constructor
  · exact fun _ => rfl
  · rfl
  · exact fun _ => rfl
  · rfl
  · rfl
  · rfl
  · rfl
  · exact fun _ member => by cases member

theorem Tallies.note (tallies : Tallies ledger served) (ok : response.served = true)
    (elapsed : Binary64) : Tallies (ledger.note response elapsed) (served ++ [response]) := by
  obtain ⟨searchType, read⟩ := Option.ne_none_iff_exists'.mp (SearchResponse.served_iff.mp ok).2
  have named : (sampleOf response elapsed).searchType = searchType.name := by
    rw [sampleOf, read]
    rfl
  obtain ⟨once, types, _⟩ := @SearchWindow.count_eventsOf ledger.window _ _ named
  have occurs := SearchWindow.occurrences_record ledger.window (sampleOf response elapsed)
  have latest := @SearchWindow.latest_record _ (sampleOf response elapsed) _ tallies.size
  constructor
  · intro p
    have counted := Series.sumWhere_counted p (response.labels ledger.name)
      ledger.telemetry.searchCount
    rw [List.countP_append, List.countP_singleton]
    exact counted.trans (congrArg (· + _) (tallies.queries p))
  · rw [List.length_append, List.length_singleton, ← tallies.total, ← once]
    exact occurs _
  · intro other
    rw [List.countP_append, List.countP_singleton, ← tallies.ofType other, read]
    refine (occurs _).trans ?_
    rw [types other]
    simp
  · rw [List.getLast?_concat]
    rfl
  · rw [List.getLast?_concat]
    rfl
  · exact tallies.size
  · change (ledger.window.record _).latest.length = _
    rw [latest, List.length_take, List.length_cons, tallies.kept, List.length_append,
      List.length_singleton]
    omega
  · intro sample member
    change sample ∈ (ledger.window.record _).latest at member
    rw [latest] at member
    obtain rfl | earlier := List.mem_cons.mp (List.mem_of_mem_take member)
    · exact ⟨⟨elapsed, rfl⟩, response, List.mem_append_right _ List.mem_cons_self, rfl⟩
    · obtain ⟨real, one, among, count⟩ := tallies.samples sample earlier
      exact ⟨real, one, List.mem_append_left _ among, count⟩

theorem tallies_after (s : Settings) (name : Text) (documents : Value) (began : Binary64)
    (history : List Happening) :
    ∃ ledger, ((create s name documents began).after history).Keeps ledger ∧ Tallies ledger
      (((create s name documents began).responses history).filter SearchResponse.served) := by
  refine after_keeps (fun ledger responses => Tallies ledger (responses.filter SearchResponse.served))
    (fun ledger responses response elapsed tallies => ?_) (keeps_create s name documents began)
    (tallies_blank name) history
  rw [List.filter_append]
  unfold Ledger.take
  split
  next ok =>
    rw [List.filter_cons_of_pos ok, List.filter_nil]
    exact tallies.note ok elapsed
  next unserved =>
    rw [List.filter_cons_of_neg unserved, List.filter_nil, List.append_nil]
    exact tallies

/-- Whatever has happened to an engine, its telemetry and its statistics tell of the searches it has
served: how many there were, how many were answered from the cache, how many were of each type, and
which was the latest. The statistics can be told as long as no answer is beyond all measure. -/
theorem served_searches_are_told (s : Settings) (name : Text) (documents : Value)
    (began : Binary64) (history : List Happening) :
    let e := (create s name documents began).after history
    let served := ((create s name documents began).responses history).filter SearchResponse.served
    let ofType (searchType : SearchType) := served.countP (·.searchType == some searchType)
    e.telemetry.queriesWhere (fun _ => true) = served.length ∧
    e.telemetry.queriesWhere (·.contains ("cached".toList, "true".toList)) =
      served.countP (·.cached) ∧
    (∀ searchType : SearchType, e.telemetry.queriesWhere
      (·.contains ("search_type".toList, searchType.name)) = ofType searchType) ∧
    (∀ told, e.statistics = .ok told →
      told.lastQuery = served.getLast?.map (·.query) ∧
      told.lastResultCount = (served.getLast?.map (·.results.length)).getD 0 ∧
      told.searches.elim 0 (·.totalSearches) = served.length ∧
      told.searches.elim 0 (·.booleanSearches) = ofType .boolean ∧
      told.searches.elim 0 (·.fastSearches) = ofType .fast) ∧
    ((∀ response ∈ served, response.results.length ≤ 2 ^ 128) →
      ∃ told, e.statistics = .ok told) := by
  intro e served ofType
  obtain ⟨ledger, keeps, tallies⟩ := tallies_after s name documents began history
  change Tallies ledger served at tallies
  cases keeps.ledger
  have queries (p : Labels → Bool) : e.telemetry.queriesWhere p =
      served.countP fun response => p (response.labels e.name) := tallies.queries p
  refine ⟨?_, ?_, fun searchType => ?_, fun told ok => ?_, fun moderate => ?_⟩
  · rw [queries, List.countP_true]
  · rw [queries]
    exact List.countP_congr fun response _ => by rw [SearchResponse.labels_cached]
  · rw [queries]
    refine List.countP_congr fun response member => ?_
    have ok := (List.mem_filter.mp member).2
    obtain ⟨read, known⟩ := Option.ne_none_iff_exists'.mp (SearchResponse.served_iff.mp ok).2
    rw [SearchResponse.labels_searchType _ known]
  · obtain ⟨searches, window, same⟩ := Outcome.bind_eq_ok.mp ok
    cases same
    refine ⟨tallies.lastQuery, tallies.lastResultCount, ?_⟩
    obtain ⟨nothing, something⟩ := SearchWindow.statistics_tells window
    by_cases empty : e.window.latest = []
    · have none : served.length = 0 := by
        have kept : e.window.latest.length = min 1000 served.length := tallies.kept
        rw [empty, List.length_nil] at kept
        omega
      rw [nothing empty]
      simp [ofType, List.length_eq_zero_iff.mp none]
    · obtain ⟨statistics, rfl, total, boolean, fast⟩ := something empty
      exact ⟨total.trans tallies.total, boolean.trans (tallies.ofType .boolean),
        fast.trans (tallies.ofType .fast)⟩
  · obtain ⟨searches, window⟩ := @SearchWindow.statistics_ok e.window fun sample member => by
      obtain ⟨real, response, among, count⟩ := tallies.samples sample member
      exact ⟨real, _, count, moderate response among⟩
    exact ⟨_, Outcome.bind_eq_ok.mpr ⟨searches, window, rfl⟩⟩

def fourSearches : List Happening :=
  ["+cat", "+cat", "", "cat"].map fun query => .operation (.search query.toList {} .zero)

theorem four_searches_are_told :
    let e := (create {} "cats".toList Session.cats .zero).after fourSearches
    e.telemetry.queriesWhere (fun _ => true) = 3 ∧
      e.telemetry.queriesWhere (·.contains ("cached".toList, "true".toList)) = 1 ∧
      ∃ told, e.statistics = .ok told ∧ told.lastQuery = some "cat".toList ∧
        told.searches.elim 0 (·.totalSearches) = 3 ∧
        told.searches.elim 0 (·.booleanSearches) = 2 := by
  intro e
  obtain ⟨total, cached, _, tells, told⟩ := served_searches_are_told {} "cats".toList Session.cats
    .zero fourSearches
  generalize known : ((create {} "cats".toList Session.cats .zero).responses fourSearches).filter
    SearchResponse.served = served at total cached tells told
  have counts : served.length = 3 ∧ served.countP (·.cached) = 1 ∧
      served.countP (·.searchType == some .boolean) = 2 ∧
      served.getLast?.map (·.query) = some "cat".toList ∧
      ∀ response ∈ served, response.results.length ≤ 1 := by
    rw [← known]
    decide +kernel
  obtain ⟨three, one, two, last, few⟩ := counts
  obtain ⟨statistics, ok⟩ := told fun response member =>
    (few response member).trans Nat.one_le_two_pow
  obtain ⟨query, _, all, boolean, _⟩ := tells statistics ok
  exact ⟨total.trans three, cached.trans one, statistics, ok, query.trans last, all.trans three,
    boolean.trans two⟩

end Engine
end Concordance
