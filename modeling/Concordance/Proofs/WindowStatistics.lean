import Concordance.Proofs.FloatCredit
import Concordance.Proofs.Measurement

/-! The window of the latest searches, and its statistics. A sample adds to the counts of the events
that it is, and pushes the oldest one out of a full window. The statistics can be told whenever the
latencies are floating-point numbers and no count of results is beyond all measure. -/
namespace Concordance

namespace Series
variable {κ : Type} [DecidableEq κ] [BEq κ] [LawfulBEq κ]

theorem value_counted (events : List κ) (series : Series κ Nat) (event : κ) :
    value 0 (events.foldl (fun series event => series.adjust 0 event (· + 1)) series) event =
      value 0 series event + events.count event := by
  induction events generalizing series with
  | nil => rfl
  | cons first events ih =>
    rw [List.foldl_cons, ih, List.count_cons]
    by_cases same : first = event
    · subst same
      rw [value_adjust_self, beq_self_eq_true, if_pos rfl]
      omega
    · rw [value_adjust_of_ne 0 _ _ (Ne.symm same), if_neg (by simpa using same), Nat.add_zero]

end Series

namespace SearchSample

theorem sort_perm (samples : List SearchSample) : (sort samples).Perm samples := by
  unfold sort
  split
  · exact Insertion.sort_perm _ _
  · exact List.mergeSort_perm _ _

end SearchSample

namespace SearchWindow
variable {window : SearchWindow} {sample : SearchSample} {searchType other : SearchType}
  {told : Option SearchStatistics}

theorem occurrences_record (window : SearchWindow) (sample : SearchSample) (event : Text) :
    (window.record sample).occurrences event =
      window.occurrences event + (window.eventsOf sample).count event :=
  Series.value_counted _ _ _

theorem count_eventsOf (named : sample.searchType = searchType.name) :
    (window.eventsOf sample).count totalEvent = 1 ∧
      (∀ other : SearchType, (window.eventsOf sample).count (typeEvent other.name) =
        if searchType = other then 1 else 0) ∧
      (window.eventsOf sample).count cacheHitEvent = if sample.cached then 1 else 0 := by
  unfold eventsOf
  rw [named]
  refine ⟨?_, fun other => ?_, ?_⟩
  · cases searchType <;> split <;> split <;> split <;> decide
  · cases searchType <;> cases other <;> split <;> split <;> split <;> decide
  · cases searchType <;> split <;> split <;> split <;> decide

theorem latest_record {size : Nat} (limited : window.size = some size) :
    (window.record sample).latest = (sample :: window.latest).take size := by
  rw [record, limited]

theorem statistics_tells (ok : window.statistics = .ok told) :
    (window.latest = [] → told = none) ∧ (window.latest ≠ [] → ∃ statistics,
      told = some statistics ∧ statistics.totalSearches = window.occurrences totalEvent ∧
      statistics.booleanSearches =
        window.occurrences (typeEvent SearchType.boolean.name) ∧
      statistics.fastSearches = window.occurrences (typeEvent SearchType.fast.name)) := by
  have sorted := SearchSample.sort_perm window.latest.reverse
  unfold statistics at ok
  dsimp only at ok
  split at ok
  next none =>
    have empty : window.latest = [] := by
      rw [List.getLast?_eq_none_iff] at none
      rw [none] at sorted
      exact List.reverse_eq_nil_iff.mp sorted.nil_eq.symm
    cases ok
    exact ⟨fun _ => rfl, fun some => absurd empty some⟩
  next slowest last =>
    have some : window.latest ≠ [] := fun empty => by
      rw [empty, List.reverse_nil] at sorted last
      rw [sorted.eq_nil] at last
      cases last
    refine ⟨fun empty => absurd empty some, fun _ => ?_⟩
    obtain ⟨sum, _, ok⟩ := Outcome.bind_eq_ok.mp ok
    obtain ⟨mean, _, ok⟩ := Outcome.bind_eq_ok.mp ok
    obtain ⟨results, _, ok⟩ := Outcome.bind_eq_ok.mp ok
    cases ok
    exact ⟨_, rfl, rfl, rfl, rfl⟩

/-- Whether a sample was taken of a search: it took floating-point time, and listed a natural number
of documents, which is not beyond all measure. -/
def Moderate (sample : SearchSample) : Prop :=
  (∃ x, sample.latency = .real x) ∧ ∃ n : Nat, sample.resultCount = n ∧ n ≤ 2 ^ 128

theorem latencies_add {latencies : List Value.Quantity}
    (real : ∀ latency ∈ latencies, ∃ x, latency = .real x) (some : latencies ≠ []) :
    ∃ x, latencies.foldlM Value.Quantity.add (.whole 0) = .ok (.real x) := by
  have further (others : List Value.Quantity) (real : ∀ latency ∈ others, ∃ x, latency = .real x)
      (x : Binary64) : ∃ y, others.foldlM Value.Quantity.add (.real x) = .ok (.real y) := by
    induction others generalizing x with
    | nil => exact ⟨x, rfl⟩
    | cons first others ih =>
      obtain ⟨⟨y, rfl⟩, rest⟩ := List.forall_mem_cons.mp real
      exact ih rest (x + y)
  obtain ⟨first, others, rfl⟩ := List.exists_cons_of_ne_nil some
  obtain ⟨⟨x, rfl⟩, rest⟩ := List.forall_mem_cons.mp real
  obtain ⟨y, sum⟩ := further others rest (.zero + x)
  refine ⟨y, ?_⟩
  have zero : (Value.Quantity.whole 0).toReal = .ok .zero :=
    (by decide +kernel : Binary64.ofInt? 0 = .ok .zero)
  rw [List.foldlM_cons, Value.Quantity.add_real zero]
  exact sum

theorem counts_add {counts : List Int}
    (moderate : ∀ count ∈ counts, ∃ n : Nat, count = n ∧ n ≤ 2 ^ 128) :
    ∃ n : Nat, counts.foldr (· + ·) 0 = (n : Int) ∧ n ≤ 2 ^ 128 * counts.length := by
  induction counts with
  | nil => exact ⟨0, rfl, Nat.zero_le _⟩
  | cons first counts ih =>
    obtain ⟨⟨m, rfl, small⟩, rest⟩ := List.forall_mem_cons.mp moderate
    obtain ⟨n, sum, most⟩ := ih rest
    refine ⟨m + n, by rw [List.foldr_cons, sum, Int.natCast_add], ?_⟩
    rw [List.length_cons, Nat.mul_succ]
    omega

theorem mean_of_moderate {n count : Nat} (positive : 0 < count) (most : n ≤ 2 ^ 128 * count) :
    ∃ x, (Value.Quantity.whole n).dividedBy count = .ok x := by
  have representable := Binary64.representable_credits Nat.one_le_two_pow
  rw [Nat.one_mul] at representable
  have below : n * Binary64.unit ≤ Binary64.creditBound * count :=
    calc n * Binary64.unit ≤ 2 ^ 128 * count * Binary64.unit := Nat.mul_le_mul_right _ most
      _ = 2 ^ 128 * Binary64.unit * count := Nat.mul_right_comm ..
      _ = Binary64.creditBound * count := congrArg (· * count) Binary64.creditBound_eq
  obtain ⟨finite, _⟩ := Binary64.nearest_of_le (decide ((n : Int) < 0)) positive representable below
  rw [Value.Quantity.dividedBy, Int.natAbs_natCast, finite]
  exact ⟨_, rfl⟩

theorem statistics_ok (moderate : ∀ sample ∈ window.latest, Moderate sample) :
    ∃ told, window.statistics = .ok told := by
  have sorted := SearchSample.sort_perm window.latest.reverse
  unfold statistics
  dsimp only
  split
  next => exact ⟨none, rfl⟩
  next slowest last =>
    have nonempty : SearchSample.sort window.latest.reverse ≠ [] := fun empty => by
      rw [empty] at last
      cases last
    have positive : 0 < window.latest.reverse.length :=
      sorted.length_eq ▸ List.length_pos_iff.mpr nonempty
    have real : ∀ latency ∈ (SearchSample.sort window.latest.reverse).map (·.latency),
        ∃ x, latency = .real x := by
      intro latency member
      obtain ⟨sample, among, rfl⟩ := List.mem_map.mp member
      exact (moderate sample (List.mem_reverse.mp (sorted.mem_iff.mp among))).1
    have few : ∀ count ∈ window.latest.reverse.map (·.resultCount),
        ∃ n : Nat, count = (n : Int) ∧ n ≤ 2 ^ 128 := by
      intro count member
      obtain ⟨sample, among, rfl⟩ := List.mem_map.mp member
      exact (moderate sample (List.mem_reverse.mp among)).2
    obtain ⟨x, latencies⟩ := latencies_add real (by simpa using nonempty)
    obtain ⟨n, counts, most⟩ := counts_add few
    rw [List.length_map] at most
    obtain ⟨mean, results⟩ := mean_of_moderate positive most
    refine ⟨_, Outcome.bind_eq_ok.mpr ⟨_, latencies, Outcome.bind_eq_ok.mpr ⟨_, rfl,
      Outcome.bind_eq_ok.mpr ⟨mean, ?_, rfl⟩⟩⟩⟩
    rw [counts]
    exact results

end SearchWindow
end Concordance
