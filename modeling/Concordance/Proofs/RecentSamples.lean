import Concordance.Proofs.InsertionOrder
import Concordance.Proofs.IntegerRounding
import Concordance.Proofs.WindowStatistics
import Mathlib.Data.List.DropRight
import Mathlib.Data.List.Induction

/-! A window over any course of searches and resets. It holds the latest samples, as many as it
keeps, and the counts of all since the last reset, and the statistics mix both: latencies and
results are told of the samples that are held, rates of all that were counted. The percentile is
looked up at a rounded place, which is among the samples for each count of them. -/
namespace Concordance
namespace Binary64
variable {num den count : Nat}

theorem floor_nearest_lt (some : 0 < count)
    (below : rounded num den < bound → rounded num den < count * unit) :
    ((nearest false num den).floor?.getD 0).toNat < count := by
  rw [nearest_eq]
  by_cases finite : rounded num den < bound
  · have quotient := Nat.div_lt_of_lt_mul (Nat.mul_comm count unit ▸ below finite)
    rw [if_pos finite, floor?, signed, if_neg Bool.false_ne_true, Option.getD_some,
      Int.fdiv_eq_ediv_of_nonneg _ (Int.natCast_nonneg unit)]
    exact quotient
  · rw [if_neg finite]
    exact some

end Binary64

namespace SearchWindow
open Binary64

theorem percentile_eq : ∃ share, Binary64.ofRatio 95 100 = .finite false share ∧
    unit ≤ 2 * share ∧ 32 * share ≤ 31 * unit :=
  ⟨rounded (95 * unit) 100, by decide +kernel, by decide +kernel, by decide +kernel⟩

/-- The place of the percentile is among the samples: the product with 0.95 is rounded twice, and
two errors of one part in 2^53 do not make up for the difference to the whole. -/
theorem percentileIndex_lt {count : Nat} (some : 0 < count) : percentileIndex count < count := by
  obtain ⟨share, shareOf, half, most⟩ := percentile_eq
  have normal : 2 ^ 52 ≤ count * unit / 1 := by
    rw [Nat.div_one]
    exact (by decide +kernel : 2 ^ 52 ≤ unit).trans (Nat.le_mul_of_pos_left _ some)
  have least : unit ≤ rounded (count * unit) 1 := unit_le_quantaOf some
  obtain ⟨-, first⟩ := rounded_error Nat.one_pos normal
  rw [Nat.mul_one] at first
  rw [percentileIndex, shareOf, Binary64.ofNat, nearest_eq]
  by_cases finite : rounded (count * unit) 1 < bound
  · rw [if_pos finite]
    generalize rounded (count * unit) 1 = q at least first
    have product : Binary64.finite false q * .finite false share =
      nearest false (q * share) unit := mul_finite q share
    rw [product]
    refine floor_nearest_lt some fun _ => ?_
    have wide : 2 ^ 52 ≤ q * share / unit :=
      calc 2 ^ 52 ≤ share := Nat.le_of_mul_le_mul_left
            ((by decide +kernel : 2 * 2 ^ 52 ≤ unit).trans half) Nat.two_pos
        _ = unit * share / unit := (Nat.mul_div_cancel_left share unit_pos).symm
        _ ≤ q * share / unit := Nat.div_le_div_right (Nat.mul_le_mul_right share least)
    obtain ⟨-, second⟩ := rounded_error unit_pos wide
    generalize rounded (q * share) unit = r at second ⊢
    have bounded : 2 ^ 111 * r * unit ≤ (2 ^ 53 + 1) ^ 2 * 31 * (count * unit) * unit :=
      calc 2 ^ 111 * r * unit = 2 ^ 58 * (2 ^ 53 * (r * unit)) := by ring
        _ ≤ 2 ^ 58 * ((2 ^ 53 + 1) * (q * share)) := Nat.mul_le_mul_left _ second
        _ = (2 ^ 53 + 1) * (2 ^ 53 * q) * (32 * share) := by ring
        _ ≤ (2 ^ 53 + 1) * ((2 ^ 53 + 1) * (count * unit)) * (31 * unit) :=
          Nat.mul_le_mul (Nat.mul_le_mul_left _ first) most
        _ = (2 ^ 53 + 1) ^ 2 * 31 * (count * unit) * unit := by ring
    have bounded := Nat.le_of_mul_le_mul_right bounded unit_pos
    have positive : 0 < count * unit := Nat.mul_pos some unit_pos
    omega
  · rw [if_neg finite]
    have endless : (Binary64.infinite false * .finite false share).floor? = none := by
      change (if share = 0 then nan else Binary64.infinite false).floor? = none
      split <;> rfl
    rw [endless]
    exact some

end SearchWindow

namespace SearchSample
variable {samples : List SearchSample} {sample : SearchSample}

def took (sample : SearchSample) : Binary64 :=
  match sample.latency with
  | .real x => x
  | .whole n => .ofInt n

/-- Whether a sample was taken of a search: it took a finite time, told as a floating-point number,
and listed a number of documents that is precise as one. -/
structure Timed (sample : SearchSample) : Prop where
  latency : ∃ negative quanta, sample.latency = .real (.finite negative quanta)
  untruth : sample.isTruth = false
  listed : 0 ≤ sample.resultCount
  precise : sample.resultCount < 2 ^ 53

def tookQuanta (sample : SearchSample) : Int :=
  match sample.took with
  | .finite negative quanta => Binary64.signed negative quanta
  | _ => 0

namespace Timed

theorem latency_eq (timed : sample.Timed) : sample.latency = .real sample.took := by
  obtain ⟨negative, quanta, latency⟩ := timed.latency
  rw [took, latency]

theorem shownLatency_eq (timed : sample.Timed) : sample.shownLatency = .real sample.took := by
  rw [shownLatency, timed.untruth, timed.latency_eq]
  rfl

theorem lt_eq {other : SearchSample} (timed : sample.Timed) (others : other.Timed) :
    sample.latency.lt other.latency = decide (sample.tookQuanta < other.tookQuanta) := by
  obtain ⟨_, _, first⟩ := timed.latency
  obtain ⟨_, _, second⟩ := others.latency
  rw [tookQuanta, tookQuanta, took, took, first, second]
  rfl

theorem not_lt_eq {other : SearchSample} (timed : sample.Timed) (others : other.Timed) :
    (!other.latency.lt sample.latency) = decide (sample.tookQuanta ≤ other.tookQuanta) := by
  rw [others.lt_eq timed, ← decide_not]
  simp only [Int.not_lt]

theorem le_iff {other : SearchSample} (timed : sample.Timed) (others : other.Timed) :
    sample.took.le other.took = true ↔ sample.tookQuanta ≤ other.tookQuanta := by
  obtain ⟨_, _, first⟩ := timed.latency
  obtain ⟨_, _, second⟩ := others.latency
  rw [tookQuanta, tookQuanta, took, took, first, second]
  simp only [Binary64.le, Binary64.lt, Binary64.eq, Bool.or_eq_true, decide_eq_true_iff, beq_iff_eq]
  exact le_iff_lt_or_eq.symm

end Timed

theorem sort_ascending (timed : ∀ sample ∈ samples, sample.Timed) :
    ((sort samples).map took).Pairwise fun x y => x.le y = true := by
  have among : ∀ sample ∈ sort samples, sample.Timed := fun sample member =>
    timed sample ((sort_perm samples).mem_iff.mp member)
  have ascending : (sort samples).Pairwise fun a b => a.tookQuanta ≤ b.tookQuanta := by
    unfold sort
    split
    · exact Insertion.ascending_sort fun a left b right => (timed a left).lt_eq (timed b right)
    · refine List.pairwise_map.mp ?_
      rw [List.map_mergeSort (s := fun m n => decide (m ≤ n))
        fun a left b right => (timed a left).not_lt_eq (timed b right)]
      refine (List.pairwise_mergeSort ?_ ?_ _).imp of_decide_eq_true
      · simp only [decide_eq_true_iff]
        exact fun a b c => le_trans
      · simp only [Bool.or_eq_true, decide_eq_true_iff]
        exact le_total
  exact List.pairwise_map.mpr <| ascending.imp_of_mem fun left right le =>
    ((among _ left).le_iff (among _ right)).mpr le

end SearchSample

namespace SearchWindow
variable {window : SearchWindow} {size : Nat} {threshold : Value.Quantity}
  {sample : SearchSample} {samples : List SearchSample}

inductive Action where
  | record (sample : SearchSample)
  | reset

def Action.sample? : Action → Option SearchSample
  | .record sample => some sample
  | .reset => none

def act (window : SearchWindow) : Action → SearchWindow
  | .record sample => window.record sample
  | .reset => window.reset

def after (size : Nat) (threshold : Value.Quantity) (actions : List Action) : SearchWindow :=
  actions.foldl act { size := some size, slowThreshold := threshold }

def sinceReset (actions : List Action) : List SearchSample :=
  (actions.rtakeWhile (·.sample?.isSome)).filterMap Action.sample?

theorem sinceReset_record (actions : List Action) (sample : SearchSample) :
    sinceReset (actions ++ [.record sample]) = sinceReset actions ++ [sample] := by
  rw [sinceReset, List.rtakeWhile_concat_pos _ _ _ rfl, List.filterMap_append]
  rfl

theorem sinceReset_reset (actions : List Action) : sinceReset (actions ++ [.reset]) = [] := by
  rw [sinceReset, List.rtakeWhile_concat_neg _ _ _ Bool.false_ne_true]
  rfl

/-- Whether a window holds what there is to know of the samples since the last reset: the latest
ones, and how often each event has occurred in all of them. -/
structure Remembers (window : SearchWindow) (size : Nat) (threshold : Value.Quantity)
    (samples : List SearchSample) : Prop where
  limited : window.size = some size
  compared : window.slowThreshold = threshold
  latest : window.latest = samples.reverse.take size
  occurrences : ∀ event, window.occurrences event = (samples.flatMap window.eventsOf).count event

theorem Remembers.record (remembers : window.Remembers size threshold samples)
    (sample : SearchSample) :
    (window.record sample).Remembers size threshold (samples ++ [sample]) where
  limited := remembers.limited
  compared := remembers.compared
  latest := by
    rw [latest_record remembers.limited, remembers.latest, List.reverse_concat]
    cases size with
    | zero => rfl
    | succ n =>
      rw [List.take_succ_cons, List.take_succ_cons, List.take_take, Nat.min_eq_left (Nat.le_succ n)]
  occurrences event := by
    have same : (window.record sample).eventsOf = window.eventsOf := rfl
    rw [occurrences_record, remembers.occurrences, same, List.flatMap_append, List.count_append,
      List.flatMap_singleton]

theorem Remembers.reset (remembers : window.Remembers size threshold samples) :
    window.reset.Remembers size threshold [] where
  limited := remembers.limited
  compared := remembers.compared
  latest := by rw [List.reverse_nil, List.take_nil]; rfl
  occurrences _ := rfl

theorem remembers_after (size : Nat) (threshold : Value.Quantity) (actions : List Action) :
    (after size threshold actions).Remembers size threshold (sinceReset actions) := by
  induction actions using List.reverseRecOn with
  | nil => exact ⟨rfl, rfl, List.take_nil.symm, fun _ => rfl⟩
  | append_singleton actions action ih =>
    rw [after, List.foldl_concat]
    cases action with
    | record sample =>
      rw [sinceReset_record]
      exact ih.record sample
    | reset =>
      rw [sinceReset_reset]
      exact ih.reset

theorem Remembers.kept (remembers : window.Remembers size threshold samples) :
    window.latest.reverse = samples.rtake size := by
  rw [remembers.latest, List.rtake_eq_reverse_take_reverse]

def ofType (searchType : Text) (sample : SearchSample) : Bool := sample.searchType == searchType

def isSlow (threshold : Value.Quantity) (sample : SearchSample) : Bool :=
  threshold.lt sample.latency

def isEmpty (sample : SearchSample) : Bool := sample.resultCount == 0

theorem typeEvent_eq_iff {searchType other : Text} :
    typeEvent searchType = typeEvent other ↔ searchType = other :=
  List.append_left_inj _

theorem typeEvent_ne {event : Text} (other : ¬"_searches".toList <:+ event) (searchType : Text) :
    typeEvent searchType ≠ event :=
  fun same => other (same ▸ List.suffix_append _ _)

theorem count_if (condition : Prop) [Decidable condition] (first event : Text) :
    (if condition then [first] else []).count event =
      if condition ∧ first = event then 1 else 0 := by
  by_cases holds : condition
  · simp [holds, List.count_singleton]
  · simp [holds]

theorem count_eventsOf_eq (window : SearchWindow) (sample : SearchSample) (event : Text) :
    (window.eventsOf sample).count event =
      (if typeEvent sample.searchType = event then 1 else 0) +
        (if totalEvent = event then 1 else 0) +
        (if sample.cached ∧ cacheHitEvent = event then 1 else 0) +
        (if isSlow window.slowThreshold sample ∧ slowEvent = event then 1 else 0) +
        (if isEmpty sample ∧ emptyEvent = event then 1 else 0) := by
  have empty : sample.resultCount = 0 ↔ isEmpty sample := beq_iff_eq.symm
  unfold eventsOf
  rw [List.count_append, List.count_append, List.count_append, count_if, count_if, count_if,
    List.count_cons, List.count_singleton]
  simp only [beq_iff_eq, empty]
  rfl

theorem totalEvent_eq : totalEvent = typeEvent "total".toList := by decide

theorem slowEvent_eq : slowEvent = typeEvent "slow".toList := by decide

theorem count_total (window : SearchWindow) (sample : SearchSample) :
    (window.eventsOf sample).count totalEvent =
      1 + if ofType "total".toList sample then 1 else 0 := by
  have apart : cacheHitEvent ≠ totalEvent ∧ slowEvent ≠ totalEvent ∧ emptyEvent ≠ totalEvent := by
    decide
  have type : typeEvent sample.searchType = totalEvent ↔ ofType "total".toList sample := by
    rw [totalEvent_eq, typeEvent_eq_iff, ofType, beq_iff_eq]
  simp [count_eventsOf_eq, apart, type, Nat.add_comm]

theorem count_slow (window : SearchWindow) (sample : SearchSample) :
    (window.eventsOf sample).count slowEvent =
      (if isSlow window.slowThreshold sample then 1 else 0) +
        if ofType "slow".toList sample then 1 else 0 := by
  have apart : totalEvent ≠ slowEvent ∧ cacheHitEvent ≠ slowEvent ∧ emptyEvent ≠ slowEvent := by
    decide
  have type : typeEvent sample.searchType = slowEvent ↔ ofType "slow".toList sample := by
    rw [slowEvent_eq, typeEvent_eq_iff, ofType, beq_iff_eq]
  simp [count_eventsOf_eq, apart, type, Nat.add_comm]

theorem count_cacheHit (window : SearchWindow) (sample : SearchSample) :
    (window.eventsOf sample).count cacheHitEvent = if sample.cached then 1 else 0 := by
  have apart : totalEvent ≠ cacheHitEvent ∧ slowEvent ≠ cacheHitEvent ∧
    emptyEvent ≠ cacheHitEvent := by decide
  have type := typeEvent_ne (by decide : ¬"_searches".toList <:+ cacheHitEvent) sample.searchType
  simp [count_eventsOf_eq, apart, type]

theorem count_empty (window : SearchWindow) (sample : SearchSample) :
    (window.eventsOf sample).count emptyEvent = if isEmpty sample then 1 else 0 := by
  have apart : totalEvent ≠ emptyEvent ∧ cacheHitEvent ≠ emptyEvent ∧ slowEvent ≠ emptyEvent := by
    decide
  have type := typeEvent_ne (by decide : ¬"_searches".toList <:+ emptyEvent) sample.searchType
  simp [count_eventsOf_eq, apart, type]

theorem count_flatMap {events : SearchSample → List Text} {event : Text}
    {p q : SearchSample → Bool} (each : ∀ sample, (events sample).count event =
      (if p sample then 1 else 0) + if q sample then 1 else 0) (samples : List SearchSample) :
    (samples.flatMap events).count event = samples.countP p + samples.countP q := by
  induction samples with
  | nil => rfl
  | cons sample samples ih =>
    rw [List.flatMap_cons, List.count_append, each, ih, List.countP_cons, List.countP_cons]
    omega

namespace Remembers

theorem total (remembers : window.Remembers size threshold samples) :
    window.occurrences totalEvent = samples.length + samples.countP (ofType "total".toList) := by
  rw [remembers.occurrences, count_flatMap (p := fun _ => true) (count_total window),
    List.countP_true]

theorem slow (remembers : window.Remembers size threshold samples) :
    window.occurrences slowEvent =
      samples.countP (isSlow threshold) + samples.countP (ofType "slow".toList) := by
  rw [remembers.occurrences, count_flatMap (count_slow window), remembers.compared]

theorem cacheHits (remembers : window.Remembers size threshold samples) :
    window.occurrences cacheHitEvent = samples.countP (·.cached) := by
  rw [remembers.occurrences, count_flatMap (q := fun _ => false) (count_cacheHit window),
    List.countP_false]
  rfl

theorem empty (remembers : window.Remembers size threshold samples) :
    window.occurrences emptyEvent = samples.countP isEmpty := by
  rw [remembers.occurrences, count_flatMap (q := fun _ => false) (count_empty window),
    List.countP_false]
  rfl

end Remembers

theorem latencies_sum (timed : ∀ sample ∈ samples, sample.Timed) (some : samples ≠ []) :
    (samples.map (·.latency)).foldlM Value.Quantity.add (.whole 0) =
      .ok (.real ((samples.map SearchSample.took).foldl (· + ·) .zero)) := by
  have further (others : List SearchSample) (timed : ∀ sample ∈ others, sample.Timed)
      (x : Binary64) : (others.map (·.latency)).foldlM Value.Quantity.add (.real x) =
        .ok (.real ((others.map SearchSample.took).foldl (· + ·) x)) := by
    induction others generalizing x with
    | nil => rfl
    | cons first others ih =>
      obtain ⟨one, rest⟩ := List.forall_mem_cons.mp timed
      rw [List.map_cons, List.foldlM_cons, one.latency_eq]
      exact ih rest (x + first.took)
  obtain ⟨first, others, rfl⟩ := List.exists_cons_of_ne_nil some
  obtain ⟨one, rest⟩ := List.forall_mem_cons.mp timed
  have zero : (Value.Quantity.whole 0).toReal = .ok .zero :=
    (by decide +kernel : Binary64.ofInt? 0 = .ok .zero)
  rw [List.map_cons, List.foldlM_cons, one.latency_eq, Value.Quantity.add_real zero]
  exact further others rest (.zero + first.took)

theorem moderate_of_timed (timed : sample.Timed) : Moderate sample := by
  refine ⟨⟨_, timed.latency_eq⟩, sample.resultCount.toNat,
    (Int.toNat_of_nonneg timed.listed).symm, ?_⟩
  have := timed.precise
  omega

theorem eq_of_quotientInRange {x y : Binary64}
    (ok : Value.Quantity.quotientInRange x = .ok y) : y = x := by
  unfold Value.Quantity.quotientInRange at ok
  split at ok
  · cases ok
  · exact (Except.ok.inj ok).symm

theorem results_mean (timed : ∀ sample ∈ samples, sample.Timed) (some : samples ≠ []) :
    (Value.Quantity.whole ((samples.map SearchSample.resultCount).foldr (· + ·) 0)).dividedBy
        samples.length =
      .ok (.ofRatio (samples.map SearchSample.resultCount).sum.toNat samples.length) := by
  have few : ∀ count ∈ samples.map SearchSample.resultCount,
      ∃ n : Nat, count = (n : Int) ∧ n ≤ 2 ^ 128 := by
    intro count member
    obtain ⟨sample, among, rfl⟩ := List.mem_map.mp member
    exact (moderate_of_timed (timed sample among)).2
  obtain ⟨n, sum, most⟩ := counts_add few
  rw [List.length_map] at most
  obtain ⟨mean, ok⟩ := mean_of_moderate (List.length_pos_iff.mpr some) most
  have natural : decide ((n : Int) < 0) = false := decide_eq_false (by omega)
  rw [List.sum_eq_foldr, sum, Int.toNat_natCast, ok]
  rw [Value.Quantity.dividedBy, natural, Int.natAbs_natCast] at ok
  rw [eq_of_quotientInRange ok, Binary64.ofRatio]

/-- What statistics tell of the latencies and the results of the samples in a window. -/
structure Figures (s : SearchStatistics) (kept : List SearchSample) : Prop where
  count : s.count = kept.length
  inRange : percentileIndex kept.length < kept.length
  sorted : ∃ times : List Binary64, times.Perm (kept.map SearchSample.took) ∧
    times.Pairwise (fun x y => x.le y = true) ∧
    (times[percentileIndex kept.length]?).map .real = some s.latency95 ∧
    times.getLast?.map .real = some s.maxLatency ∧
    s.meanLatency = times.foldl (· + ·) .zero / .ofNat kept.length
  results : s.meanResults = .ofRatio (kept.map SearchSample.resultCount).sum.toNat kept.length

theorem shown_at (timed : ∀ sample ∈ samples, sample.Timed) {i : Nat} (short : i < samples.length)
    (other : SearchSample) : ((samples.map SearchSample.took)[i]?).map .real =
      some (samples[i]?.getD other).shownLatency := by
  rw [List.getElem?_map, List.getElem?_eq_getElem short, Option.getD_some,
    (timed _ (List.getElem_mem short)).shownLatency_eq, Option.map_some, Option.map_some]

theorem shown_last (timed : ∀ sample ∈ samples, sample.Timed) (present : samples ≠ []) :
    (samples.map SearchSample.took).getLast?.map .real =
      some (samples.getLast present).shownLatency := by
  rw [List.getLast?_map, List.getLast?_eq_some_getLast present,
    (timed _ (List.getLast_mem present)).shownLatency_eq, Option.map_some, Option.map_some]

theorem statistics_of_timed {kept : List SearchSample} (held : window.latest.reverse = kept)
    (timed : ∀ sample ∈ kept, sample.Timed) (some : kept ≠ []) :
    ∃ s, window.statistics = .ok (.some s) ∧ Figures s kept ∧
      s.totalSearches = window.occurrences totalEvent ∧ s.emptyRate = window.rate emptyEvent ∧
      s.cacheHitRate = window.rate cacheHitEvent ∧ s.slowRate = window.rate slowEvent := by
  have sorted := SearchSample.sort_perm kept
  have ascending := SearchSample.sort_ascending timed
  have among : ∀ sample ∈ SearchSample.sort kept, sample.Timed := fun sample member =>
    timed sample (sorted.mem_iff.mp member)
  have nonempty := List.length_pos_iff.mpr some
  have inRange := percentileIndex_lt nonempty
  have short := inRange.trans_eq sorted.length_eq.symm
  have present := List.ne_nil_of_length_pos (nonempty.trans_eq sorted.length_eq.symm)
  have times := latencies_sum among present
  have results := results_mean timed some
  have rank := shown_at among short ((SearchSample.sort kept).getLast present)
  have slowest := shown_last among present
  unfold statistics
  dsimp only
  rw [held, List.getLast?_eq_some_getLast present]
  dsimp only
  refine ⟨_, Outcome.bind_eq_ok.mpr ⟨_, times, Outcome.bind_eq_ok.mpr ⟨_, rfl,
    Outcome.bind_eq_ok.mpr ⟨_, results, rfl⟩⟩⟩, ?_⟩
  refine ⟨⟨rfl, inRange, ⟨_, sorted.map _, ascending, rank, slowest, rfl⟩, ?_⟩, ?_, ?_, ?_, ?_⟩ <;>
    dsimp only

theorem Figures.greatest {s : SearchStatistics} {kept : List SearchSample}
    (figures : Figures s kept) (timed : ∀ sample ∈ kept, sample.Timed) (some : kept ≠ []) :
    ∃ x ∈ kept.map SearchSample.took, s.maxLatency = .real x ∧
      ∀ y ∈ kept.map SearchSample.took, y.le x = true := by
  obtain ⟨times, perm, ascending, -, last, -⟩ := figures.sorted
  have present : times ≠ [] := fun empty => some (by
    rw [empty] at perm
    exact List.map_eq_nil_iff.mp perm.nil_eq.symm)
  have among := perm.mem_iff.mp (List.getLast_mem present)
  rw [List.getLast?_eq_some_getLast present, Option.map_some, Option.some_inj] at last
  refine ⟨times.getLast present, among, last.symm, fun y member => ?_⟩
  refine ascending.rel_getLast_of_rel_getLast_getLast (perm.mem_iff.mpr member) ?_
  obtain ⟨sample, kept, same⟩ := List.mem_map.mp among
  rw [← same]
  exact ((timed sample kept).le_iff (timed sample kept)).mpr (le_refl _)

def slowCount (threshold : Value.Quantity) (samples : List SearchSample) : Nat :=
  samples.countP (isSlow threshold) + samples.countP (ofType "slow".toList)

/-- What statistics tell of all samples since the last reset. A type may have the name of the
searches in total. -/
structure Rates (s : SearchStatistics) (threshold : Value.Quantity)
    (samples : List SearchSample) : Prop where
  total : s.totalSearches = samples.length + samples.countP (ofType "total".toList)
  empty : s.emptyRate = .ofRatio (samples.countP isEmpty) s.totalSearches
  cacheHits : s.cacheHitRate = .ofRatio (samples.countP (·.cached)) s.totalSearches
  slow : s.slowRate = .ofRatio (slowCount threshold samples) s.totalSearches

theorem Remembers.rates (remembers : window.Remembers size threshold samples)
    {s : SearchStatistics} (total : s.totalSearches = window.occurrences totalEvent)
    (empty : s.emptyRate = window.rate emptyEvent)
    (cacheHits : s.cacheHitRate = window.rate cacheHitEvent)
    (slow : s.slowRate = window.rate slowEvent) : Rates s threshold samples where
  total := total.trans remembers.total
  empty := by rw [empty, rate, remembers.empty, total]
  cacheHits := by rw [cacheHits, rate, remembers.cacheHits, total]
  slow := by rw [slow, rate, remembers.slow, total, slowCount]

def Unreserved (samples : List SearchSample) : Prop :=
  ∀ sample ∈ samples, sample.searchType ≠ "total".toList ∧ sample.searchType ≠ "slow".toList

theorem Unreserved.countP_ofType (unreserved : Unreserved samples) :
    samples.countP (ofType "total".toList) = 0 ∧ samples.countP (ofType "slow".toList) = 0 := by
  simp only [List.countP_eq_zero, ofType, beq_iff_eq]
  exact ⟨fun sample member => (unreserved sample member).1,
    fun sample member => (unreserved sample member).2⟩

/-- Whatever is recorded in a window and whenever it is reset, the statistics can be told, and there
are none exactly if the window keeps no sample. The figures of latencies and results are those of
the latest samples, as many as the window keeps; the rates are those of all samples since the last
reset. Unless a type has the name of the searches in total or of the slow ones, all of these are the
searches in total, and no rate counts more. -/
theorem statistics_of_recent_samples (size : Nat) (threshold : Value.Quantity)
    (actions : List Action) (timed : ∀ sample ∈ sinceReset actions, sample.Timed) :
    ∃ told, (after size threshold actions).statistics = .ok told ∧
      (told = none ↔ min size (sinceReset actions).length = 0) ∧
      ∀ s ∈ told,
        s.count = min size (sinceReset actions).length ∧
        Figures s ((sinceReset actions).rtake size) ∧
        (∃ x ∈ ((sinceReset actions).rtake size).map SearchSample.took, s.maxLatency = .real x ∧
          ∀ y ∈ ((sinceReset actions).rtake size).map SearchSample.took, y.le x = true) ∧
        Rates s threshold (sinceReset actions) ∧
        (Unreserved (sinceReset actions) → s.totalSearches = (sinceReset actions).length ∧
          (sinceReset actions).countP isEmpty ≤ (sinceReset actions).length ∧
          (sinceReset actions).countP (·.cached) ≤ (sinceReset actions).length ∧
          slowCount threshold (sinceReset actions) ≤ (sinceReset actions).length) := by
  have remembers := remembers_after size threshold actions
  have held := remembers.kept
  generalize sinceReset actions = samples at timed remembers held ⊢
  generalize after size threshold actions = window at remembers held ⊢
  have length : (samples.rtake size).length = min size samples.length := by
    rw [List.rtake_eq_reverse_take_reverse, List.length_reverse, List.length_take,
      List.length_reverse]
  by_cases empty : samples.rtake size = []
  · have nothing : window.statistics = .ok none := by
      unfold statistics
      rw [held, empty]
      rfl
    refine ⟨none, nothing, iff_of_true rfl ?_, fun s told => nomatch told⟩
    rw [← length, empty, List.length_nil]
  · have kept : ∀ sample ∈ samples.rtake size, sample.Timed := fun sample member =>
      timed sample (List.mem_of_mem_drop member)
    obtain ⟨s, ok, figures, total, none, hits, slow⟩ := statistics_of_timed held kept empty
    have rates := remembers.rates total none hits slow
    refine ⟨some s, ok, iff_of_false (Option.some_ne_none s) ?_, fun s same => ?_⟩
    · rw [← length]
      exact fun zero => empty (List.eq_nil_of_length_eq_zero zero)
    · cases same
      refine ⟨figures.count.trans length, figures, figures.greatest kept empty, rates,
        fun unreserved => ⟨?_, List.countP_le_length, List.countP_le_length, ?_⟩⟩
      · rw [rates.total, unreserved.countP_ofType.1, Nat.add_zero]
      · rw [slowCount, unreserved.countP_ofType.2, Nat.add_zero]
        exact List.countP_le_length

def sampleTaking (milliseconds : Nat) (resultCount : Nat) (cached : Bool) (searchType : Text) :
    SearchSample :=
  { latency := .real (.finite false (milliseconds * Binary64.unit)), resultCount, cached,
    searchType }

theorem timed_sampleTaking {milliseconds resultCount : Nat} {cached : Bool} {searchType : Text}
    (few : resultCount < 2 ^ 53) :
    (sampleTaking milliseconds resultCount cached searchType).Timed :=
  ⟨⟨_, _, rfl⟩, rfl, Int.natCast_nonneg resultCount, Int.ofNat_lt.mpr few⟩

def threeSamples : List SearchSample :=
  [sampleTaking 2 0 false "fast".toList, sampleTaking 20 1 false "fast".toList,
   sampleTaking 1 3 true "boolean".toList]

def fourRecords : List Action :=
  [.record (sampleTaking 7 4 true "fast".toList), .reset] ++ threeSamples.map .record

theorem two_of_three_records_kept :
    ∃ s, (after 2 (.real (.ofNat 10)) fourRecords).statistics = .ok (some s) ∧ s.count = 2 ∧
      s.maxLatency = .real (.finite false (20 * Binary64.unit)) ∧ s.totalSearches = 3 ∧
      s.emptyRate = .ofRatio 1 3 ∧ s.cacheHitRate = .ofRatio 1 3 ∧ s.slowRate = .ofRatio 1 3 := by
  have since : sinceReset fourRecords = threeSamples := rfl
  have timed : ∀ sample ∈ sinceReset fourRecords, sample.Timed := by
    simp [since, threeSamples, timed_sampleTaking]
  obtain ⟨told, ok, none, some⟩ :=
    statistics_of_recent_samples 2 (.real (.ofNat 10)) fourRecords timed
  rw [since] at none some
  obtain ⟨s, rfl⟩ := Option.ne_none_iff_exists'.mp (none.not.mpr (by decide))
  obtain ⟨count, -, ⟨x, among, max, greatest⟩, rates, -⟩ := some s rfl
  have total : s.totalSearches = 3 := rates.total.trans (by decide)
  have numerators : threeSamples.countP isEmpty = 1 ∧ threeSamples.countP (·.cached) = 1 ∧
    slowCount (.real (.ofNat 10)) threeSamples = 1 := by decide +kernel
  have latest : (threeSamples.rtake 2).map SearchSample.took =
    [.finite false (20 * Binary64.unit), .finite false (1 * Binary64.unit)] := rfl
  rw [latest] at among greatest
  refine ⟨s, ok, count, ?_, total, ?_, ?_, ?_⟩
  · rcases List.mem_pair.mp among with rfl | rfl
    · exact max
    · exact absurd (greatest _ List.mem_cons_self) (by decide +kernel)
  · rw [rates.empty, total, numerators.1]
  · rw [rates.cacheHits, total, numerators.2.1]
  · rw [rates.slow, total, numerators.2.2]

def totalSample : SearchSample := sampleTaking 1 1 false "total".toList

theorem total_is_not_always_exact :
    ¬∀ size threshold actions s, (∀ sample ∈ sinceReset actions, sample.Timed) →
      (after size threshold actions).statistics = .ok (some s) →
        s.totalSearches = (sinceReset actions).length := by
  intro exact_always
  have since : sinceReset [.record totalSample] = [totalSample] := rfl
  have timed : ∀ sample ∈ sinceReset [.record totalSample], sample.Timed := by
    rw [since, List.forall_mem_singleton]
    exact timed_sampleTaking (by decide)
  have remembers := remembers_after 1 (.real (.ofNat 10)) [.record totalSample]
  obtain ⟨s, ok, -, total, -⟩ := statistics_of_timed remembers.kept
    (fun sample member => timed sample (List.mem_of_mem_drop member)) (List.cons_ne_nil _ _)
  have exact := exact_always 1 (.real (.ofNat 10)) _ s timed ok
  rw [total, remembers.total, since] at exact
  exact absurd exact (by decide)

end SearchWindow
end Concordance
