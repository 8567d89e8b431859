import Concordance.Failure
import Concordance.Search.Credit
import Concordance.Series
import Concordance.Statistics.Insertion

/-! Statistics of searches. Latencies and result counts are taken over a window of the latest
searches, rates over all searches since the last reset. -/
namespace Concordance

structure SearchSample where
  latency : Value.Quantity
  isTruth : Bool := false
  resultCount : Int
  cached : Bool
  searchType : Text
deriving Inhabited

structure SearchWindow where
  size : Option Nat
  slowThreshold : Value.Quantity
  latest : List SearchSample := []
  events : Series Text Nat := []
deriving Inhabited

structure SearchStatistics where
  count : Nat
  meanLatency : Binary64
  latency95 : Value
  maxLatency : Value
  meanResults : Binary64
  emptyRate : Binary64
  cacheHitRate : Binary64
  slowRate : Binary64
  totalSearches : Nat
  booleanSearches : Nat
  fastSearches : Nat

namespace Value.Quantity

/-- A sum is an integer as long as both terms are. -/
def add : Quantity → Quantity → Except Failure Quantity
  | whole m, whole n => .ok (whole (m + n))
  | a, b => do
    let x ← a.toReal
    pure (real (x + (← b.toReal)))

def quotientInRange : Binary64 → Except Failure Binary64
  | .infinite _ => .error .quotientTooLarge
  | x => .ok x

/-- The quotient by a count. Integers are divided exactly before rounding. -/
def dividedBy (count : Nat) : Quantity → Except Failure Binary64
  | whole n => quotientInRange (.nearest (n < 0) (n.natAbs * Binary64.unit) count)
  | real x => .ok (x / .ofNat count)

def toValue : Quantity → Value
  | whole n => .int n
  | real x => .real x

end Value.Quantity

namespace SearchSample

def maxInserted : Nat := 63

/-- Samples in ascending order of their latencies. -/
def sort (samples : List SearchSample) : List SearchSample :=
  if samples.length ≤ maxInserted then Insertion.sort (fun a b => a.latency.lt b.latency) samples
  else samples.mergeSort fun a b => !b.latency.lt a.latency

def shownLatency (sample : SearchSample) : Value :=
  if sample.isTruth then .bool (sample.latency.toValue.isTruthy) else sample.latency.toValue

def ofLatency (threshold latency : Value) (resultCount : Int) (cached : Bool) (searchType : Text) :
    Except Failure SearchSample :=
  match latency.quantity?, threshold.quantity? with
  | some quantity, some _ =>
    .ok { latency := quantity, isTruth := latency.isTruth, resultCount, cached, searchType }
  | _, _ => .error (.unordered latency.fullTypeName threshold.fullTypeName)

end SearchSample

namespace SearchWindow

open Value

def ofSize (size : Option Int) (slowThreshold : Quantity) : Except Failure SearchWindow :=
  if size.any (· < 0) then .error .negativeWindow
  else .ok { size := size.map Int.toNat, slowThreshold }

def sizeOf : Value → Except Failure (Option Int)
  | .null => .ok none
  | .bool b => .ok (some (if b then 1 else 0))
  | .int n =>
    if -0x8000000000000000 ≤ n && n < 0x8000000000000000 then .ok (some n)
    else .error .sizeTooLarge
  | _ => .error .integerRequired

def standard : SearchWindow := { size := some 1000, slowThreshold := .real (.ofNat 10) }

def totalEvent : Text := "total_searches".toList
def cacheHitEvent : Text := "cache_hits".toList
def slowEvent : Text := "slow_searches".toList
def emptyEvent : Text := "empty_results".toList
def typeEvent (searchType : Text) : Text := searchType ++ "_searches".toList

def eventsOf (window : SearchWindow) (sample : SearchSample) : List Text :=
  [totalEvent, typeEvent sample.searchType] ++
    (if sample.cached then [cacheHitEvent] else []) ++
    (if window.slowThreshold.lt sample.latency then [slowEvent] else []) ++
    (if sample.resultCount = 0 then [emptyEvent] else [])

def record (window : SearchWindow) (sample : SearchSample) : SearchWindow :=
  let samples := sample :: window.latest
  { window with
    latest := match window.size with
      | none => samples
      | some size => samples.take size
    events := (window.eventsOf sample).foldl
      (fun events event => events.adjust 0 event (· + 1)) window.events }

def reset (window : SearchWindow) : SearchWindow := { window with latest := [], events := [] }

def occurrences (window : SearchWindow) (event : Text) : Nat := Series.value 0 window.events event

def percentileIndex (count : Nat) : Nat :=
  ((Binary64.ofNat count * .ofRatio 95 100).floor?.getD 0).toNat

def rate (window : SearchWindow) (event : Text) : Binary64 :=
  .ofRatio (window.occurrences event) (window.occurrences totalEvent)

def statistics (window : SearchWindow) : Except Failure (Option SearchStatistics) := do
  let samples := window.latest.reverse
  let sorted := SearchSample.sort samples
  match sorted.getLast? with
  | none => pure none
  | some slowest =>
    let sum ← (sorted.map (·.latency)).foldlM Quantity.add (.whole 0)
    let results := Quantity.whole ((samples.map (·.resultCount)).foldr (· + ·) 0)
    pure (some {
      count := samples.length
      meanLatency := ← sum.dividedBy samples.length
      latency95 := (sorted[percentileIndex samples.length]?.getD slowest).shownLatency
      maxLatency := slowest.shownLatency
      meanResults := ← results.dividedBy samples.length
      emptyRate := window.rate emptyEvent
      cacheHitRate := window.rate cacheHitEvent
      slowRate := window.rate slowEvent
      totalSearches := window.occurrences totalEvent
      booleanSearches := window.occurrences (typeEvent "boolean".toList)
      fastSearches := window.occurrences (typeEvent "fast".toList) })

end SearchWindow

def SearchStatistics.toFields (s : SearchStatistics) : Fields :=
  let named (fields : List (String × Value)) : Fields :=
    fields.map fun (name, value) => (name.toList, value)
  named
    [("count", .int s.count),
     ("latency_ms", .map (named
       [("mean", .real s.meanLatency), ("p95", s.latency95), ("max", s.maxLatency)])),
     ("results", .map (named [("mean", .real s.meanResults), ("empty_rate", .real s.emptyRate)])),
     ("cache_hit_rate", .real s.cacheHitRate),
     ("slow_rate", .real s.slowRate),
     ("total_searches", .int s.totalSearches),
     ("boolean_searches", .int s.booleanSearches),
     ("fast_searches", .int s.fastSearches)]

end Concordance
