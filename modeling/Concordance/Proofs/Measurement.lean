import Concordance.Proofs.EngineHistory

/-! Measurements of searches. A telemetry may refuse what it is to take in: it may have no name for
an instrument, or a sum that cannot be formed. That of an engine has names, and its sums stay
numbers because an engine measures in floating-point seconds, so it takes in every search. -/
namespace Concordance

theorem Value.Quantity.add_real {sum : Quantity} {y : Binary64} (known : sum.toReal = .ok y)
    (x : Binary64) : sum.add (.real x) = .ok (.real (y + x)) := by
  cases sum with
  | whole n =>
    rw [add, known]
    · rfl
    · exact fun _ _ _ real => by cases real
  | real z =>
    cases known
    rfl

namespace Distribution
variable {d : Distribution} {series : Series Labels Distribution} {labels : Labels} {x : Binary64}

def Summable (d : Distribution) : Prop := ∃ y, d.sum.toReal = .ok y

def AllSummable (series : Series Labels Distribution) : Prop :=
  ∀ labels, (Series.value {} series labels).Summable

theorem summable_blank : Summable {} :=
  ⟨.zero, (by decide +kernel : Binary64.ofInt? 0 = .ok .zero)⟩

theorem Summable.add (summable : d.Summable) (x : Binary64) : (d.add (.real x)).Summable := by
  obtain ⟨y, known⟩ := summable
  exact ⟨y + x, by rw [Distribution.add, Value.Quantity.add_real known]; rfl⟩

theorem AllSummable.observe (summable : AllSummable series) (labels : Labels) (x : Binary64) :
    AllSummable (Distribution.observe labels (.real x) series) := by
  unfold Distribution.observe
  split
  · intro other
    by_cases same : other = labels
    · rw [same, Series.value_adjust_self]
      exact (summable labels).add x
    · rw [Series.value_adjust_of_ne _ _ _ same]
      exact summable other
  · exact summable

theorem AllSummable.check (summable : AllSummable series) (labels : Labels) (x : Binary64) :
    Distribution.check labels (.real x) series = .ok () := by
  obtain ⟨y, known⟩ := summable labels
  unfold Distribution.check
  split
  · rw [Value.Quantity.add_real known]
    rfl
  · rfl

end Distribution

namespace Telemetry
variable {t : Telemetry}

structure Ready (t : Telemetry) : Prop where
  named : t.namePrefix = "fast_search".toList
  summable : Distribution.AllSummable t.instruments.searchDuration

theorem ready_new : Ready {} := ⟨rfl, fun _ => Distribution.summable_blank⟩

theorem Ready.recordSearch (ready : t.Ready) (engine searchType : Text) (cached : Bool)
    (x : Binary64) : (t.recordSearch engine searchType cached (.real x)).Ready :=
  ⟨ready.named, ready.summable.observe (searchLabels engine searchType) x⟩

theorem Ready.measureSearch (ready : t.Ready) (engine searchType : Text) (cached : Bool)
    (x : Binary64) : t.measureSearch engine searchType cached (.real x) =
      .ok (t.recordSearch engine searchType cached (.real x)) := by
  have known (rest : String) (valid : isInstrumentName ("fast_search".toList ++ rest.toList)) :
      t.checkName rest = .ok () := by
    rw [checkName, instrumentName, ready.named, if_pos valid]
  unfold Telemetry.measureSearch
  rw [known ".search.duration" (by decide), known ".search.count" (by decide)]
  change ((Distribution.check (searchLabels engine searchType) (.real x)
    t.instruments.searchDuration).mapError Obstacle.arithmetic).bind _ = _
  rw [ready.summable.check]
  rfl

end Telemetry

namespace Engine

theorem telemetry_ready (s : Settings) (name : Text) (documents : Value) (began : Binary64)
    (history : List Happening) :
    ((create s name documents began).after history).telemetry.Ready := by
  have takes (ledger : Ledger) (_ : List SearchResponse) (response : SearchResponse)
      (elapsed : Binary64) (ready : ledger.telemetry.Ready) :
      (ledger.take response elapsed).telemetry.Ready := by
    unfold Ledger.take
    split
    · exact ready.recordSearch ..
    · exact ready
  obtain ⟨ledger, keeps, ready⟩ := after_keeps (fun ledger _ => ledger.telemetry.Ready) takes
    (keeps_create s name documents began) Telemetry.ready_new history
  rw [← keeps.ledger] at ready
  exact ⟨ready.named, ready.summable⟩

end Engine
end Concordance
