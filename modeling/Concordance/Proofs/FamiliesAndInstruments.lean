import Concordance.Proofs.IntegerRounding
import Concordance.Proofs.Measurement

/-! Families and instruments. A family is set to what is measured and exposes it as a floating-point
number, an instrument only sums up what it is sent. They tell the same as long as every difference
that is sent starts from what was sent before: the counts that the instrument knows of, the counts
that were set and the counts that were measured last are the same ones after every measurement. -/
namespace Concordance

namespace Series
variable {κ α : Type} [DecidableEq κ]

def get? (series : Series κ α) (key : κ) : Option α := series.lookup key

theorem get?_cons (known key : κ) (x : α) (rest : Series κ α) :
    get? ((known, x) :: rest) key = if key = known then some x else get? rest key := by
  unfold get?
  by_cases same : key = known
  · simp [same]
  · simp [List.lookup_cons, beq_false_of_ne same, same]

theorem value_eq (start : α) (series : Series κ α) (key : κ) :
    value start series key = (get? series key).getD start := rfl

theorem get?_adjust (start : α) (key other : κ) (change : α → α) (series : Series κ α) :
    get? (adjust start key change series) other =
      if other = key then some (change (value start series key)) else get? series other := by
  induction series with
  | nil => rw [adjust, get?_cons, value_eq]; rfl
  | cons entry rest ih =>
    obtain ⟨known, old⟩ := entry
    simp only [value_eq, get?_cons] at ih ⊢
    by_cases own : known = key
    · subst own
      simp only [adjust, if_true, get?_cons, Option.getD_some]
      split <;> rfl
    · simp only [adjust, own, Ne.symm own, if_false, get?_cons, ih]
      by_cases same : other = known
      · simp [same, own]
      · simp [same]

theorem value_adjust (start : α) (key other : κ) (change : α → α) (series : Series κ α) :
    value start (adjust start key change series) other =
      if other = key then change (value start series key) else value start series other := by
  rw [value_eq, get?_adjust, value_eq start series other]
  split <;> rfl

end Series

inductive Measurement where
  | search (engine searchType : Text) (cached : Bool) (seconds : Value)
  | build (engine : Text) (succeeded : Bool) (seconds : Value) (documents : Option Int)

namespace Measurement
variable {engine : Text} {labels : Labels} {m : Measurement} {ms : List Measurement}

def seconds : Measurement → Value
  | search _ _ _ seconds => seconds
  | build _ _ seconds _ => seconds

def documents? : Measurement → Option Int
  | search .. => none
  | build _ _ _ documents => documents

def countFor (engine : Text) : Measurement → Option Int
  | search .. => none
  | build measured _ _ documents => if engine = measured then documents else none

def queryLabels? : Measurement → Option Labels
  | search engine searchType cached _ => some (Telemetry.queryLabels engine searchType cached)
  | build .. => none

def lastCount (engine : Text) (ms : List Measurement) : Option Int :=
  (ms.filterMap (countFor engine)).getLast?

def queryCount (labels : Labels) (ms : List Measurement) : Nat :=
  ms.countP fun m => m.queryLabels? = some labels

theorem lastCount_concat :
    lastCount engine (ms ++ [m]) = (m.countFor engine).or (lastCount engine ms) := by
  unfold lastCount
  rw [List.filterMap_append, List.getLast?_append]
  cases count : m.countFor engine <;> simp [count]

theorem queryCount_concat : queryCount labels (ms ++ [m]) =
    queryCount labels ms + if m.queryLabels? = some labels then 1 else 0 := by
  simp [queryCount, List.countP_append, List.countP_singleton]

theorem queryCount_build (labels : Labels) (ms : List Measurement) (engine : Text)
    (succeeded : Bool) (seconds : Value) (documents : Option Int) :
    queryCount labels (ms ++ [.build engine succeeded seconds documents]) =
      queryCount labels ms :=
  queryCount_concat

end Measurement

namespace Telemetry
variable {t next : Telemetry} {m : Measurement} {ms : List Measurement} {engine searchType : Text}
  {cached succeeded : Bool} {value : Value} {documents : Option Int}

def take (t : Telemetry) : Measurement → Except Obstacle Telemetry
  | .search engine searchType cached seconds => t.measureSearch engine searchType cached seconds
  | .build engine succeeded seconds documents => t.measureBuild engine succeeded seconds documents

def exposed (t : Telemetry) (family : String) (labels : Labels) : Option Binary64 :=
  ((t.families.find? fun f => f.name = t.namePrefix ++ family.toList).bind fun f =>
    f.samples.find? fun sample => sample.labels = labels).map (·.value)

theorem find?_sample {α : Type} (name : Text) (number : α → Binary64) (labels : Labels)
    (series : Series Labels α) :
    (((series.map fun (labels, x) => (⟨name, labels, number x⟩ : Sample)).find? fun sample =>
      sample.labels = labels).map (·.value)) = (series.get? labels).map number := by
  induction series with
  | nil => rfl
  | cons entry rest ih =>
    obtain ⟨known, x⟩ := entry
    rw [Series.get?_cons]
    by_cases same : labels = known
    · simp [same]
    · rw [List.map_cons, List.find?_cons_of_neg (by simpa using Ne.symm same), ih, if_neg same]

theorem exposed_documents (t : Telemetry) (labels : Labels) :
    t.exposed "_index_document_count" labels = (t.documentCount.get? labels).map .ofInt := by
  have family : (t.families.find? fun f =>
      f.name = t.namePrefix ++ "_index_document_count".toList) = t.families[3]? := by
    simp only [families, histogramFamily, List.find?_cons, List.append_right_inj]
    rfl
  rw [exposed, family]
  exact find?_sample _ Binary64.ofInt labels t.documentCount

theorem exposed_queries (t : Telemetry) (labels : Labels) :
    t.exposed "_queries_total" labels = (t.searchCount.get? labels).map .ofNat := by
  have family : (t.families.find? fun f =>
      f.name = t.namePrefix ++ "_queries_total".toList) = t.families[1]? := by
    simp only [families, histogramFamily, List.find?_cons, List.append_right_inj]
    rfl
  rw [exposed, family]
  exact find?_sample _ Binary64.ofNat labels t.searchCount

theorem engineLabel_eq_iff {engine other : Text} :
    [engineLabel engine] = [engineLabel other] ↔ engine = other := by
  simp [engineLabel]

/-- Whether a telemetry tells of the given measurements and of no others. -/
structure Tells (t : Telemetry) (ms : List Measurement) : Prop where
  gauge : ∀ engine, t.documentCount.get? [engineLabel engine] = Measurement.lastCount engine ms
  reported : ∀ engine, Series.value 0 t.reportedDocuments engine =
    (Measurement.lastCount engine ms).getD 0
  sent : ∀ engine, Series.value 0 t.instruments.documents [engineLabel engine] =
    (Measurement.lastCount engine ms).getD 0
  queries : ∀ labels, Series.value 0 t.searchCount labels = Measurement.queryCount labels ms
  added : ∀ labels, Series.value 0 t.instruments.searchCount labels =
    Measurement.queryCount labels ms

theorem tells_new (namePrefix : Text) : Tells { namePrefix } [] := by
  constructor <;> exact fun _ => rfl

theorem Tells.recordSearch (tells : t.Tells ms) (engine searchType : Text) (cached : Bool)
    (value : Value) (seconds : Value.Quantity) :
    (t.recordSearch engine searchType cached seconds).Tells
      (ms ++ [.search engine searchType cached value]) := by
  have counted (series : Series Labels Nat)
      (known : ∀ labels, Series.value 0 series labels = Measurement.queryCount labels ms)
      (labels : Labels) :
      Series.value 0 (series.adjust 0 (queryLabels engine searchType cached) (· + 1)) labels =
        Measurement.queryCount labels (ms ++ [.search engine searchType cached value]) := by
    rw [Series.value_adjust, Measurement.queryCount_concat, known, known]
    by_cases own : labels = queryLabels engine searchType cached
    · simp [own, Measurement.queryLabels?]
    · simp [own, Ne.symm own, Measurement.queryLabels?]
  constructor
  · intro other
    rw [Measurement.lastCount_concat]
    exact tells.gauge other
  · intro other
    rw [Measurement.lastCount_concat]
    exact tells.reported other
  · intro other
    rw [Measurement.lastCount_concat]
    exact tells.sent other
  · exact counted t.searchCount tells.queries
  · exact counted t.instruments.searchCount tells.added

theorem recordDocuments_added (t : Telemetry) (engine : Text) (n : Int) :
    (t.recordDocuments engine n).instruments.searchCount = t.instruments.searchCount := by
  rw [recordDocuments]
  dsimp only
  split <;> rfl

theorem recordDocuments_sent (t : Telemetry) (engine : Text) (n : Int) (labels : Labels) :
    Series.value 0 (t.recordDocuments engine n).instruments.documents labels =
      Series.value 0 t.instruments.documents labels +
        if labels = [engineLabel engine] then n - Series.value 0 t.reportedDocuments engine
        else 0 := by
  rw [recordDocuments]
  dsimp only
  split
  next same => rw [same, ite_self, Int.add_zero]
  next =>
    rw [Series.value_adjust]
    split
    next own => rw [own]
    next => rw [Int.add_zero]

theorem Tells.recordDocuments (tells : t.Tells ms) (engine : Text) (succeeded : Bool)
    (value : Value) (n : Int) :
    (t.recordDocuments engine n).Tells (ms ++ [.build engine succeeded value (some n)]) := by
  have given (other : Text) : Measurement.lastCount other
      (ms ++ [.build engine succeeded value (some n)]) =
        if other = engine then some n else Measurement.lastCount other ms := by
    rw [Measurement.lastCount_concat, Measurement.countFor]
    split <;> rfl
  constructor
  · intro other
    rw [given, ← tells.gauge]
    refine (Series.get?_adjust 0 [engineLabel engine] [engineLabel other] _ _).trans ?_
    simp only [engineLabel_eq_iff]
  · intro other
    rw [given]
    refine (Series.value_adjust 0 engine other _ _).trans ?_
    rw [tells.reported other]
    split <;> rfl
  · intro other
    rw [given, recordDocuments_sent, tells.sent, tells.reported]
    simp only [engineLabel_eq_iff]
    split
    next own =>
      rw [own, Option.getD_some]
      omega
    next => rw [Int.add_zero]
  · intro labels
    rw [Measurement.queryCount_build]
    exact tells.queries labels
  · intro labels
    rw [Measurement.queryCount_build, recordDocuments_added]
    exact tells.added labels

theorem Tells.recordBuild (tells : t.Tells ms) (engine : Text) (succeeded : Bool) (value : Value)
    (seconds : Value.Quantity) (documents : Option Int) :
    (t.recordBuild engine succeeded seconds documents).Tells
      (ms ++ [.build engine succeeded value documents]) := by
  cases documents with
  | some n =>
    -- the durations are no part of what is told
    have before : Tells { t with
        buildLatency := observe buildBounds (buildLabels engine succeeded) seconds t.buildLatency
        instruments := { t.instruments with
          buildDuration := Distribution.observe (buildLabels engine succeeded) seconds
            t.instruments.buildDuration } } ms :=
      ⟨tells.gauge, tells.reported, tells.sent, tells.queries, tells.added⟩
    exact before.recordDocuments engine succeeded value n
  | none =>
    have given (other : Text) : Measurement.lastCount other
        (ms ++ [.build engine succeeded value none]) = Measurement.lastCount other ms := by
      rw [Measurement.lastCount_concat, Measurement.countFor, ite_self, Option.none_or]
    constructor
    · intro other
      rw [given]
      exact tells.gauge other
    · intro other
      rw [given]
      exact tells.reported other
    · intro other
      rw [given]
      exact tells.sent other
    · intro labels
      rw [Measurement.queryCount_build]
      exact tells.queries labels
    · intro labels
      rw [Measurement.queryCount_build]
      exact tells.added labels

/-! Which measurements can be taken in. -/

theorem reach_checked {n : Int} : (discard ((Value.Quantity.whole n).toReal.mapError .arithmetic) :
    Except Obstacle Unit) = .ok () ↔ Binary64.InReach n := by
  change (discard ((Binary64.ofInt? n).mapError .arithmetic) : Except Obstacle Unit) = _ ↔ _
  by_cases near : Binary64.InReach n
  · rw [Binary64.ofInt?_of_inReach near]
    exact iff_of_true rfl near
  · rw [Binary64.ofInt?_of_not_inReach near]
    exact iff_of_false (fun same => by cases same) near

theorem measureSearch_eq_ok : t.measureSearch engine searchType cached value = .ok next ↔
    ∃ seconds, duration value = .ok seconds ∧ t.checkName ".search.duration" = .ok () ∧
      Distribution.check (searchLabels engine searchType) seconds
        t.instruments.searchDuration = .ok () ∧
      t.checkName ".search.count" = .ok () ∧
      t.recordSearch engine searchType cached seconds = next := by
  simp [measureSearch, Outcome.bind_eq_ok, Outcome.mapError_eq_ok, Unique.exists_iff, pure,
    Except.pure]

theorem measureBuild_eq_ok : t.measureBuild engine succeeded value documents = .ok next ↔
    ∃ seconds, duration value = .ok seconds ∧ t.checkName ".index.build.duration" = .ok () ∧
      Distribution.check (buildLabels engine succeeded) seconds
        t.instruments.buildDuration = .ok () ∧
      (∀ n ∈ documents, Binary64.InReach n ∧ (n ≠ Series.value 0 t.reportedDocuments engine →
        t.checkName ".index.documents" = .ok ())) ∧
      t.recordBuild engine succeeded seconds documents = next := by
  unfold measureBuild
  cases documents with
  | none => simp [Outcome.bind_eq_ok, Outcome.mapError_eq_ok, Unique.exists_iff, pure, Except.pure]
  | some n =>
    by_cases known : n = Series.value 0 t.reportedDocuments engine
    · simp [known, Outcome.bind_eq_ok, Outcome.mapError_eq_ok, reach_checked, Unique.exists_iff,
        pure, Except.pure]
    · simp [known, Outcome.bind_eq_ok, Outcome.mapError_eq_ok, reach_checked, Unique.exists_iff,
        pure, Except.pure, and_assoc]

theorem isInstrumentName_of_longer {front long short : Text} (nonempty : front ≠ [])
    (valid : isInstrumentName (front ++ long) = true) (shorter : short.length ≤ long.length)
    (signs : short.all fun c => c.isAlphanum || ['-', '_', '.', '/'].contains c) :
    isInstrumentName (front ++ short) = true := by
  obtain ⟨c, front, rfl⟩ := List.exists_cons_of_ne_nil nonempty
  simp only [isInstrumentName, Bool.and_eq_true, decide_eq_true_eq, List.cons_append,
    List.head?_cons, List.all_cons, List.all_append, List.length_cons, List.length_append]
    at valid ⊢
  obtain ⟨⟨few, letter⟩, sign, front, _⟩ := valid
  exact ⟨⟨by omega, letter⟩, sign, front, signs⟩

/-- Whether a telemetry has names for its instruments and can add to its sums. The instrument for
the durations of builds has the longest name. -/
structure Able (t : Telemetry) : Prop where
  named : isInstrumentName (t.instrumentName ".index.build.duration") = true
  searches : Distribution.AllSummable t.instruments.searchDuration
  builds : Distribution.AllSummable t.instruments.buildDuration

theorem able_new {namePrefix : Text}
    (named : isInstrumentName (namePrefix ++ ".index.build.duration".toList) = true) :
    Able { namePrefix } :=
  ⟨named, fun _ => Distribution.summable_blank, fun _ => Distribution.summable_blank⟩

theorem Able.checkName (able : t.Able) (rest : String) (shorter : rest.toList.length ≤ 21)
    (signs : rest.toList.all fun c => c.isAlphanum || ['-', '_', '.', '/'].contains c) :
    t.checkName rest = .ok () := by
  have nonempty : t.namePrefix ≠ [] := fun none => by
    have named := able.named
    rw [instrumentName, none] at named
    exact absurd named (by decide)
  exact if_pos (isInstrumentName_of_longer nonempty able.named shorter signs)

theorem Able.search (able : t.Able) (engine searchType : Text) (cached : Bool) (x : Binary64) :
    ∃ next, t.measureSearch engine searchType cached (.real x) = .ok next ∧ next.Able := by
  refine ⟨_, measureSearch_eq_ok.mpr ⟨.real x, rfl,
    able.checkName _ (by decide) (by decide), able.searches.check _ x,
    able.checkName _ (by decide) (by decide), rfl⟩, able.named, ?_, able.builds⟩
  exact able.searches.observe _ x

theorem recordBuild_instruments (t : Telemetry) (engine : Text) (succeeded : Bool)
    (seconds : Value.Quantity) (documents : Option Int) :
    (t.recordBuild engine succeeded seconds documents).namePrefix = t.namePrefix ∧
    (t.recordBuild engine succeeded seconds documents).instruments.searchDuration =
      t.instruments.searchDuration ∧
    (t.recordBuild engine succeeded seconds documents).instruments.buildDuration =
      Distribution.observe (buildLabels engine succeeded) seconds
        t.instruments.buildDuration := by
  cases documents with
  | none => exact ⟨rfl, rfl, rfl⟩
  | some n =>
    rw [recordBuild]
    dsimp only [recordDocuments]
    split <;> exact ⟨rfl, rfl, rfl⟩

theorem Able.build (able : t.Able) (engine : Text) (succeeded : Bool) (x : Binary64)
    (near : ∀ n ∈ documents, Binary64.InReach n) :
    ∃ next, t.measureBuild engine succeeded (.real x) documents = .ok next ∧ next.Able := by
  obtain ⟨names, searches, builds⟩ :=
    recordBuild_instruments t engine succeeded (.real x) documents
  refine ⟨_, measureBuild_eq_ok.mpr ⟨.real x, rfl, able.checkName _ (by decide) (by decide),
    able.builds.check _ x, fun n given => ⟨near n given, fun _ =>
      able.checkName _ (by decide) (by decide)⟩, rfl⟩, ?_, ?_, ?_⟩
  · rw [instrumentName, names]
    exact able.named
  · rw [searches]
    exact able.searches
  · rw [builds]
    exact able.builds.observe _ x

theorem Able.take (able : t.Able) {x : Binary64} (real : m.seconds = .real x)
    (near : ∀ n ∈ m.documents?, Binary64.InReach n) : ∃ next, t.take m = .ok next ∧ next.Able := by
  cases m with
  | search engine searchType cached seconds =>
    obtain rfl : seconds = .real x := real
    exact able.search engine searchType cached x
  | build engine succeeded seconds documents =>
    obtain rfl : seconds = .real x := real
    exact able.build engine succeeded x near

theorem inReach_of_take (taken : t.take m = .ok next) :
    ∀ n ∈ m.documents?, Binary64.InReach n := by
  cases m with
  | search => exact nofun
  | build engine succeeded seconds documents =>
    obtain ⟨_, _, _, _, near, _⟩ := measureBuild_eq_ok.mp taken
    exact fun n given => (near n given).1

theorem Able.run (able : t.Able) (real : ∀ m ∈ ms, ∃ x, m.seconds = .real x) :
    (∃ last, ms.foldlM Telemetry.take t = .ok last) ↔
      ∀ m ∈ ms, ∀ n ∈ m.documents?, Binary64.InReach n := by
  induction ms generalizing t with
  | nil => exact iff_of_true ⟨t, rfl⟩ nofun
  | cons m ms ih =>
    obtain ⟨⟨x, first⟩, others⟩ := List.forall_mem_cons.mp real
    rw [List.forall_mem_cons, List.foldlM_cons]
    constructor
    · rintro ⟨last, ok⟩
      obtain ⟨next, taken, rest⟩ := Outcome.bind_eq_ok.mp ok
      have near := inReach_of_take taken
      obtain ⟨_, same, ready⟩ := able.take first near
      cases taken.symm.trans same
      exact ⟨near, (ih ready others).mp ⟨last, rest⟩⟩
    · rintro ⟨near, further⟩
      obtain ⟨next, taken, ready⟩ := able.take first near
      obtain ⟨last, rest⟩ := (ih ready others).mpr further
      exact ⟨last, Outcome.bind_eq_ok.mpr ⟨next, taken, rest⟩⟩

theorem Tells.take (tells : t.Tells ms) (taken : t.take m = .ok next) : next.Tells (ms ++ [m]) := by
  cases m with
  | search engine searchType cached seconds =>
    obtain ⟨_, _, _, _, _, rfl⟩ := measureSearch_eq_ok.mp taken
    exact tells.recordSearch engine searchType cached seconds _
  | build engine succeeded seconds documents =>
    obtain ⟨_, _, _, _, _, rfl⟩ := measureBuild_eq_ok.mp taken
    exact tells.recordBuild engine succeeded seconds _ documents

theorem tells_run {namePrefix : Text} (taken : ms.foldlM Telemetry.take { namePrefix } = .ok t) :
    t.Tells ms := by
  induction ms using List.reverseRecOn generalizing t with
  | nil =>
    cases taken
    exact tells_new namePrefix
  | append_singleton ms m ih =>
    obtain ⟨before, earlier, last⟩ := Outcome.foldlM_concat.mp taken
    exact (ih earlier).take last

/-- After every run of measurements that are taken in, the gauge of an engine exposes the number
nearest to the count of documents that was given last for it, which is that count up to 2^53, while
what its instrument has been sent adds up to the count itself; and under all labels the instrument
of searches has been sent the number of searches measured, which the counter exposes up to 2^53. All
measurements in floating-point seconds are taken in that give no count beyond the range of
floating-point numbers. -/
theorem families_agree_with_instruments (namePrefix : Text) (ms : List Measurement) :
    (∀ t, ms.foldlM Telemetry.take { namePrefix } = .ok t →
      (∀ engine,
        t.exposed "_index_document_count" [engineLabel engine] =
          (Measurement.lastCount engine ms).map .ofInt ∧
        (∀ n ∈ Measurement.lastCount engine ms, n.natAbs ≤ 2 ^ 53 →
          (Binary64.ofInt n).toInt? = some n) ∧
        Series.value 0 t.instruments.documents [engineLabel engine] =
          (Measurement.lastCount engine ms).getD 0) ∧
      ∀ labels,
        Series.value 0 t.instruments.searchCount labels = Measurement.queryCount labels ms ∧
        (Measurement.queryCount labels ms ≤ 2 ^ 53 →
          ((t.exposed "_queries_total" labels).getD .zero).toInt? =
            some (Measurement.queryCount labels ms : Int))) ∧
    (isInstrumentName (namePrefix ++ ".index.build.duration".toList) = true →
      (∀ m ∈ ms, ∃ x, m.seconds = .real x) →
        ((∃ t, ms.foldlM Telemetry.take { namePrefix } = .ok t) ↔
          ∀ m ∈ ms, ∀ n ∈ m.documents?, Binary64.InReach n)) := by
  refine ⟨fun t taken => ?_, fun named real => (able_new named).run real⟩
  have tells := tells_run taken
  refine ⟨fun engine => ⟨?_, fun n _ few => Binary64.toInt?_ofInt few, tells.sent engine⟩,
    fun labels => ⟨tells.added labels, fun few => ?_⟩⟩
  · rw [exposed_documents, tells.gauge]
  · have counted : (t.exposed "_queries_total" labels).getD .zero =
        .ofInt (Measurement.queryCount labels ms : Int) := by
      rw [exposed_queries, ← tells.queries labels, Series.value_eq]
      cases t.searchCount.get? labels with
      | none =>
        rw [Option.map_none, Option.getD_none, Option.getD_none]
        decide +kernel
      | some n =>
        rw [Option.map_some, Option.getD_some, Option.getD_some, Binary64.ofInt_natCast,
          Binary64.ofNat]
    rw [counted]
    exact Binary64.toInt?_ofInt (by simpa using few)

def fiveMeasurements : List Measurement :=
  [.build "cats".toList true (.real .zero) (some 3),
   .build "cats".toList false (.real .zero) none,
   .search "cats".toList "fast".toList false (.real .zero),
   .build "dogs".toList true (.real .zero) (some 7),
   .build "cats".toList true (.real .zero) (some 2)]

theorem five_measurements_agree :
    ∃ t, fiveMeasurements.foldlM Telemetry.take {} = .ok t ∧
      t.exposed "_index_document_count" [engineLabel "cats".toList] = some (.ofInt 2) ∧
      (Binary64.ofInt 2).toInt? = some 2 ∧
      Series.value 0 t.instruments.documents [engineLabel "cats".toList] = 2 ∧
      Series.value 0 t.instruments.documents [engineLabel "dogs".toList] = 7 ∧
      ((t.exposed "_queries_total" (queryLabels "cats".toList "fast".toList false)).getD
        .zero).toInt? = some 1 := by
  obtain ⟨agree, taken⟩ := families_agree_with_instruments "fast_search".toList fiveMeasurements
  have real : ∀ m ∈ fiveMeasurements, ∃ x, m.seconds = .real x := by
    simp [fiveMeasurements, Measurement.seconds]
  have near : ∀ m ∈ fiveMeasurements, ∀ n ∈ m.documents?, Binary64.InReach n := by
    decide +kernel
  obtain ⟨t, ok⟩ := (taken (by decide) real).mpr near
  obtain ⟨documents, queries⟩ := agree t ok
  obtain ⟨gauge, same, sent⟩ := documents "cats".toList
  obtain ⟨_, counted⟩ := queries (queryLabels "cats".toList "fast".toList false)
  exact ⟨t, ok, gauge, same 2 (by decide) (by decide), sent, (documents "dogs".toList).2.2,
    counted (by decide)⟩

def vastBuild : List Measurement :=
  [.build "cats".toList true (.real .zero) (some (2 ^ 53 + 1))]

theorem gauge_is_not_always_exact :
    ¬∀ ms t engine, ms.foldlM Telemetry.take {} = .ok t →
      (t.exposed "_index_document_count" [engineLabel engine]).bind Binary64.toInt? =
          Measurement.lastCount engine ms ∧
        Series.value 0 t.instruments.documents [engineLabel engine] =
          (Measurement.lastCount engine ms).getD 0 := by
  intro exact_always
  have real : ∀ m ∈ vastBuild, ∃ x, m.seconds = .real x := by
    simp [vastBuild, Measurement.seconds]
  have able : Able {} := able_new (by decide : isInstrumentName
    ("fast_search".toList ++ ".index.build.duration".toList) = true)
  obtain ⟨t, ok⟩ := (able.run real).mpr (by decide +kernel)
  obtain ⟨gauge, _⟩ := exact_always vastBuild t "cats".toList ok
  rw [exposed_documents, (tells_run ok).gauge] at gauge
  exact absurd gauge (by decide +kernel)

end Telemetry
end Concordance
