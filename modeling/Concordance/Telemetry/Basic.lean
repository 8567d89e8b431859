import Concordance.Statistics.Window
import Concordance.Telemetry.Exposition

/-! Telemetry of engines. Every measurement goes two ways: into the families that are exposed as
text, and to instruments that only take what is added to them. The gauge of documents is exposed
as it is, while its instrument is given the differences. -/
namespace Concordance

structure Histogram where
  buckets : List Nat
  sum : Binary64
deriving Inhabited

namespace Histogram

def empty (bounds : List Binary64) : Histogram := ⟨List.replicate (bounds.length + 1) 0, .zero⟩

def observe (bounds : List Binary64) (x : Binary64) (h : Histogram) : Histogram :=
  { buckets := if x.isNaN then h.buckets else h.buckets.modify (bounds.findIdx x.le) (· + 1)
    sum := h.sum + x }

def cumulative (h : Histogram) : List Nat := (h.buckets.scanl (· + ·) 0).tail

def samples (name : Text) (bounds : List Binary64) (labels : Labels) (h : Histogram) :
    List Sample :=
  let upTo := bounds.map Exposition.number ++ ["+Inf".toList]
  (upTo.zip h.cumulative).map (fun (bound, count) =>
    { name := name ++ "_bucket".toList, labels := ("le".toList, bound) :: labels
      value := .ofNat count }) ++
    [{ name := name ++ "_count".toList, labels, value := .ofNat (h.buckets.foldr (· + ·) 0) },
     { name := name ++ "_sum".toList, labels, value := h.sum }]

end Histogram

structure Distribution where
  count : Nat := 0
  sum : Value.Quantity := .whole 0
deriving Inhabited

namespace Distribution

def takes : Value.Quantity → Bool
  | .whole n => 0 ≤ n
  | .real x => x.isFinite && !Binary64.lt x .zero

def add (d : Distribution) (seconds : Value.Quantity) : Distribution :=
  { count := d.count + 1, sum := (d.sum.add seconds).toOption.getD d.sum }

def observe (labels : Labels) (seconds : Value.Quantity) (series : Series Labels Distribution) :
    Series Labels Distribution :=
  if takes seconds then series.adjust {} labels (·.add seconds) else series

def check (labels : Labels) (seconds : Value.Quantity) (series : Series Labels Distribution) :
    Except Failure Unit :=
  if takes seconds then discard ((Series.value {} series labels).sum.add seconds) else .ok ()

end Distribution

structure Instruments where
  searchDuration : Series Labels Distribution := []
  searchCount : Series Labels Nat := []
  buildDuration : Series Labels Distribution := []
  documents : Series Labels Int := []
deriving Inhabited

structure Telemetry where
  namePrefix : Text := "fast_search".toList
  searchLatency : Series Labels Histogram := []
  searchCount : Series Labels Nat := []
  buildLatency : Series Labels Histogram := []
  documentCount : Series Labels Int := []
  reportedDocuments : Series Text Int := []
  instruments : Instruments := {}
deriving Inhabited

namespace Telemetry

open Value

def boundsOf (tenths : List Nat) : List Binary64 := tenths.map fun n => .ofRatio n 10000

def searchBounds : List Binary64 := boundsOf [5, 10, 25, 50, 100, 250, 500, 1000, 2500]

def buildBounds : List Binary64 := boundsOf [10, 100, 500, 1000, 2500, 5000, 10000, 25000]

def engineLabel (engine : Text) : Text × Text := ("engine".toList, engine)

def searchLabels (engine searchType : Text) : Labels :=
  [engineLabel engine, ("search_type".toList, searchType)]

def queryLabels (engine searchType : Text) (cached : Bool) : Labels :=
  ("cached".toList, if cached then "true".toList else "false".toList) ::
    searchLabels engine searchType

def buildLabels (engine : Text) (succeeded : Bool) : Labels :=
  [engineLabel engine,
   ("status".toList, if succeeded then "success".toList else "failure".toList)]

def secondsOf : Quantity → Binary64
  | .whole n => .ofInt n
  | .real x => x

def observe (bounds : List Binary64) (labels : Labels) (seconds : Quantity)
    (series : Series Labels Histogram) : Series Labels Histogram :=
  series.adjust (.empty bounds) labels (·.observe bounds (secondsOf seconds))

def recordSearch (t : Telemetry) (engine searchType : Text) (cached : Bool) (seconds : Quantity) :
    Telemetry :=
  let labels := searchLabels engine searchType
  let queries := queryLabels engine searchType cached
  { t with
    searchLatency := observe searchBounds labels seconds t.searchLatency
    searchCount := t.searchCount.adjust 0 queries (· + 1)
    instruments := { t.instruments with
      searchDuration := Distribution.observe labels seconds t.instruments.searchDuration
      searchCount := t.instruments.searchCount.adjust 0 queries (· + 1) } }

/-- Takes in the count of documents of an engine. The instrument is only told of a change. -/
def recordDocuments (t : Telemetry) (engine : Text) (documents : Int) : Telemetry :=
  let change := documents - Series.value 0 t.reportedDocuments engine
  { t with
    documentCount := t.documentCount.adjust 0 [engineLabel engine] fun _ => documents
    reportedDocuments := t.reportedDocuments.adjust 0 engine fun _ => documents
    instruments := if change = 0 then t.instruments else { t.instruments with
      documents := t.instruments.documents.adjust 0 [engineLabel engine] (· + change) } }

def recordBuild (t : Telemetry) (engine : Text) (succeeded : Bool) (seconds : Quantity)
    (documents : Option Int) : Telemetry :=
  let labels := buildLabels engine succeeded
  let t := { t with
    buildLatency := observe buildBounds labels seconds t.buildLatency
    instruments := { t.instruments with
      buildDuration := Distribution.observe labels seconds t.instruments.buildDuration } }
  match documents with
  | none => t
  | some n => t.recordDocuments engine n

/-! Measurements that may be impossible to take in. -/

inductive Obstacle where
  | instrumentName (name : Text)
  | arithmetic (f : Failure)
deriving DecidableEq, Repr

def Obstacle.message : Obstacle → Text
  | instrumentName name =>
    "Expected ASCII string of maximum length 255 characters but got ".toList ++ name
  | arithmetic f => f.message

def instrumentName (t : Telemetry) (rest : String) : Text := t.namePrefix ++ rest.toList

def isInstrumentName (name : Text) : Bool :=
  name.length ≤ 255 && name.head?.any Char.isAlpha &&
    name.all fun c => c.isAlphanum || ['-', '_', '.', '/'].contains c

def checkName (t : Telemetry) (rest : String) : Except Obstacle Unit :=
  let name := t.instrumentName rest
  if isInstrumentName name then .ok () else .error (.instrumentName name)

def duration (value : Value) : Except Failure Quantity :=
  match value.quantity? with
  | some seconds => seconds.toReal.map fun _ => seconds
  | none => .error (.unsupported "+=".toList "float".toList value.fullTypeName)

def measureSearch (t : Telemetry) (engine searchType : Text) (cached : Bool) (seconds : Value) :
    Except Obstacle Telemetry := do
  let seconds ← (duration seconds).mapError .arithmetic
  t.checkName ".search.duration"
  (Distribution.check (searchLabels engine searchType) seconds
    t.instruments.searchDuration).mapError .arithmetic
  t.checkName ".search.count"
  pure (t.recordSearch engine searchType cached seconds)

def measureBuild (t : Telemetry) (engine : Text) (succeeded : Bool) (seconds : Value)
    (documents : Option Int) : Except Obstacle Telemetry := do
  let seconds ← (duration seconds).mapError .arithmetic
  t.checkName ".index.build.duration"
  (Distribution.check (buildLabels engine succeeded) seconds
    t.instruments.buildDuration).mapError .arithmetic
  if let some n := documents then
    discard ((Quantity.whole n).toReal.mapError .arithmetic)
    if n ≠ Series.value 0 t.reportedDocuments engine then t.checkName ".index.documents"
  pure (t.recordBuild engine succeeded seconds documents)

/-! The exposed families. -/

def histogramFamily (name help : Text) (bounds : List Binary64) (series : Series Labels Histogram) :
    MetricFamily :=
  { name, help, kind := .histogram
    samples := series.flatMap fun (labels, h) => h.samples name bounds labels }

def families (t : Telemetry) : List MetricFamily :=
  let named (rest : String) : Text := t.namePrefix ++ rest.toList
  let queries := named "_queries_total"
  let documents := named "_index_document_count"
  [histogramFamily (named "_latency_seconds") "Search query latency".toList searchBounds
      t.searchLatency,
   { name := queries, help := "Search queries served, by cache outcome".toList, kind := .counter
     samples := t.searchCount.map fun (labels, n) => ⟨queries, labels, .ofNat n⟩ },
   histogramFamily (named "_index_build_seconds") "Index build latency".toList buildBounds
      t.buildLatency,
   { name := documents, help := "Documents in the active index".toList, kind := .gauge
     samples := t.documentCount.map fun (labels, n) => ⟨documents, labels, .ofInt n⟩ }]

/-! The instruments. -/

inductive Reading where
  | distribution (d : Distribution)
  | total (n : Int)

structure Point where
  instrument : Text
  unit : Text
  description : Text
  labels : Labels
  reading : Reading

def pointsOf {α : Type} (instrument unit description : Text) (reading : α → Reading)
    (series : Series Labels α) : List Point :=
  let point : Labels × α → Point := fun (labels, x) =>
    ⟨instrument, unit, description, labels.sorted, reading x⟩
  (series.map point).mergeSort fun a b => Labels.precedes a.labels b.labels

def points (t : Telemetry) : List Point :=
  let named (rest : String) : Text := Text.lowerAscii (t.instrumentName rest)
  let seconds := ['s']
  let count (n : Nat) : Reading := .total n
  pointsOf (named ".index.build.duration") seconds "Index build latency".toList .distribution
      t.instruments.buildDuration ++
    pointsOf (named ".index.documents") [] "Documents in the active index".toList .total
      t.instruments.documents ++
    pointsOf (named ".search.count") [] "Search queries served".toList count
      t.instruments.searchCount ++
    pointsOf (named ".search.duration") seconds "Search query latency".toList .distribution
      t.instruments.searchDuration

end Telemetry
end Concordance
