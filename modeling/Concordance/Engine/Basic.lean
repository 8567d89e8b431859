import Concordance.Index.Snapshot
import Concordance.Log.Event
import Concordance.Search.Options
import Concordance.Search.Response
import Concordance.Telemetry.Basic
import Concordance.Trace.Span

/-! The state of an engine, and how a collection is put into it. A snapshot is built aside and then
published in one step, which empties the cache; a collection that cannot be indexed publishes
nothing. Each publication has a number, so that an answer can be told from one on another snapshot.
How long things take is not for the engine to know: durations in milliseconds are given to it. -/
namespace Concordance

structure CacheEntry where
  query : Text
  key : OptionsKey
  publication : Nat
  response : SearchResponse

structure Engine where
  settings : Settings
  name : Text := "default".toList
  snapshot : Snapshot
  publication : Nat := 0
  cache : Option CacheEntry := none
  indexing : Bool := false
  lastQuery : Option Text := none
  lastResultCount : Nat := 0
  lastBuildError : Option IndexError := none
  window : SearchWindow := .standard
  telemetry : Telemetry := {}
  logs : List LogEvent := []
  tracer : Tracer := {}

namespace Engine

def report (e : Engine) (events : List LogEvent) : Engine := { e with logs := e.logs ++ events }

def trace (e : Engine) (f : Tracer → Tracer) : Engine := { e with tracer := f e.tracer }

def setAttribute (e : Engine) (name : String) (value : Value) : Engine :=
  e.trace (·.change (·.setAttribute name.toList value))

def enter (e : Engine) (name : String) (attributes : List (String × Value)) : Engine :=
  e.trace (·.enter name.toList
    (("search.engine".toList, .text e.name) ::
      attributes.map fun (name, value) => (name.toList, value))
    [("engine".toList, .text e.name)])

def seconds (elapsed : Binary64) : Value.Quantity := .real (elapsed / .ofNat 1000)

def collection (documents : Value) : Except IndexError (List Value) :=
  match documents, documents.members? with
  | .null, _ => .ok []
  | _, some members => .ok members
  | _, none => .error (.notACollection documents.typeName)

def index (s : Settings) (members : List Value) : Except IndexError Snapshot :=
  if members.isEmpty then .ok (.empty s) else Snapshot.build s members

/-- Publishes a snapshot. The answer remembered so far is forgotten. -/
def publish (e : Engine) (snapshot : Snapshot) : Engine :=
  { e with snapshot, publication := e.publication + 1, cache := none, lastBuildError := none }

def builtReport (snapshot : Snapshot) (elapsed : Binary64) : LogEvent :=
  { logger := LogEvent.indexLogger, level := Level.info
    message := "Search index built: ".toList ++ Text.ofNat snapshot.size ++ " documents, ".toList ++
      Text.ofNat snapshot.entries.length ++ " unique words (".toList ++
      LogEvent.milliseconds 1 elapsed ++ [')'] }

def clearedReport (name : Text) : LogEvent :=
  { logger := LogEvent.engineLogger, level := Level.info
    message := "Search index cleared; engine ".toList ++ name ++ " is not ready".toList }

def rejectedReport (error : IndexError) : LogEvent :=
  { logger := LogEvent.engineLogger, level := Level.error, hasException := true
    message := "Index build rejected, keeping previous index: ".toList ++ error.message }

def reject (e : Engine) (error : IndexError) (elapsed : Binary64) : Engine :=
  let e := e.report [rejectedReport error]
  let e := { e with
    telemetry := e.telemetry.recordBuild e.name false (seconds elapsed) none
    lastBuildError := some error }
  let e := e.trace (·.change (·.fail error.message))
  (e.setAttribute "search.build_error" (.text error.message)).trace (·.leave)

def install (e : Engine) (snapshot : Snapshot) (elapsed : Binary64) : Engine :=
  let e := if snapshot.isReady then e.report [builtReport snapshot elapsed] else e
  let e := e.publish snapshot
  let e := e.setAttribute "search.indexed_words" (.int snapshot.entries.length)
  let e := e.trace (·.leave)
  let e := { e with
    telemetry := e.telemetry.recordBuild e.name true (seconds elapsed) (some snapshot.size) }
  if snapshot.isReady then e else e.report [clearedReport e.name]

/-- Indexes a collection and publishes it if that is possible, which the second result says. -/
def rebuild (e : Engine) (documents : Value) (elapsed : Binary64) : Engine × Bool :=
  let e := e.enter "fast_search.index.build" []
  match collection documents with
  | .error error => (e.reject error elapsed, false)
  | .ok members =>
    let e := e.setAttribute "search.documents" (.int members.length)
    match index e.settings members with
    | .error error => (e.reject error elapsed, false)
    | .ok snapshot => (e.install snapshot elapsed, true)

def update (e : Engine) (documents : Value) (elapsed : Binary64) : Engine × Bool :=
  let (e, installed) := { e with indexing := true }.rebuild documents elapsed
  ({ e with indexing := false }, installed)

def create (s : Settings) (name : Text) (documents : Value) (elapsed : Binary64) : Engine :=
  let e : Engine := { settings := s, name, snapshot := .empty s }
  if documents.isTruthy then (e.update documents elapsed).1 else e

def clearCache (e : Engine) : Engine := { e with cache := none }

/-- Changes a document in place, behind the index. -/
def modify (e : Engine) (id : Nat) (f : Document → Document) : Engine :=
  { e with snapshot := { e.snapshot with documents := e.snapshot.documents.modify id f } }

end Engine

structure EngineStatistics where
  totalDocuments : Nat
  indexedWords : Nat
  ready : Bool
  indexing : Bool
  lastQuery : Option Text
  lastResultCount : Nat
  lastBuildError : Option IndexError
  searches : Option SearchStatistics

def Engine.statistics (e : Engine) : Except Failure EngineStatistics := do
  pure { totalDocuments := e.snapshot.size, indexedWords := e.snapshot.entries.length
         ready := e.snapshot.isReady, indexing := e.indexing, lastQuery := e.lastQuery
         lastResultCount := e.lastResultCount, lastBuildError := e.lastBuildError
         searches := ← e.window.statistics }

end Concordance
