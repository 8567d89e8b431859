import Concordance.Engine.Basic
import Concordance.Search.Findings

/-! Searching with an engine. A search takes three steps: it is dispatched, which settles it at once
or leaves a task on the snapshot published then; the task is carried out on that snapshot alone;
and it is concluded, which remembers the answer unless another snapshot has been published in the
meantime. What went wrong is part of the answer. -/
namespace Concordance

structure SearchTask where
  snapshot : Snapshot
  publication : Nat
  query : Text
  options : SearchOptions
  key : OptionsKey

def SearchTask.searchType (task : SearchTask) : SearchType := Findings.searchTypeOf task.query

def SearchTask.findings (task : SearchTask) (s : Settings) : Findings :=
  Findings.find Binary64 s task.snapshot task.query task.options

namespace Engine

def record (e : Engine) (response : SearchResponse) (elapsed : Binary64) : Engine :=
  let searchType := (response.searchType.getD .fast).name
  { e with
    lastQuery := some response.query
    lastResultCount := response.results.length
    telemetry := e.telemetry.recordSearch e.name searchType response.cached (seconds elapsed)
    window := e.window.record
      { latency := .real elapsed, resultCount := response.results.length
        cached := response.cached, searchType } }

def task (e : Engine) (query : Text) (options : SearchOptions) : SearchTask :=
  { snapshot := e.snapshot, publication := e.publication, query, options
    key := options.key e.settings }

def remembered? (e : Engine) (task : SearchTask) : Option SearchResponse :=
  match e.cache with
  | some entry =>
    if entry.query = task.query && entry.key = task.key &&
        entry.publication = task.publication then
      some { entry.response with cached := true }
    else none
  | none => none

def notReadyReport (name : Text) : LogEvent :=
  { logger := LogEvent.engineLogger, level := Level.warning
    message := "Search index not ready (engine ".toList ++ name ++ [')'] }

def dispatch (e : Engine) (query : Text) (options : SearchOptions) (elapsed : Binary64) :
    Engine × (SearchResponse ⊕ SearchTask) :=
  if query.length < e.settings.minQueryLength then (e, .inl { query })
  else if !e.snapshot.isReady then
    (e.report [notReadyReport e.name], .inl { query, error := some .notReady })
  else
    let task := e.task query options
    match e.remembered? task with
    | some response => (e.record response elapsed, .inl response)
    | none =>
      (e.enter "fast_search.search"
        [("search.type", .text task.searchType.name),
         ("search.query_length", .int query.length)], .inr task)

def failedReport (query : Text) : LogEvent :=
  { logger := LogEvent.engineLogger, level := Level.error, hasException := true
    message := "Search failed for query ".toList ++ Text.quoted query }

def answeredReport (response : SearchResponse) (searchType : SearchType) (elapsed : Binary64) :
    LogEvent :=
  { logger := LogEvent.engineLogger, level := Level.debug
    message := "Search ".toList ++ Text.quoted response.query ++ " (".toList ++ searchType.name ++
      "): ".toList ++ Text.ofNat response.total ++ " matches in ".toList ++
      LogEvent.milliseconds 2 elapsed }

def commit (e : Engine) (task : SearchTask) (response : SearchResponse) : Engine :=
  if e.publication = task.publication then
    { e with cache := some { query := task.query, key := task.key
                             publication := task.publication, response } }
  else e

/-- Answers a task by what was listed for it. A failed search is neither remembered nor counted. -/
def conclude (e : Engine) (task : SearchTask) (listing : Except Failure Listing)
    (elapsed : Binary64) : Engine × SearchResponse :=
  let searchType := task.searchType
  match listing with
  | .error f =>
    let e := e.report [failedReport task.query]
    let e := e.trace fun t => (t.change (·.fail f.message)).leave
    (e, { query := task.query, error := some (.failed f), searchType := some searchType })
  | .ok (results, total) =>
    let e := (e.setAttribute "search.total_matches" (.int total)).trace (·.leave)
    let response : SearchResponse :=
      { query := task.query, results, total, searchType := some searchType }
    let e := e.commit task response
    let e := e.report [answeredReport response searchType elapsed]
    (e.record response elapsed, response)

def search (e : Engine) (query : Text) (options : SearchOptions) (elapsed : Binary64) :
    Engine × SearchResponse :=
  match e.dispatch query options elapsed with
  | (e, .inl response) => (e, response)
  | (e, .inr task) =>
    let findings := task.findings e.settings
    (e.report findings.reports).conclude task findings.listing elapsed

/-- Searches while a collection is indexed, which is done when the search first asks a note for its
text. The last result says whether the collection could be indexed, if it came to that. -/
def searchDuring (e : Engine) (query : Text) (options : SearchOptions) (documents : Value)
    (elapsed : Binary64) : Engine × SearchResponse × Option Bool :=
  match e.dispatch query options elapsed with
  | (e, .inl response) => (e, response, none)
  | (e, .inr task) =>
    let findings := task.findings e.settings
    match Findings.reportsBeforeNote Binary64 e.settings task.snapshot query options with
    | none =>
      let (e, response) := (e.report findings.reports).conclude task findings.listing elapsed
      (e, response, none)
    | some early =>
      let (e, installed) := (e.report (findings.reports.take early)).update documents elapsed
      let e := e.report (findings.reports.drop early)
      let (e, response) := e.conclude task findings.listing elapsed
      (e, response, some installed)

def rejectedOptionsReport (query : Text) (issues : List Issue) : LogEvent :=
  { logger := LogEvent.engineLogger, level := Level.warning
    message := "Rejected search options for query ".toList ++ Text.quoted query ++ ':' :: ' ' ::
      (SearchError.invalidOptions issues).message }

def readOptions (options : Value) : Read SearchOptions :=
  if options.isTruthy then SearchOptions.read options else .ok {}

def refuse (e : Engine) (query : Text) (issues : List Issue) : Engine × SearchResponse :=
  (e.report [rejectedOptionsReport query issues],
    { query, error := some (.invalidOptions issues) })

def searchWith (e : Engine) (query : Text) (options : Value) (elapsed : Binary64) :
    Engine × SearchResponse :=
  match readOptions options with
  | .ok options => e.search query options elapsed
  | .error issues => e.refuse query issues

/-! An answer is looked for under the key of the options. Where that cannot be written, there is no
response, not even one with an error; nothing has happened to the engine by then. -/

/-- Why a search with valid options gets no response. -/
def obstacle? (e : Engine) (query : Text) (options : SearchOptions) : Option Failure :=
  if query.length < e.settings.minQueryLength || !e.snapshot.isReady then none
  else options.obstacle?

def unlessBarred {α : Type} (e : Engine) (query : Text) (options : SearchOptions)
    (searched : Engine × α) : Engine × Except Failure α :=
  match e.obstacle? query options with
  | some f => (e, .error f)
  | none => (searched.1, .ok searched.2)

/-- Searches with options as they were read, if a search gets a response. -/
def ask (e : Engine) (query : Text) (options : Read SearchOptions) (elapsed : Binary64) :
    Engine × Except Failure SearchResponse :=
  match options with
  | .ok options => e.unlessBarred query options (e.search query options elapsed)
  | .error issues =>
    let (e, response) := e.refuse query issues
    (e, .ok response)

def askDuring (e : Engine) (query : Text) (options : Read SearchOptions) (documents : Value)
    (elapsed : Binary64) : Engine × Except Failure (SearchResponse × Option Bool) :=
  match options with
  | .ok options => e.unlessBarred query options (e.searchDuring query options documents elapsed)
  | .error issues =>
    let (e, response) := e.refuse query issues
    (e, .ok (response, none))

end Engine
end Concordance
