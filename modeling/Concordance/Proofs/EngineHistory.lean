import Concordance.Proofs.EngineRun

/-! What happens to an engine over time. Besides the operations there are searches that a new
collection overtakes, and documents that are changed behind the index, so that they may fail from
then on. Two things are followed through all of it: the ledger, in which an engine keeps what it
tells of the searches it has served, and the answer it remembers, which was served too. -/
namespace Concordance

namespace SearchResponse

def served (response : SearchResponse) : Bool :=
  response.error.isNone && response.searchType.isSome

theorem served_iff {response : SearchResponse} : response.served = true ↔
    response.error = none ∧ response.searchType ≠ none := by
  simp [served, Option.isSome_iff_ne_none]

@[simp] theorem served_ofListing_ok (query : Text) (listing : Listing) :
    (ofListing query (.ok listing)).served = true := rfl

@[simp] theorem served_ofListing_error (query : Text) (f : Failure) :
    (ofListing query (.error f)).served = false := rfl

end SearchResponse

namespace Telemetry

def ofSearches (t : Telemetry) : Telemetry :=
  { t with
    buildLatency := [], documentCount := [], reportedDocuments := []
    instruments := { t.instruments with buildDuration := [], documents := [] } }

@[simp] theorem recordBuild_ofSearches (t : Telemetry) (engine : Text) (succeeded : Bool)
    (seconds : Value.Quantity) (documents : Option Int) :
    (t.recordBuild engine succeeded seconds documents).ofSearches = t.ofSearches := by
  cases documents with
  | none => rfl
  | some n =>
    simp only [recordBuild, recordDocuments]
    split <;> rfl

end Telemetry

namespace Engine

/-- What an engine keeps of the searches it has served. -/
structure Ledger where
  name : Text
  lastQuery : Option Text
  lastResultCount : Nat
  window : SearchWindow
  telemetry : Telemetry

def ledger (e : Engine) : Ledger :=
  ⟨e.name, e.lastQuery, e.lastResultCount, e.window, e.telemetry.ofSearches⟩

def sampleOf (response : SearchResponse) (elapsed : Binary64) : SearchSample :=
  { latency := .real elapsed, resultCount := response.results.length, cached := response.cached
    searchType := (response.searchType.getD .fast).name }

def Ledger.note (ledger : Ledger) (response : SearchResponse) (elapsed : Binary64) : Ledger :=
  { ledger with
    lastQuery := some response.query
    lastResultCount := response.results.length
    window := ledger.window.record (sampleOf response elapsed)
    telemetry := ledger.telemetry.recordSearch ledger.name (response.searchType.getD .fast).name
      response.cached (seconds elapsed) }

def Ledger.take (ledger : Ledger) (response : SearchResponse) (elapsed : Binary64) : Ledger :=
  if response.served then ledger.note response elapsed else ledger

structure Keeps (e : Engine) (ledger : Ledger) : Prop where
  ledger : e.ledger = ledger
  served : ∀ entry, e.published.cache = some entry → entry.response.served = true

variable {e f : Engine} {ledger : Ledger} {query : Text} {options : SearchOptions}
  {documents : Value} {task : SearchTask} {response : SearchResponse} {elapsed : Binary64}

theorem commit_ledger (e : Engine) (task : SearchTask) (response : SearchResponse) :
    (e.commit task response).ledger = e.ledger := by
  unfold commit
  split <;> rfl

theorem record_ledger (e : Engine) (response : SearchResponse) (elapsed : Binary64) :
    (e.record response elapsed).ledger = e.ledger.note response elapsed := rfl

theorem reject_ledger (e : Engine) (error : IndexError) (elapsed : Binary64) :
    (e.reject error elapsed).ledger = e.ledger := by
  simp only [Engine.ledger]
  exact congrArg _ (Telemetry.recordBuild_ofSearches ..)

theorem install_ledger (e : Engine) (snapshot : Snapshot) (elapsed : Binary64) :
    (e.install snapshot elapsed).ledger = e.ledger := by
  have measured : (e.install snapshot elapsed).telemetry =
      e.telemetry.recordBuild e.name true (seconds elapsed) (some snapshot.size) := by
    unfold install
    cases snapshot.isReady <;> rfl
  have kept : { (e.install snapshot elapsed).ledger with telemetry := e.telemetry.ofSearches } =
      e.ledger := by
    unfold install
    cases snapshot.isReady <;> rfl
  rw [← kept, Engine.ledger, measured, Telemetry.recordBuild_ofSearches]

theorem update_ledger (e : Engine) (documents : Value) (elapsed : Binary64) :
    (e.update documents elapsed).1.ledger = e.ledger := by
  change (rebuild _ _ _).1.ledger = _
  unfold rebuild
  cases collection documents with
  | error error => exact reject_ledger ..
  | ok members =>
    dsimp only
    split
    · exact reject_ledger ..
    · exact install_ledger ..

theorem served_of_remembered (keeps : e.Keeps ledger)
    (known : e.remembered? task = some response) : response.served = true := by
  obtain ⟨entry, kept, _, _, _, rfl⟩ := remembered?_eq_some.mp known
  exact keeps.served entry kept

theorem Keeps.dispatch (keeps : e.Keeps ledger) (query : Text) (options : SearchOptions)
    (elapsed : Binary64) : (e.dispatch query options elapsed).1.Keeps
      (match (e.dispatch query options elapsed).2 with
        | .inl response => ledger.take response elapsed
        | .inr _ => ledger) := by
  have way := dispatched e query options elapsed
  generalize e.dispatch query options elapsed = left at way ⊢
  cases way with
  | short | notReady | task => exact ⟨keeps.ledger, keeps.served⟩
  | remembered _ _ response known =>
    refine ⟨?_, keeps.served⟩
    rw [record_ledger, keeps.ledger]
    exact (if_pos (served_of_remembered keeps known)).symm

theorem conclude_ledger (e : Engine) (task : SearchTask) (listing : Except Failure Listing)
    (elapsed : Binary64) : (e.conclude task listing elapsed).1.ledger =
      e.ledger.take (e.conclude task listing elapsed).2 elapsed := by
  cases listing with
  | error f => rfl
  | ok listing =>
    unfold conclude
    dsimp only
    rw [record_ledger]
    exact congrArg (Ledger.note · _ elapsed) (commit_ledger ..)

theorem Keeps.conclude (keeps : e.Keeps ledger) (task : SearchTask)
    (listing : Except Failure Listing) (elapsed : Binary64) :
    (e.conclude task listing elapsed).1.Keeps
      (ledger.take (e.conclude task listing elapsed).2 elapsed) := by
  refine ⟨(conclude_ledger ..).trans (congrArg (Ledger.take · _ elapsed) keeps.ledger), ?_⟩
  cases listing with
  | error f => exact keeps.served
  | ok listing =>
    rw [conclude_published, commit_published]
    split
    · intro entry kept
      cases kept
      exact SearchResponse.served_ofListing_ok task.query listing
    · exact keeps.served

theorem Keeps.update (keeps : e.Keeps ledger) (documents : Value) (elapsed : Binary64) :
    (e.update documents elapsed).1.Keeps ledger := by
  refine ⟨(update_ledger ..).trans keeps.ledger, ?_⟩
  have left := update_published e documents elapsed
  split at left
  next snapshot built =>
    rw [(Prod.mk.inj left).1]
    exact fun entry kept => by cases kept
  next error refused =>
    rw [(Prod.mk.inj left).1]
    exact keeps.served

theorem Keeps.report (keeps : e.Keeps ledger) (events : List LogEvent) :
    (e.report events).Keeps ledger :=
  ⟨keeps.ledger, keeps.served⟩

theorem Keeps.search (keeps : e.Keeps ledger) (query : Text) (options : SearchOptions)
    (elapsed : Binary64) : (e.search query options elapsed).1.Keeps
      (ledger.take (e.search query options elapsed).2 elapsed) := by
  have started := keeps.dispatch query options elapsed
  unfold Engine.search
  generalize e.dispatch query options elapsed = left at started ⊢
  obtain ⟨f, response | task⟩ := left
  · exact started
  · exact (started.report _).conclude task _ elapsed

theorem Keeps.searchWith (keeps : e.Keeps ledger) (query : Text) (data : Value)
    (elapsed : Binary64) : (e.searchWith query data elapsed).1.Keeps
      (ledger.take (e.searchWith query data elapsed).2 elapsed) := by
  unfold Engine.searchWith
  cases readOptions data with
  | ok options => exact keeps.search query options elapsed
  | error issues => exact ⟨keeps.ledger, keeps.served⟩

theorem Keeps.searchDuring (keeps : e.Keeps ledger) (query : Text) (options : SearchOptions)
    (documents : Value) (elapsed : Binary64) :
    (e.searchDuring query options documents elapsed).1.Keeps
      (ledger.take (e.searchDuring query options documents elapsed).2.1 elapsed) := by
  have started := keeps.dispatch query options elapsed
  unfold Engine.searchDuring
  generalize e.dispatch query options elapsed = left at started ⊢
  obtain ⟨f, response | task⟩ := left
  · exact started
  · dsimp only
    split
    · exact (started.report _).conclude task _ elapsed
    · exact (((started.report _).update documents elapsed).report _).conclude task _ elapsed

/-- Something that happens to an engine. -/
inductive Happening where
  | operation (operation : Operation)
  | searchDuring (query : Text) (options : SearchOptions) (documents : Value) (elapsed : Binary64)
  | modify (id : Nat) (change : Document → Document)

structure Reply where
  response : Option SearchResponse := none
  installed : Option Bool := none

def undergo (e : Engine) : Happening → Engine × Reply
  | .operation (.update documents elapsed) =>
    let (e, installed) := e.update documents elapsed
    (e, { installed := some installed })
  | .operation operation =>
    let (e, response) := e.perform operation
    (e, { response })
  | .searchDuring query options documents elapsed =>
    let (e, response, installed) := e.searchDuring query options documents elapsed
    (e, { response := some response, installed })
  | .modify id change => (e.modify id change, {})

def after (e : Engine) (history : List Happening) : Engine :=
  history.foldl (fun e happening => (e.undergo happening).1) e

def replies (e : Engine) : List Happening → List Reply
  | [] => []
  | happening :: history => (e.undergo happening).2 :: (e.undergo happening).1.replies history

def responses (e : Engine) (history : List Happening) : List SearchResponse :=
  (e.replies history).filterMap Reply.response

variable {happening : Happening} {history : List Happening}

theorem after_concat (e : Engine) (history : List Happening) (happening : Happening) :
    e.after (history ++ [happening]) = ((e.after history).undergo happening).1 :=
  List.foldl_append

theorem replies_concat (e : Engine) (history : List Happening) (happening : Happening) :
    e.replies (history ++ [happening]) =
      e.replies history ++ [((e.after history).undergo happening).2] := by
  induction history generalizing e with
  | nil => rfl
  | cons first history ih => exact congrArg (_ :: ·) (ih _)

theorem responses_concat (e : Engine) (history : List Happening) (happening : Happening) :
    e.responses (history ++ [happening]) =
      e.responses history ++ ((e.after history).undergo happening).2.response.toList := by
  rw [responses, replies_concat, List.filterMap_append, responses]
  cases response : ((e.after history).undergo happening).2.response <;> simp [response]

theorem Keeps.undergo (keeps : e.Keeps ledger) (happening : Happening) :
    ∃ elapsed, (e.undergo happening).1.Keeps
      ((e.undergo happening).2.response.elim ledger (ledger.take · elapsed)) := by
  cases happening with
  | operation operation =>
    cases operation with
    | update documents elapsed => exact ⟨elapsed, keeps.update documents elapsed⟩
    | search query options elapsed => exact ⟨elapsed, keeps.search query options elapsed⟩
    | searchWith query data elapsed => exact ⟨elapsed, keeps.searchWith query data elapsed⟩
    | clearCache => exact ⟨.zero, keeps.ledger, fun entry kept => by cases kept⟩
    | statistics => exact ⟨.zero, keeps⟩
  | searchDuring query options documents elapsed =>
    exact ⟨elapsed, keeps.searchDuring query options documents elapsed⟩
  | modify id change => exact ⟨.zero, keeps.ledger, keeps.served⟩

def Ledger.blank (name : Text) : Ledger :=
  { name, lastQuery := none, lastResultCount := 0, window := .standard, telemetry := {} }

theorem keeps_create (s : Settings) (name : Text) (documents : Value) (elapsed : Binary64) :
    (create s name documents elapsed).Keeps (.blank name) := by
  have fresh : ({ settings := s, name, snapshot := .empty s } : Engine).Keeps (.blank name) :=
    ⟨rfl, fun entry kept => by cases kept⟩
  unfold create
  split
  · exact fresh.update documents elapsed
  · exact fresh

/-- What holds of the ledger and the responses so far, and goes on to hold when a response is taken
in, holds after every history. -/
theorem after_keeps (Holds : Ledger → List SearchResponse → Prop)
    (takes : ∀ ledger responses response elapsed, Holds ledger responses →
      Holds (ledger.take response elapsed) (responses ++ [response]))
    (keeps : e.Keeps ledger) (initially : Holds ledger []) (history : List Happening) :
    ∃ later, (e.after history).Keeps later ∧ Holds later (e.responses history) := by
  induction history using List.reverseRecOn with
  | nil => exact ⟨ledger, keeps, initially⟩
  | append_singleton history happening ih =>
    obtain ⟨later, kept, holds⟩ := ih
    obtain ⟨elapsed, left⟩ := kept.undergo happening
    rw [after_concat, responses_concat]
    refine ⟨_, left, ?_⟩
    cases ((e.after history).undergo happening).2.response with
    | none => simpa using holds
    | some response => exact takes later _ response elapsed holds

end Engine
end Concordance
