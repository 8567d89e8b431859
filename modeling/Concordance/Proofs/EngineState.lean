import Concordance.Engine.Search
import Concordance.Proofs.OptionsKey

/-! What the operations of an engine do to what it has published and remembers, and what a search
answers. All else, the reports, spans and counts, goes its own way and decides nothing. -/
namespace Concordance

namespace Engine

structure Published where
  settings : Settings
  snapshot : Snapshot
  publication : Nat
  cache : Option CacheEntry

def published (e : Engine) : Published := ⟨e.settings, e.snapshot, e.publication, e.cache⟩

@[simp] theorem report_published (e : Engine) (events : List LogEvent) :
    (e.report events).published = e.published := rfl

@[simp] theorem record_published (e : Engine) (response : SearchResponse) (elapsed : Binary64) :
    (e.record response elapsed).published = e.published := rfl

end Engine

namespace SearchResponse

def ofListing (query : Text) : Except Failure Listing → SearchResponse
  | .error f =>
    { query, error := some (.failed f), searchType := some (Findings.searchTypeOf query) }
  | .ok (results, total) =>
    { query, results, total, searchType := some (Findings.searchTypeOf query) }

def Evaluated (response : SearchResponse) : Prop := ∀ f, response.error ≠ some (.failed f)

theorem evaluated_of_ok {response : SearchResponse} (ok : response.error = none) :
    response.Evaluated := fun f failed => by
  cases ok.symm.trans failed

theorem not_evaluated_ofListing (query : Text) (f : Failure) :
    ¬(ofListing query (.error f)).Evaluated := fun evaluated => evaluated f rfl

end SearchResponse

namespace Engine
variable {e : Engine} {query : Text} {options other : SearchOptions} {elapsed : Binary64}
  {documents : Value} {s : Settings} {snapshot : Snapshot}

theorem conclude_response (e : Engine) (task : SearchTask) (listing : Except Failure Listing)
    (elapsed : Binary64) :
    (e.conclude task listing elapsed).2 = SearchResponse.ofListing task.query listing := by
  cases listing <;> rfl

theorem commit_published (e : Engine) (task : SearchTask) (response : SearchResponse) :
    (e.commit task response).published =
      if e.publication = task.publication then
        { e.published with cache := some ⟨task.query, task.key, task.publication, response⟩ }
      else e.published := by
  unfold commit
  split <;> rfl

theorem conclude_published (e : Engine) (task : SearchTask) (listing : Listing)
    (elapsed : Binary64) : (e.conclude task (.ok listing) elapsed).1.published =
      (e.commit task (.ofListing task.query (.ok listing))).published := by
  obtain ⟨results, total⟩ := listing
  unfold conclude commit published
  by_cases same : e.publication = task.publication <;>
    simp [same, record, report, setAttribute, trace, SearchResponse.ofListing,
      SearchTask.searchType]

inductive Dispatched (e : Engine) (query : Text) (options : SearchOptions) (elapsed : Binary64) :
    Engine × (SearchResponse ⊕ SearchTask) → Prop
  | short (few : query.length < e.settings.minQueryLength) :
    Dispatched e query options elapsed (e, .inl { query })
  | notReady (enough : ¬query.length < e.settings.minQueryLength)
    (unready : e.snapshot.isReady = false) :
    Dispatched e query options elapsed
      (e.report [notReadyReport e.name], .inl { query, error := some .notReady })
  | remembered (enough : ¬query.length < e.settings.minQueryLength)
    (ready : e.snapshot.isReady = true) (response : SearchResponse)
    (known : e.remembered? (e.task query options) = some response) :
    Dispatched e query options elapsed (e.record response elapsed, .inl response)
  | task (enough : ¬query.length < e.settings.minQueryLength)
    (ready : e.snapshot.isReady = true)
    (unknown : e.remembered? (e.task query options) = none) :
    Dispatched e query options elapsed
      (e.enter "fast_search.search"
        [("search.type", .text (e.task query options).searchType.name),
         ("search.query_length", .int query.length)], .inr (e.task query options))

theorem dispatched (e : Engine) (query : Text) (options : SearchOptions) (elapsed : Binary64) :
    Dispatched e query options elapsed (e.dispatch query options elapsed) := by
  by_cases few : query.length < e.settings.minQueryLength
  · simpa [dispatch, few] using Dispatched.short few
  cases ready : e.snapshot.isReady with
  | false => simpa [dispatch, few, ready] using Dispatched.notReady few ready
  | true =>
    cases known : e.remembered? (e.task query options) with
    | some response =>
      simpa [dispatch, few, ready, known] using Dispatched.remembered few ready response known
    | none => simpa [dispatch, few, ready, known] using Dispatched.task few ready known

/-- What a search answers and what it leaves behind, by how it is settled. -/
inductive Searched (e : Engine) (query : Text) (options : SearchOptions) :
    Published → SearchResponse → Prop
  | short (few : query.length < e.settings.minQueryLength) :
    Searched e query options e.published { query }
  | notReady (enough : ¬query.length < e.settings.minQueryLength)
    (unready : e.snapshot.isReady = false) :
    Searched e query options e.published { query, error := some .notReady }
  | remembered (enough : ¬query.length < e.settings.minQueryLength)
    (ready : e.snapshot.isReady = true) (response : SearchResponse)
    (known : e.remembered? (e.task query options) = some response) :
    Searched e query options e.published response
  | failed (enough : ¬query.length < e.settings.minQueryLength)
    (ready : e.snapshot.isReady = true)
    (unknown : e.remembered? (e.task query options) = none) (f : Failure)
    (found : (Findings.find Binary64 e.settings e.snapshot query options).listing = .error f) :
    Searched e query options e.published (.ofListing query (.error f))
  | answered (enough : ¬query.length < e.settings.minQueryLength)
    (ready : e.snapshot.isReady = true)
    (unknown : e.remembered? (e.task query options) = none) (listing : Listing)
    (found : (Findings.find Binary64 e.settings e.snapshot query options).listing = .ok listing) :
    Searched e query options
      (e.commit (e.task query options) (.ofListing query (.ok listing))).published
      (.ofListing query (.ok listing))

theorem searched (e : Engine) (query : Text) (options : SearchOptions) (elapsed : Binary64) :
    Searched e query options (e.search query options elapsed).1.published
      (e.search query options elapsed).2 := by
  have way := dispatched e query options elapsed
  unfold search
  generalize e.dispatch query options elapsed = dispatch at way ⊢
  cases way with
  | short few => exact .short few
  | notReady enough unready => exact .notReady enough unready
  | remembered enough ready response known => exact .remembered enough ready response known
  | task enough ready unknown =>
    dsimp only
    rw [conclude_response]
    change Searched e query options (Engine.conclude _ _ (Findings.find Binary64 e.settings
      e.snapshot query options).listing elapsed).1.published (.ofListing query
        (Findings.find Binary64 e.settings e.snapshot query options).listing)
    cases found : (Findings.find Binary64 e.settings e.snapshot query options).listing with
    | error f => exact .failed enough ready unknown f found
    | ok listing =>
      have settled := Searched.answered enough ready unknown listing found
      rw [commit_published] at settled
      rw [conclude_published, commit_published]
      exact settled

/-- The answer to a search by an engine that has published a snapshot and remembers nothing. -/
def answerOn (s : Settings) (snapshot : Snapshot) (query : Text) (options : SearchOptions) :
    SearchResponse :=
  (({ settings := s, snapshot } : Engine).search query options .zero).2

theorem Searched.response_eq {published : Published} {response : SearchResponse}
    (settled : Searched e query options published response)
    (unknown : e.remembered? (e.task query options) = none) :
    response = if query.length < e.settings.minQueryLength then { query }
      else if e.snapshot.isReady then
        .ofListing query (Findings.find Binary64 e.settings e.snapshot query options).listing
      else { query, error := some .notReady } := by
  cases settled with
  | short few => rw [if_pos few]
  | notReady enough unready => simp [enough, unready]
  | remembered _ _ response known => cases unknown.symm.trans known
  | failed enough ready _ f found => rw [if_neg enough, if_pos ready, found]
  | answered enough ready _ listing found => rw [if_neg enough, if_pos ready, found]

theorem answerOn_eq (s : Settings) (snapshot : Snapshot) (query : Text) (options : SearchOptions) :
    answerOn s snapshot query options =
      if query.length < s.minQueryLength then { query }
      else if snapshot.isReady then
        .ofListing query (Findings.find Binary64 s snapshot query options).listing
      else { query, error := some .notReady } :=
  (searched { settings := s, snapshot } query options .zero).response_eq rfl

theorem search_eq_answerOn (unknown : e.remembered? (e.task query options) = none)
    (elapsed : Binary64) :
    (e.search query options elapsed).2 = answerOn e.settings e.snapshot query options :=
  ((searched e query options elapsed).response_eq unknown).trans (answerOn_eq ..).symm

theorem answerOn_cached (s : Settings) (snapshot : Snapshot) (query : Text)
    (options : SearchOptions) : (answerOn s snapshot query options).cached = false := by
  rw [answerOn_eq]
  split
  · rfl
  split
  · unfold SearchResponse.ofListing
    split <;> rfl
  · rfl

theorem answerOn_eq_of_key_eq (first : options.Plain) (second : other.Plain)
    (same : options.key s = other.key s) (mine : (answerOn s snapshot query options).Evaluated)
    (others : (answerOn s snapshot query other).Evaluated) :
    answerOn s snapshot query options = answerOn s snapshot query other := by
  rw [answerOn_eq] at mine others ⊢
  rw [answerOn_eq]
  split
  · rfl
  next enough =>
    rw [if_neg enough] at mine others
    split
    next ready =>
      rw [if_pos ready] at mine others
      cases found : (Findings.find Binary64 s snapshot query options).listing with
      | error f =>
        rw [found] at mine
        exact absurd mine (SearchResponse.not_evaluated_ofListing query f)
      | ok listing =>
        cases listed : (Findings.find Binary64 s snapshot query other).listing with
        | error f =>
          rw [listed] at others
          exact absurd others (SearchResponse.not_evaluated_ofListing query f)
        | ok further => rw [Findings.find_eq_of_key_eq first second same found listed]
    next => rfl

theorem remembered?_eq_some {task : SearchTask} {response : SearchResponse} :
    e.remembered? task = some response ↔ ∃ entry, e.cache = some entry ∧
      entry.query = task.query ∧ entry.key = task.key ∧ entry.publication = task.publication ∧
      response = { entry.response with cached := true } := by
  unfold remembered?
  cases e.cache with
  | none => simp
  | some entry =>
    simp only [Option.ite_none_right_eq_some, Bool.and_eq_true, decide_eq_true_eq,
      Option.some.injEq, and_assoc, exists_eq_left', @eq_comm _ response]

end Engine

/-- Whether a remembered answer is the one that its key has on a snapshot. -/
def CacheEntry.Holds (entry : CacheEntry) (s : Settings) (snapshot : Snapshot) : Prop :=
  entry.response.error = none ∧ ∃ options : SearchOptions, options.Plain ∧
    options.key s = entry.key ∧ Engine.answerOn s snapshot entry.query options = entry.response

namespace CacheEntry
variable {entry : CacheEntry} {s : Settings} {snapshot : Snapshot} {query : Text}
  {options : SearchOptions}

theorem Holds.answer (holds : entry.Holds s snapshot) (plain : options.Plain)
    (same : options.key s = entry.key)
    (evaluated : (Engine.answerOn s snapshot entry.query options).Evaluated) :
    entry.response = Engine.answerOn s snapshot entry.query options := by
  obtain ⟨ok, other, known, key, response⟩ := holds
  have fine : (Engine.answerOn s snapshot entry.query other).Evaluated :=
    response ▸ SearchResponse.evaluated_of_ok ok
  rw [← response]
  exact Engine.answerOn_eq_of_key_eq known plain (key.trans same.symm) fine evaluated

theorem Holds.uncached (holds : entry.Holds s snapshot) :
    { entry.response with cached := false } = entry.response := by
  obtain ⟨_, options, _, _, response⟩ := holds
  have fresh := Engine.answerOn_cached s snapshot entry.query options
  rw [response] at fresh
  rw [← fresh]

theorem holds_of_listing (publication : Nat) {listing : Listing} (plain : options.Plain)
    (enough : ¬query.length < s.minQueryLength) (ready : snapshot.isReady = true)
    (found : (Findings.find Binary64 s snapshot query options).listing = .ok listing) :
    (CacheEntry.mk query (options.key s) publication (.ofListing query (.ok listing))).Holds s
      snapshot := by
  refine ⟨rfl, options, plain, rfl, ?_⟩
  rw [Engine.answerOn_eq, if_neg enough, if_pos ready, found]

end CacheEntry

namespace Engine
variable {e : Engine} {query : Text} {options other : SearchOptions} {elapsed : Binary64}
  {documents : Value} {s : Settings} {snapshot : Snapshot}

def indexed (s : Settings) (documents : Value) : Except IndexError Snapshot :=
  (collection documents).bind (index s)

theorem reject_published (e : Engine) (error : IndexError) (elapsed : Binary64) :
    (e.reject error elapsed).published = e.published := rfl

theorem install_published (e : Engine) (snapshot : Snapshot) (elapsed : Binary64) :
    (e.install snapshot elapsed).published = (e.publish snapshot).published := by
  unfold install
  cases snapshot.isReady <;> rfl

theorem rebuild_published (e : Engine) (documents : Value) (elapsed : Binary64) :
    ((e.rebuild documents elapsed).1.published, (e.rebuild documents elapsed).2) =
      match indexed e.settings documents with
      | .ok snapshot => ((e.publish snapshot).published, true)
      | .error _ => (e.published, false) := by
  unfold rebuild indexed
  cases collection documents with
  | error error =>
    simp only [reject_published]
    rfl
  | ok members =>
    have kept : ((e.enter "fast_search.index.build" []).setAttribute "search.documents"
        (.int members.length)).settings = e.settings := rfl
    simp only [Except.bind, kept]
    cases index e.settings members with
    | error error =>
      simp only [reject_published]
      rfl
    | ok snapshot =>
      simp only [install_published]
      rfl

theorem update_published (e : Engine) (documents : Value) (elapsed : Binary64) :
    ((e.update documents elapsed).1.published, (e.update documents elapsed).2) =
      match indexed e.settings documents with
      | .ok snapshot => ((e.publish snapshot).published, true)
      | .error _ => (e.published, false) :=
  rebuild_published { e with indexing := true } documents elapsed

end Engine
end Concordance
