import Concordance.Proofs.EngineState
import Concordance.Proofs.Indexing
import Mathlib.Data.List.Induction

/-! Runs of an engine. Whatever was indexed, searched, remembered and cleared before, a search is
answered as by a fresh engine that holds the collection accepted last: an answer that is remembered
is the one its key has on the snapshot published now. -/
namespace Concordance

namespace Engine
variable {e : Engine} {query : Text} {options : SearchOptions} {elapsed : Binary64}
  {documents : Value} {s : Settings} {entry : CacheEntry}

/-- Whether what is remembered is an answer on the snapshot published now. -/
def Published.Sound (p : Published) : Prop :=
  ∀ entry, p.cache = some entry →
    entry.publication = p.publication ∧ entry.Holds p.settings p.snapshot

theorem search_sound (sound : e.published.Sound) (query : Text) (plain : options.Plain)
    (elapsed : Binary64) :
    (e.search query options elapsed).1.published.Sound ∧
      (e.search query options elapsed).1.settings = e.settings ∧
      (e.search query options elapsed).1.snapshot = e.snapshot := by
  have settled := searched e query options elapsed
  change _ ∧ (e.search query options elapsed).1.published.settings = _ ∧
    (e.search query options elapsed).1.published.snapshot = _
  generalize (e.search query options elapsed).1.published = left at settled ⊢
  generalize (e.search query options elapsed).2 = response at settled
  cases settled with
  | short | notReady | remembered | failed => exact ⟨sound, rfl, rfl⟩
  | answered enough ready _ listing found =>
    rw [commit_published, if_pos (by rfl)]
    refine ⟨fun entry known => ?_, rfl, rfl⟩
    cases known
    exact ⟨rfl, CacheEntry.holds_of_listing _ plain enough ready found⟩

theorem remembered_answer {task : SearchTask} {response : SearchResponse}
    (sound : e.published.Sound) (plain : task.options.Plain)
    (key : task.key = task.options.key e.settings)
    (known : e.remembered? task = some response) :
    task.publication = e.publication ∧
      ((answerOn e.settings e.snapshot task.query task.options).Evaluated →
        { response with cached := false } =
          answerOn e.settings e.snapshot task.query task.options) := by
  obtain ⟨entry, kept, same, keyed, publication, rfl⟩ := remembered?_eq_some.mp known
  obtain ⟨current, holds⟩ := sound entry kept
  refine ⟨publication.symm.trans current, ?_⟩
  intro evaluated
  rw [← same] at evaluated ⊢
  exact holds.uncached.trans (holds.answer plain (key.symm.trans keyed.symm) evaluated)

theorem search_eq_of_sound (sound : e.published.Sound) (plain : options.Plain)
    (evaluated : (answerOn e.settings e.snapshot query options).Evaluated) (elapsed : Binary64) :
    { (e.search query options elapsed).2 with cached := false } =
      answerOn e.settings e.snapshot query options := by
  have settled := searched e query options elapsed
  generalize (e.search query options elapsed).1.published = left at settled
  generalize (e.search query options elapsed).2 = response at settled ⊢
  rw [answerOn_eq] at evaluated ⊢
  cases settled with
  | short few => rw [if_pos few]
  | notReady enough unready => simp [enough, unready]
  | remembered enough ready response known =>
    rw [← answerOn_eq] at evaluated ⊢
    obtain ⟨_, answer⟩ := remembered_answer sound plain rfl known
    exact answer evaluated
  | failed enough ready _ f found =>
    rw [if_neg enough, if_pos ready, found]
    rfl
  | answered enough ready _ listing found =>
    rw [if_neg enough, if_pos ready, found]
    rfl

/-- The snapshot of a collection, the empty one if it cannot be indexed. -/
def snapshotOf (s : Settings) (documents : Value) : Snapshot :=
  match indexed s documents with
  | .ok snapshot => snapshot
  | .error _ => .empty s

theorem snapshotOf_of_ok {snapshot : Snapshot} (built : indexed s documents = .ok snapshot) :
    snapshotOf s documents = snapshot := by
  rw [snapshotOf, built]

theorem snapshotOf_of_error {error : IndexError} (refused : indexed s documents = .error error) :
    snapshotOf s documents = .empty s := by
  rw [snapshotOf, refused]

theorem update_accepted (accepted : (e.update documents elapsed).2 = true) :
    (e.update documents elapsed).1.published.Sound ∧
      (e.update documents elapsed).1.settings = e.settings ∧
      (e.update documents elapsed).1.snapshot = snapshotOf e.settings documents := by
  have left := update_published e documents elapsed
  change _ ∧ (e.update documents elapsed).1.published.settings = _ ∧
    (e.update documents elapsed).1.published.snapshot = _
  split at left
  next snapshot built =>
    obtain ⟨published, _⟩ := Prod.mk.inj left
    rw [published, snapshotOf_of_ok built]
    exact ⟨fun entry known => (by cases known), rfl, rfl⟩
  next error refused =>
    cases accepted.symm.trans (Prod.mk.inj left).2

theorem update_refused (refused : (e.update documents elapsed).2 = false) :
    (e.update documents elapsed).1.published = e.published := by
  have left := update_published e documents elapsed
  split at left
  next snapshot built => cases refused.symm.trans (Prod.mk.inj left).2
  next error refused => exact (Prod.mk.inj left).1

theorem snapshotOf_falsy (falsy : documents.isTruthy = false) :
    snapshotOf s documents = .empty s := by
  cases documents <;> simp_all [Value.isTruthy, snapshotOf, indexed, collection, Value.members?,
    index, Except.bind]

theorem create_published (s : Settings) (name : Text) (documents : Value) (elapsed : Binary64) :
    (create s name documents elapsed).settings = s ∧
      (create s name documents elapsed).snapshot = snapshotOf s documents ∧
      (create s name documents elapsed).cache = none := by
  unfold create
  split
  next given =>
    have left := update_published { settings := s, name, snapshot := .empty s } documents elapsed
    split at left
    next snapshot built =>
      obtain ⟨published, _⟩ := Prod.mk.inj left
      rw [snapshotOf_of_ok built]
      exact ⟨congrArg Published.settings published, congrArg Published.snapshot published,
        congrArg Published.cache published⟩
    next error refused =>
      obtain ⟨published, _⟩ := Prod.mk.inj left
      rw [snapshotOf_of_error refused]
      exact ⟨congrArg Published.settings published, congrArg Published.snapshot published,
        congrArg Published.cache published⟩
  next missing => exact ⟨rfl, (snapshotOf_falsy (Bool.eq_false_iff.mpr missing)).symm, rfl⟩

theorem create_search (s : Settings) (name : Text) (documents : Value) (began : Binary64)
    (query : Text) (options : SearchOptions) (elapsed : Binary64) :
    ((create s name documents began).search query options elapsed).2 =
      answerOn s (snapshotOf s documents) query options := by
  obtain ⟨settings, snapshot, cache⟩ := create_published s name documents began
  have unknown (task : SearchTask) : (create s name documents began).remembered? task = none := by
    rw [remembered?, cache]
  rw [search_eq_answerOn (unknown _), settings, snapshot]

inductive Operation where
  | update (documents : Value) (elapsed : Binary64)
  | search (query : Text) (options : SearchOptions) (elapsed : Binary64)
  | searchWith (query : Text) (options : Value) (elapsed : Binary64)
  | clearCache
  | statistics

def Operation.Plain : Operation → Prop
  | search _ options _ => options.Plain
  | searchWith _ data _ => ∀ options, readOptions data = .ok options → options.Plain
  | _ => True

def perform (e : Engine) : Operation → Engine × Option SearchResponse
  | .update documents elapsed => ((e.update documents elapsed).1, none)
  | .search query options elapsed =>
    let (e, response) := e.search query options elapsed
    (e, some response)
  | .searchWith query data elapsed =>
    let (e, response) := e.searchWith query data elapsed
    (e, some response)
  | .clearCache => (e.clearCache, none)
  | .statistics => (e, none)

end Engine

/-- An engine with the collection that it accepted last. -/
structure Session where
  engine : Engine
  held : Value

namespace Session
open Engine
variable {s : Settings} {name : Text} {documents : Value} {elapsed : Binary64} {session : Session}
  {operation : Operation} {operations : List Operation}

def heldAfter (e : Engine) (held documents : Value) (elapsed : Binary64) : Value :=
  if (e.update documents elapsed).2 then documents else held

def start (s : Settings) (name : Text) (documents : Value) (elapsed : Binary64) : Session :=
  { engine := .create s name documents elapsed
    held := if documents.isTruthy then
        heldAfter { settings := s, name, snapshot := .empty s } .null documents elapsed
      else .null }

def perform (session : Session) (operation : Operation) : Session :=
  { engine := (session.engine.perform operation).1
    held := match operation with
      | .update documents elapsed => heldAfter session.engine session.held documents elapsed
      | _ => session.held }

def run (session : Session) (operations : List Operation) : Session :=
  operations.foldl perform session

/-- What every session has in common: its engine searches what it holds, and remembers nothing but
an answer to that. -/
structure Sound (s : Settings) (session : Session) : Prop where
  settings : session.engine.settings = s
  snapshot : session.engine.snapshot = snapshotOf s session.held
  cache : session.engine.published.Sound

theorem update_sound (sound : Sound s session) (documents : Value) (elapsed : Binary64) :
    Sound s ⟨(session.engine.update documents elapsed).1,
      heldAfter session.engine session.held documents elapsed⟩ := by
  cases accepted : (session.engine.update documents elapsed).2 with
  | true =>
    obtain ⟨cache, settings, snapshot⟩ := update_accepted accepted
    simp only [heldAfter, accepted, if_true]
    exact ⟨settings.trans sound.settings, snapshot.trans (by rw [sound.settings]), cache⟩
  | false =>
    have kept := update_refused accepted
    simp only [heldAfter, accepted, Bool.false_eq_true, if_false]
    exact ⟨(congrArg Published.settings kept).trans sound.settings,
      (congrArg Published.snapshot kept).trans sound.snapshot, kept ▸ sound.cache⟩

theorem start_sound (s : Settings) (name : Text) (documents : Value) (elapsed : Binary64) :
    Sound s (start s name documents elapsed) := by
  have empty : Sound s ⟨{ settings := s, name, snapshot := .empty s }, .null⟩ :=
    ⟨rfl, rfl, fun entry known => by cases known⟩
  unfold start create
  split
  · exact update_sound empty documents elapsed
  · exact empty

theorem perform_sound (sound : Sound s session) (plain : operation.Plain) :
    Sound s (session.perform operation) := by
  have searched (query : Text) (options : SearchOptions) (elapsed : Binary64)
      (plain : options.Plain) :
      Sound s ⟨(session.engine.search query options elapsed).1, session.held⟩ := by
    obtain ⟨cache, settings, snapshot⟩ := search_sound sound.cache query plain elapsed
    exact ⟨settings.trans sound.settings, snapshot.trans sound.snapshot, cache⟩
  cases operation with
  | update documents elapsed => exact update_sound sound documents elapsed
  | search query options elapsed => exact searched query options elapsed plain
  | searchWith query data elapsed =>
    cases read : readOptions data with
    | error issues =>
      simp only [perform, Engine.perform, searchWith, read]
      exact ⟨sound.settings, sound.snapshot, sound.cache⟩
    | ok options =>
      simp only [perform, Engine.perform, searchWith, read]
      exact searched query options elapsed (plain options read)
  | clearCache => exact ⟨sound.settings, sound.snapshot, fun entry known => by cases known⟩
  | statistics => exact ⟨sound.settings, sound.snapshot, sound.cache⟩

theorem run_sound (sound : Sound s session) (plain : ∀ operation ∈ operations, operation.Plain) :
    Sound s (session.run operations) := by
  induction operations generalizing session with
  | nil => exact sound
  | cons operation operations ih =>
    obtain ⟨first, later⟩ := List.forall_mem_cons.mp plain
    exact ih (perform_sound sound first) later

/-- After any run a search that a fresh engine with the collection held answers is answered alike,
but for being remembered. Plain options of equal keys are answered alike in particular. -/
theorem run_answers_as_fresh (s : Settings) (name other : Text) (documents : Value)
    (elapsed began : Binary64) (operations : List Operation)
    (plain : ∀ operation ∈ operations, operation.Plain) :
    let session := (start s name documents elapsed).run operations
    let fresh := Engine.create s other session.held began
    (∀ (operation : Operation) (expected : SearchResponse), operation.Plain →
      (fresh.perform operation).2 = some expected → expected.error = none →
      ∃ response, (session.engine.perform operation).2 = some response ∧
        { response with cached := false } = expected) ∧
    ∀ (query : Text) (options others : SearchOptions) (took later : Binary64), options.Plain →
      others.Plain → options.key s = others.key s →
      (fresh.search query options took).2.error = none →
      (fresh.search query others later).2.error = none →
      (fresh.search query options took).2 = (fresh.search query others later).2 := by
  intro session fresh
  have sound : Sound s session := run_sound (start_sound s name documents elapsed) plain
  have searched (query : Text) (options : SearchOptions) (took : Binary64) (known : options.Plain)
      (ok : (fresh.search query options took).2.error = none) :
      { (session.engine.search query options took).2 with cached := false } =
        (fresh.search query options took).2 := by
    simp only [fresh, create_search] at ok ⊢
    rw [← sound.snapshot, ← sound.settings] at ok ⊢
    exact search_eq_of_sound sound.cache known (SearchResponse.evaluated_of_ok ok) took
  constructor
  · intro operation expected known answered ok
    cases operation with
    | search query options took =>
      cases answered
      exact ⟨_, rfl, searched query options took known ok⟩
    | searchWith query data took =>
      simp only [Engine.perform, searchWith] at answered ⊢
      cases read : readOptions data with
      | error issues =>
        rw [read] at answered
        cases answered
        cases ok
      | ok options =>
        rw [read] at answered
        cases answered
        exact ⟨_, rfl, searched query options took (known options read) ok⟩
    | update | clearCache | statistics => cases answered
  · intro query options others took later known plain same mine theirs
    simp only [fresh, create_search] at mine theirs ⊢
    exact answerOn_eq_of_key_eq known plain same (SearchResponse.evaluated_of_ok mine)
      (SearchResponse.evaluated_of_ok theirs)

def cats : Value := .list [.map [("text".toList, .text "cat".toList)]]

def catIndex : Snapshot :=
  { plan := Settings.fieldPlan {}
    documents := [.record [("text".toList, .text "cat".toList)]]
    summaries := [Snapshot.summarize 5 0 "cat".toList]
    entries := [("cat".toList, [0])] }

theorem cats_indexed : indexed {} cats = .ok catIndex := by
  change Snapshot.build {} [.map [("text".toList, .text "cat".toList)]] = _
  exact Snapshot.build_eq_ok.mpr ⟨[(.record [("text".toList, .text "cat".toList)],
    "cat".toList)], by rfl, Snapshot.ofTexts_one_word (by decide)⟩

def catSearches : List Operation :=
  [.search "+cat".toList {} .zero, .clearCache, .search "+cat".toList {} .zero]

theorem cats_held : ((start {} "cats".toList cats .zero).run catSearches).held = cats := by
  have left := update_published { settings := {}, name := "cats".toList, snapshot := .empty {} }
    cats .zero
  rw [show indexed _ cats = .ok catIndex from cats_indexed] at left
  change heldAfter { settings := {}, name := "cats".toList, snapshot := .empty {} } .null cats
    .zero = cats
  rw [heldAfter, (Prod.mk.inj left).2, if_pos rfl]

def catAnswer : SearchResponse :=
  { query := "+cat".toList, total := 1, searchType := some .boolean
    results := [⟨0, 100, 1, 1, .boolean, "<mark class=\"fast-highlight\">cat</mark>".toList⟩] }

theorem cats_answered : answerOn {} (snapshotOf {} cats) "+cat".toList {} = catAnswer := by
  rw [snapshotOf, cats_indexed, answerOn_eq]
  decide +kernel

theorem cats_answered_uncapped : (answerOn {} (snapshotOf {} cats) "+cat".toList
    { maxResults := some 0 }).error = none := by
  rw [snapshotOf, cats_indexed, answerOn_eq]
  decide +kernel

theorem catSearches_plain : ∀ operation ∈ catSearches, operation.Plain := by
  intro operation member
  simp only [catSearches, List.mem_cons, List.not_mem_nil, or_false] at member
  rcases member with rfl | rfl | rfl <;> simp [Operation.Plain, SearchOptions.Plain]

theorem cats_answered_as_fresh :
    (∃ response, (((start {} "cats".toList cats .zero).run catSearches).engine.perform
      (.search "+cat".toList {} .zero)).2 = some response ∧
      { response with cached := false } = catAnswer) ∧
    ((create {} "fresh".toList cats .zero).search "+cat".toList {} .zero).2 =
      ((create {} "fresh".toList cats .zero).search "+cat".toList { maxResults := some 0 }
        .zero).2 := by
  obtain ⟨answers, keys⟩ := run_answers_as_fresh {} "cats".toList "fresh".toList cats .zero .zero
    catSearches catSearches_plain
  rw [cats_held] at answers keys
  constructor
  · refine answers (.search "+cat".toList {} .zero) catAnswer ?_ ?_ rfl
    · simp [Operation.Plain, SearchOptions.Plain]
    · exact congrArg some ((create_search ..).trans cats_answered)
  · refine keys "+cat".toList {} { maxResults := some 0 } .zero .zero ?_ ?_ rfl ?_ ?_
    · simp [SearchOptions.Plain]
    · simp [SearchOptions.Plain]
    · rw [create_search, cats_answered]
      rfl
    · rw [create_search, cats_answered_uncapped]

end Session
end Concordance
