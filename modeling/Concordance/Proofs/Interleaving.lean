import Concordance.Proofs.EngineRun

/-! Searches, updates and clears side by side. Each takes its steps in order, the steps of
different ones in any order. A search answers on the snapshot that it read first, and what is
remembered is always an answer on the snapshot published now: an answer is committed only to the
publication it was found on. -/
namespace Concordance

inductive Process where
  | asked (query : Text) (options : SearchOptions)
  | holding (task : SearchTask)
  | missed (task : SearchTask)
  | listed (task : SearchTask) (listing : Except Failure Listing)
  | returned (response : SearchResponse)
  | updating (documents : Value)
  | built (outcome : Except IndexError Snapshot)
  | clearing
  | done

namespace Process
open Engine

def step (e : Engine) : Process → Engine × Process
  | asked query options =>
    if query.length < e.settings.minQueryLength then (e, returned { query })
    else if e.snapshot.isReady then (e, holding (e.task query options))
    else (e, returned { query, error := some .notReady })
  | holding task =>
    match e.remembered? task with
    | some response => (e, returned response)
    | none => (e, missed task)
  | missed task => (e, listed task (task.findings e.settings).listing)
  | listed task (.ok listing) =>
    let response := .ofListing task.query (.ok listing)
    (e.commit task response, returned response)
  | listed task (.error f) => (e, returned (.ofListing task.query (.error f)))
  | returned response => (e, returned response)
  | updating documents => (e, built (indexed e.settings documents))
  | built (.ok snapshot) => (e.publish snapshot, done)
  | built (.error _) => (e, done)
  | clearing => (e.clearCache, done)
  | done => (e, done)

def steps (e : Engine) (p : Process) : Nat → Engine × Process
  | 0 => (e, p)
  | n + 1 => let (e, p) := p.step e; steps e p n

variable {e : Engine} {p : Process} {s : Settings} {query : Text} {options : SearchOptions}
  {snapshot : Snapshot}

theorem task_query (e : Engine) (query : Text) (options : SearchOptions) :
    (e.task query options).query = query := rfl

/-- Without anything between its steps a search does what it does alone. -/
theorem steps_search (e : Engine) (query : Text) (options : SearchOptions) (elapsed : Binary64) :
    (steps e (asked query options) 4).1.published = (e.search query options elapsed).1.published ∧
      (steps e (asked query options) 4).2 = returned (e.search query options elapsed).2 := by
  have settled := searched e query options elapsed
  generalize (e.search query options elapsed).1.published = left at settled ⊢
  generalize (e.search query options elapsed).2 = response at settled ⊢
  cases settled with
  | short few => simp [steps, step, few]
  | notReady enough unready => simp [steps, step, enough, unready]
  | remembered enough ready response known => simp [steps, step, enough, ready, known]
  | failed enough ready unknown f found =>
    have listing : ((e.task query options).findings e.settings).listing = .error f := found
    simp [steps, step, enough, ready, unknown, listing, task_query]
  | answered enough ready unknown listing found =>
    have listing : ((e.task query options).findings e.settings).listing = .ok listing := found
    simp [steps, step, enough, ready, unknown, listing, task_query]

theorem steps_update (e : Engine) (documents : Value) (elapsed : Binary64) :
    (steps e (updating documents) 2).1.published = (e.update documents elapsed).1.published := by
  have left := update_published e documents elapsed
  simp only [steps, step]
  split at left
  next snapshot built =>
    rw [built, (Prod.mk.inj left).1]
  next error refused =>
    rw [refused, (Prod.mk.inj left).1]

end Process

namespace SearchTask

structure Fits (s : Settings) (e : Engine) (task : SearchTask) : Prop where
  plain : task.options.Plain
  key : task.key = task.options.key s
  enough : ¬task.query.length < s.minQueryLength
  ready : task.snapshot.isReady = true
  behind : task.publication ≤ e.publication
  current : task.publication = e.publication → task.snapshot = e.snapshot

end SearchTask

namespace Engine

/-- Whether an engine may have come from another: publications are counted up, and what is
published under a number stays. -/
def Follows (e f : Engine) : Prop :=
  e.publication ≤ f.publication ∧ (e.publication = f.publication → f.snapshot = e.snapshot)

end Engine

theorem SearchTask.Fits.follow {s : Settings} {e f : Engine} {task : SearchTask}
    (fits : task.Fits s e) (follows : e.Follows f) : task.Fits s f := by
  obtain ⟨later, kept⟩ := follows
  refine { fits with behind := fits.behind.trans later, current := fun same => ?_ }
  have unchanged : e.publication = f.publication :=
    Nat.le_antisymm later (same ▸ fits.behind)
  rw [kept unchanged]
  exact fits.current (same.trans unchanged.symm)

namespace Process
open Engine
variable {e f : Engine} {p : Process} {s : Settings} {query : Text} {options : SearchOptions}
  {snapshot : Snapshot}

def Begins : Process → Prop
  | asked _ options => options.Plain
  | updating _ | clearing => True
  | _ => False

def Fits (s : Settings) (e : Engine) : Process → Prop
  | asked _ options => options.Plain
  | holding task | missed task => task.Fits s e
  | listed task listing => task.Fits s e ∧
    (Findings.find Binary64 s task.snapshot task.query task.options).listing = listing
  | _ => True

theorem Fits.follow (fits : p.Fits s e) (follows : e.Follows f) : p.Fits s f := by
  cases p with
  | holding task | missed task => exact SearchTask.Fits.follow fits follows
  | listed task listing => exact ⟨SearchTask.Fits.follow fits.1 follows, fits.2⟩
  | _ => exact fits

theorem step_fits (settings : e.settings = s) (sound : e.published.Sound) (fits : p.Fits s e) :
    (p.step e).1.settings = s ∧ (p.step e).1.published.Sound ∧ e.Follows (p.step e).1 ∧
      (p.step e).2.Fits s (p.step e).1 := by
  subst settings
  have same : e.Follows e := ⟨Nat.le_refl _, fun _ => rfl⟩
  have empty {f : Engine} (cleared : f.cache = none) : f.published.Sound := fun entry known => by
    cases cleared.symm.trans known
  unfold step
  split
  case h_1 query options =>
    split
    · exact ⟨rfl, sound, same, trivial⟩
    next enough =>
      split
      next ready =>
        exact ⟨rfl, sound, same, fits, rfl, enough, ready, Nat.le_refl _, fun _ => rfl⟩
      next => exact ⟨rfl, sound, same, trivial⟩
  case h_2 task =>
    split
    · exact ⟨rfl, sound, same, trivial⟩
    · exact ⟨rfl, sound, same, fits⟩
  case h_3 task => exact ⟨rfl, sound, same, fits, rfl⟩
  case h_4 task listing =>
    obtain ⟨known, found⟩ := fits
    unfold commit
    split
    next current =>
      refine ⟨rfl, fun entry kept => ?_, ⟨Nat.le_refl _, fun _ => rfl⟩, trivial⟩
      cases kept
      refine ⟨current.symm, ?_⟩
      have holds := CacheEntry.holds_of_listing task.publication known.plain
        known.enough known.ready found
      rw [← known.key, known.current current.symm] at holds
      exact holds
    next => exact ⟨rfl, sound, same, trivial⟩
  case h_5 => exact ⟨rfl, sound, same, trivial⟩
  case h_6 => exact ⟨rfl, sound, same, trivial⟩
  case h_7 => exact ⟨rfl, sound, same, trivial⟩
  case h_8 snapshot =>
    refine ⟨rfl, empty rfl, ⟨Nat.le_succ _, fun unchanged => ?_⟩, trivial⟩
    exact absurd unchanged (Nat.ne_of_lt (Nat.lt_succ_self _))
  case h_9 => exact ⟨rfl, sound, same, trivial⟩
  case h_10 => exact ⟨rfl, empty rfl, ⟨Nat.le_refl _, fun _ => rfl⟩, trivial⟩
  case h_11 => exact ⟨rfl, sound, same, trivial⟩

/-- Whether a search that has begun goes on, or has answered, as on the snapshot it read. -/
def Serves (s : Settings) (snapshot : Snapshot) (query : Text) (options : SearchOptions) :
    Process → Prop
  | holding task | missed task | listed task _ =>
    task.snapshot = snapshot ∧ task.query = query ∧ task.options = options
  | returned response => (answerOn s snapshot query options).Evaluated →
    { response with cached := false } = answerOn s snapshot query options
  | _ => False

theorem serves_of_asked (settings : e.settings = s) :
    ((asked query options).step e).2.Serves s e.snapshot query options := by
  subst settings
  rw [step]
  split
  next few => exact fun _ => by rw [answerOn_eq, if_pos few]
  next enough =>
    split
    next ready => exact ⟨rfl, rfl, rfl⟩
    next unready => exact fun _ => by rw [answerOn_eq, if_neg enough, if_neg unready]

theorem step_serves (settings : e.settings = s) (sound : e.published.Sound) (fits : p.Fits s e)
    (serves : p.Serves s snapshot query options) :
    (p.step e).2.Serves s snapshot query options := by
  subst settings
  cases p with
  | holding task =>
    obtain ⟨rfl, rfl, rfl⟩ := serves
    rw [step]
    split
    next response remembered =>
      obtain ⟨current, answer⟩ := remembered_answer sound fits.plain fits.key remembered
      rwa [← fits.current current] at answer
    next => exact ⟨rfl, rfl, rfl⟩
  | missed task => exact serves
  | listed task listing =>
    obtain ⟨rfl, rfl, rfl⟩ := serves
    obtain ⟨known, found⟩ := fits
    have answer : answerOn e.settings task.snapshot task.query task.options =
        .ofListing task.query listing := by
      rw [answerOn_eq, if_neg known.enough, if_pos known.ready, found]
    cases listing with
    | ok listing => exact fun _ => by rw [answer]; rfl
    | error f => exact fun _ => by rw [answer]; rfl
  | returned response => exact serves
  | _ => exact serves.elim

end Process

structure World where
  engine : Engine
  processes : List Process

namespace World

def step (w : World) (i : Nat) : World :=
  match w.processes[i]? with
  | none => w
  | some p => { engine := (p.step w.engine).1, processes := w.processes.set i (p.step w.engine).2 }

def run (w : World) (schedule : List Nat) : World := schedule.foldl step w

variable {s : Settings} {w : World} {schedule : List Nat} {i j : Nat} {query : Text}
  {options : SearchOptions} {snapshot : Snapshot}

theorem run_cons (w : World) (i : Nat) (schedule : List Nat) :
    w.run (i :: schedule) = (w.step i).run schedule := rfl

theorem run_append (w : World) (schedule further : List Nat) :
    w.run (schedule ++ further) = (w.run schedule).run further :=
  List.foldl_append

theorem run_concat (w : World) (schedule : List Nat) (i : Nat) :
    w.run (schedule ++ [i]) = (w.run schedule).step i :=
  run_append w schedule [i]

/-- What every interleaving keeps. -/
structure Sound (s : Settings) (w : World) : Prop where
  settings : w.engine.settings = s
  cache : w.engine.published.Sound
  processes : ∀ p ∈ w.processes, p.Fits s w.engine

theorem step_sound (sound : Sound s w) (i : Nat) : Sound s (w.step i) := by
  unfold step
  split
  next => exact sound
  next p place =>
    obtain ⟨settings, cache, follows, fits⟩ := Process.step_fits sound.settings sound.cache
      (sound.processes p (List.mem_of_getElem? place))
    refine ⟨settings, cache, fun other member => ?_⟩
    rcases List.mem_or_eq_of_mem_set member with known | rfl
    · exact (sound.processes other known).follow follows
    · exact fits

theorem run_sound (sound : Sound s w) (schedule : List Nat) : Sound s (w.run schedule) := by
  induction schedule generalizing w with
  | nil => exact sound
  | cons i schedule ih => exact ih (step_sound sound i)

theorem step_other (apart : j ≠ i) : (w.step j).processes[i]? = w.processes[i]? := by
  unfold step
  split
  next => rfl
  next => exact List.getElem?_set_ne apart

theorem step_own {p : Process} (place : w.processes[i]? = some p) :
    (w.step i).processes[i]? = some (p.step w.engine).2 := by
  obtain ⟨within, _⟩ := List.getElem?_eq_some_iff.mp place
  unfold step
  rw [place]
  exact List.getElem?_set_self within

theorem run_waiting (waiting : i ∉ schedule) :
    (w.run schedule).processes[i]? = w.processes[i]? := by
  induction schedule using List.reverseRecOn with
  | nil => rfl
  | append_singleton schedule j ih =>
    simp only [List.mem_append, List.mem_singleton, not_or] at waiting
    rw [run_concat, step_other (Ne.symm waiting.2), ih waiting.1]

theorem run_serves (sound : Sound s w) (asked : w.processes[i]? = some (.asked query options))
    (begun : i ∈ schedule) :
    ∃ earlier later p, schedule = earlier ++ i :: later ∧ i ∉ earlier ∧
      (w.run schedule).processes[i]? = some p ∧
      p.Serves s (w.run earlier).engine.snapshot query options := by
  induction schedule using List.reverseRecOn with
  | nil => cases begun
  | append_singleton schedule j ih =>
    have kept := run_sound sound schedule
    rw [run_concat]
    by_cases already : i ∈ schedule
    · obtain ⟨earlier, later, p, rfl, first, place, serves⟩ := ih already
      by_cases own : j = i
      · subst own
        refine ⟨earlier, later ++ [j], _, by simp, first, step_own place, ?_⟩
        exact Process.step_serves kept.settings kept.cache
          (kept.processes p (List.mem_of_getElem? place)) serves
      · exact ⟨earlier, later ++ [j], p, by simp, first, (step_other own).trans place, serves⟩
    · obtain rfl : i = j := by simpa [already] using begun
      have place := (run_waiting already).trans asked
      exact ⟨schedule, [], _, rfl, already, step_own place,
        Process.serves_of_asked kept.settings⟩

theorem sound_of_begins (s : Settings) (name : Text) (documents : Value) (elapsed : Binary64)
    {processes : List Process} (begins : ∀ p ∈ processes, p.Begins) :
    Sound s ⟨.create s name documents elapsed, processes⟩ := by
  obtain ⟨settings, _, cache⟩ := Engine.create_published s name documents elapsed
  refine ⟨settings, fun entry known => ?_, fun p member => ?_⟩
  · cases cache.symm.trans known
  · have begun := begins p member
    cases p with
    | asked | updating | clearing => exact begun
    | _ => exact begun.elim

/-- However searches, updates and clears are interleaved, what is remembered belongs to the
publication of now and is the answer that its key has on its snapshot, and each search is answered
as on the snapshot that was published when it took its first step. -/
theorem run_answers_on_snapshot_read (s : Settings) (name : Text) (documents : Value)
    (elapsed : Binary64) (processes : List Process) (begins : ∀ p ∈ processes, p.Begins)
    (schedule : List Nat) :
    let start : World := ⟨.create s name documents elapsed, processes⟩
    let reached := start.run schedule
    (∀ entry, reached.engine.cache = some entry →
      entry.publication = reached.engine.publication ∧ entry.Holds s reached.engine.snapshot ∧
      ∀ options : SearchOptions, options.Plain → options.key s = entry.key →
        (Engine.answerOn s reached.engine.snapshot entry.query options).Evaluated →
        entry.response = Engine.answerOn s reached.engine.snapshot entry.query options) ∧
    ∀ (i : Nat) (query : Text) (options : SearchOptions) (response : SearchResponse),
      processes[i]? = some (.asked query options) →
      reached.processes[i]? = some (.returned response) →
      ∃ earlier later, schedule = earlier ++ i :: later ∧ i ∉ earlier ∧
        ((Engine.answerOn s (start.run earlier).engine.snapshot query options).Evaluated →
          { response with cached := false } =
            Engine.answerOn s (start.run earlier).engine.snapshot query options) := by
  intro start reached
  have sound : Sound s start := sound_of_begins s name documents elapsed begins
  have kept : Sound s reached := run_sound sound schedule
  constructor
  · intro entry known
    obtain ⟨publication, holds⟩ := kept.cache entry known
    rw [show reached.engine.published.settings = s from kept.settings] at holds
    exact ⟨publication, holds, fun options plain same evaluated =>
      holds.answer plain same evaluated⟩
  · intro i query options response asked returned
    have begun : i ∈ schedule := by
      by_contra waiting
      have still : reached.processes[i]? = some (.asked query options) :=
        (run_waiting waiting).trans asked
      cases still.symm.trans returned
    obtain ⟨earlier, later, p, split, first, place, serves⟩ := run_serves sound asked begun
    cases place.symm.trans returned
    exact ⟨earlier, later, split, first, serves⟩

def catsLeave : World :=
  ⟨.create {} "cats".toList Session.cats .zero, [.asked "+cat".toList {}, .updating .null]⟩

def overtaking : List Nat := [0, 1, 1, 0, 0, 0]

theorem catsLeave_begins : ∀ p ∈ catsLeave.processes, p.Begins := by
  intro p member
  simp only [catsLeave, List.mem_cons, List.not_mem_nil, or_false] at member
  rcases member with rfl | rfl <;> simp [Process.Begins, SearchOptions.Plain]

theorem catsLeave_settings : catsLeave.engine.settings = {} :=
  (Engine.create_published {} "cats".toList Session.cats .zero).1

theorem catsLeave_snapshot : catsLeave.engine.snapshot = Session.catIndex := by
  have held := (Engine.create_published {} "cats".toList Session.cats .zero).2.1
  rwa [Engine.snapshotOf, Session.cats_indexed] at held

theorem step_first (e : Engine) (p : Process) (others : List Process) :
    step ⟨e, p :: others⟩ 0 = ⟨(p.step e).1, (p.step e).2 :: others⟩ := rfl

theorem run_emptied (e : Engine) (task : SearchTask) :
    run ⟨e, [.holding task, .updating .null]⟩ [1, 1] =
      ⟨e.publish (.empty e.settings), [.holding task, .done]⟩ := rfl

theorem run_returned {e : Engine} (forgotten : e.cache = none) (task : SearchTask)
    (others : List Process) :
    ∃ response, (run ⟨e, .holding task :: others⟩ [0, 0, 0]).processes[0]? =
      some (.returned response) := by
  have unknown : e.remembered? task = none := by
    rw [Engine.remembered?, forgotten]
  have missed : (Process.holding task).step e = (e, .missed task) := by
    rw [Process.step, unknown]
  have listed : (Process.missed task).step e =
      (e, .listed task (task.findings e.settings).listing) := rfl
  rw [run_cons, step_first, missed, run_cons, step_first, listed, run_cons, step_first]
  cases (task.findings e.settings).listing with
  | ok listing => exact ⟨_, rfl⟩
  | error f => exact ⟨_, rfl⟩

theorem catsLeave_returned :
    ∃ response, (catsLeave.run overtaking).processes[0]? = some (.returned response) := by
  have first : (Process.asked "+cat".toList {}).step catsLeave.engine =
      (catsLeave.engine, .holding (catsLeave.engine.task "+cat".toList {})) := by
    rw [Process.step, catsLeave_settings, catsLeave_snapshot]
    rfl
  have read : catsLeave.step 0 = ⟨catsLeave.engine,
      [.holding (catsLeave.engine.task "+cat".toList {}), .updating .null]⟩ := by
    change World.mk (Process.step _ _).1 [(Process.step _ _).2, _] = _
    rw [first]
  rw [overtaking, run_cons, read, show [1, 1, 0, 0, 0] = [1, 1] ++ [0, 0, 0] from rfl, run_append,
    run_emptied]
  exact run_returned rfl _ _

theorem overtaken_search_answers_on_cats :
    ∃ response, (catsLeave.run overtaking).processes[0]? = some (.returned response) ∧
      { response with cached := false } = Session.catAnswer := by
  obtain ⟨response, returned⟩ := catsLeave_returned
  refine ⟨response, returned, ?_⟩
  obtain ⟨_, answers⟩ := run_answers_on_snapshot_read {} "cats".toList Session.cats .zero
    catsLeave.processes catsLeave_begins overtaking
  obtain ⟨earlier, later, split, first, answer⟩ := answers 0 _ _ response rfl returned
  have nothing : earlier = [] := by
    cases earlier with
    | nil => rfl
    | cons i earlier =>
      obtain ⟨rfl, _⟩ := List.cons_eq_cons.mp split
      exact absurd List.mem_cons_self first
  subst nothing
  have held : (run catsLeave []).engine.snapshot = Engine.snapshotOf {} Session.cats :=
    catsLeave_snapshot.trans (by rw [Engine.snapshotOf, Session.cats_indexed])
  change (Engine.answerOn {} (run catsLeave []).engine.snapshot _ _).Evaluated → _ at answer
  change _ → _ = Engine.answerOn {} (run catsLeave []).engine.snapshot _ _ at answer
  rw [held, Session.cats_answered] at answer
  exact answer (SearchResponse.evaluated_of_ok rfl)

end World
end Concordance
