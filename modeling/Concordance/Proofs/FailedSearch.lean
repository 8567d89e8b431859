import Concordance.Proofs.Measurement

/-! Searches that are not served. Every search gets a response, unless the key cannot be written under
which it looks for one; then nothing has happened yet. A response serves the search, or the query is
too short, or the search fails: its options are invalid, nothing is indexed, or a document, a filter
or the evaluation fails on the way. Where it is not served it leaves nothing behind but reports and
spans. -/
namespace Concordance

namespace Value

theorem isOverlong_iff {value : Value} :
    value.isOverlong = true ↔ ∃ n, value = .int n ∧ digitLimit < (Text.ofNat n.natAbs).length := by
  have digits (n : Nat) : (Text.ofNat n).length ≤ digitLimit ↔ n < 10 ^ digitLimit :=
    Nat.length_toDigits_le_iff (by decide) (by decide)
  cases value with
  | int n =>
    rw [isOverlong, decide_eq_true_eq, Nat.pow_eq, ← Nat.not_lt, ← digits, Nat.not_le]
    simp
  | _ => simp [isOverlong]

/-- A value can be written exactly if all it holds can be taken apart and no integer in it has too
many digits. -/
theorem obstacle?_eq_none_iff {value : Value} : value.obstacle? = none ↔
    (∀ part ∈ value.parts false, part.partObstacle? = none) ∧
      ∀ n, .int n ∈ value.parts true → (Text.ofNat n.natAbs).length ≤ digitLimit := by
  rw [obstacle?, Option.or_eq_none_iff, List.findSome?_eq_none_iff]
  refine and_congr_right fun _ => ?_
  rw [ite_eq_right_iff, List.any_eq_true]
  constructor
  · intro short n member
    refine Nat.not_lt.mp fun long => ?_
    cases short ⟨_, member, isOverlong_iff.mpr ⟨n, rfl, long⟩⟩
  · rintro short ⟨_, member, overlong⟩
    obtain ⟨n, rfl, long⟩ := isOverlong_iff.mp overlong
    exact absurd (short n member) (Nat.not_le.mpr long)

end Value

namespace Engine
variable {e : Engine} {query : Text} {options : Read SearchOptions} {valid : SearchOptions}
  {elapsed : Binary64} {error : SearchError} {ledger : Ledger} {f : Failure}

/-- What keeps a search from having a response: it comes to look for one, but not under any key. -/
structure Barred (e : Engine) (query : Text) (options : Read SearchOptions) (f : Failure) : Prop where
  enough : ¬query.length < e.settings.minQueryLength
  ready : e.snapshot.isReady = true
  unwritable : ∃ valid, options = .ok valid ∧ valid.obstacle? = some f

theorem Barred.unique {g : Failure} (barred : Barred e query options f)
    (again : Barred e query options g) : f = g := by
  obtain ⟨_, known, first⟩ := barred.unwritable
  obtain ⟨_, same, second⟩ := again.unwritable
  cases known.symm.trans same
  exact Option.some.inj (first.symm.trans second)

theorem obstacle?_eq_some :
    e.obstacle? query valid = some f ↔ Barred e query (.ok valid) f := by
  unfold obstacle?
  constructor
  · intro found
    split at found
    next => cases found
    next open_ =>
      simp only [Bool.or_eq_true, decide_eq_true_eq, Bool.not_eq_true', not_or,
        Bool.not_eq_false] at open_
      exact ⟨open_.1, open_.2, valid, rfl, found⟩
  · rintro ⟨enough, ready, _, ⟨⟩, found⟩
    simp [enough, ready, found]

inductive Fails (e : Engine) (query : Text) : Read SearchOptions → SearchError → Prop
  | invalidOptions (issues : List Issue) : Fails e query (.error issues) (.invalidOptions issues)
  | notReady (options : SearchOptions) (enough : ¬query.length < e.settings.minQueryLength)
    (unready : e.snapshot.isReady = false) : Fails e query (.ok options) .notReady
  | failed (options : SearchOptions) (enough : ¬query.length < e.settings.minQueryLength)
    (ready : e.snapshot.isReady = true)
    (unknown : e.remembered? (e.task query options) = none) (f : Failure)
    (found : (Findings.find Binary64 e.settings e.snapshot query options).listing = .error f) :
    Fails e query (.ok options) (.failed f)

inductive Ended (e : Engine) (query : Text) (elapsed : Binary64) :
    Read SearchOptions → Engine → SearchResponse → Prop
  | short (options : SearchOptions) (few : query.length < e.settings.minQueryLength) :
    Ended e query elapsed (.ok options) e { query }
  | failed (options : Read SearchOptions) (error : SearchError)
    (fails : Fails e query options error) (searchType : Option SearchType) (logs : List LogEvent)
    (tracer : Tracer) : Ended e query elapsed options { e with logs, tracer }
      { query, error := some error, searchType }
  | served (options : SearchOptions) (enough : ¬query.length < e.settings.minQueryLength)
    (ready : e.snapshot.isReady = true)
    (known : ∀ f, (Findings.find Binary64 e.settings e.snapshot query options).listing = .error f →
      e.remembered? (e.task query options) ≠ none)
    (left : Engine) (response : SearchResponse) (served : response.served = true)
    (measured : left.telemetry = e.telemetry.recordSearch e.name
      (response.searchType.getD .fast).name response.cached (seconds elapsed)) :
    Ended e query elapsed (.ok options) left response

theorem conclude_ended (enough : ¬query.length < e.settings.minQueryLength)
    (ready : e.snapshot.isReady = true) (unknown : e.remembered? (e.task query valid) = none)
    (elapsed : Binary64) (logs : List LogEvent) (tracer : Tracer) :
    let listing := (Findings.find Binary64 e.settings e.snapshot query valid).listing
    let left := Engine.conclude { e with logs, tracer } (e.task query valid) listing elapsed
    Ended e query elapsed (.ok valid) left.1 left.2 := by
  dsimp only
  cases found : (Findings.find Binary64 e.settings e.snapshot query valid).listing with
  | error f => exact .failed _ _ (.failed valid enough ready unknown f found) (some _) _ _
  | ok listing =>
    refine .served valid enough ready (fun f failed => ?_) _ _ ?_ ?_
    · cases found.symm.trans failed
    · rfl
    · unfold conclude commit
      dsimp only
      split <;> rfl

theorem search_ended (keeps : e.Keeps ledger) (query : Text) (options : SearchOptions)
    (elapsed : Binary64) : Ended e query elapsed (.ok options)
      (e.search query options elapsed).1 (e.search query options elapsed).2 := by
  have way := dispatched e query options elapsed
  unfold Engine.search
  generalize e.dispatch query options elapsed = left at way ⊢
  cases way with
  | short few => exact .short options few
  | notReady enough unready => exact .failed _ _ (.notReady options enough unready) none _ e.tracer
  | remembered enough ready response known =>
    -- nothing is evaluated here, so it does not matter whether a document has begun to fail
    have found : e.remembered? (e.task query options) ≠ none := by simp [known]
    exact .served options enough ready (fun _ _ => found) _ response
      (served_of_remembered keeps known) rfl
  | task enough ready unknown => exact conclude_ended enough ready unknown elapsed _ _

theorem ask_ended (keeps : e.Keeps ledger) (query : Text) (options : Read SearchOptions)
    (elapsed : Binary64) :
    (∃ f, Barred e query options f ∧ e.ask query options elapsed = (e, .error f)) ∨
    (∀ f, ¬Barred e query options f) ∧ ∃ left response,
      e.ask query options elapsed = (left, .ok response) ∧
        Ended e query elapsed options left response := by
  cases options with
  | error issues =>
    refine .inr ⟨?_, _, _, rfl, .failed _ _ (.invalidOptions issues) none _ e.tracer⟩
    rintro f ⟨_, _, _, ⟨⟩, _⟩
  | ok options =>
    unfold ask unlessBarred
    dsimp only
    cases barred : e.obstacle? query options with
    | some f => exact .inl ⟨f, obstacle?_eq_some.mp barred, rfl⟩
    | none =>
      refine .inr ⟨fun f bars => ?_, _, _, rfl, search_ended keeps query options elapsed⟩
      cases barred.symm.trans (obstacle?_eq_some.mpr bars)

theorem Ended.error_iff {left : Engine} {response : SearchResponse}
    (ended : Ended e query elapsed options left response) :
    response.error ≠ none ↔ ∃ error, Fails e query options error := by
  cases ended with
  | short options few =>
    refine iff_of_false (fun wrong => wrong rfl) ?_
    rintro ⟨_, fails⟩
    cases fails with
    | notReady _ enough | failed _ enough => exact enough few
  | failed _ error fails => exact iff_of_true nofun ⟨error, fails⟩
  | served options enough ready known _ _ served =>
    refine iff_of_false (fun wrong => wrong (SearchResponse.served_iff.mp served).1) ?_
    rintro ⟨_, fails⟩
    cases fails with
    | notReady _ _ unready => cases unready.symm.trans ready
    | failed _ _ _ unknown f found => exact known f found unknown

/-- What is asked of an engine takes it nowhere that operations do not. -/
theorem ask_reaches (e : Engine) (query : Text) (data : Value) (elapsed : Binary64) :
    ∃ history, (e.ask query (readOptions data) elapsed).1 = e.after history := by
  cases read : readOptions data with
  | error issues =>
    refine ⟨[.operation (.searchWith query data elapsed)], ?_⟩
    simp [after, undergo, perform, searchWith, ask, read]
  | ok options =>
    unfold ask unlessBarred
    dsimp only
    cases e.obstacle? query options with
    | some f => exact ⟨[], rfl⟩
    | none => exact ⟨[.operation (.search query options elapsed)], rfl⟩

/-- A search of an engine, whatever has happened to that, has no response exactly if it comes to look
for one under a key that cannot be written, and then it changes nothing. Otherwise it has one. That
has an error exactly if the search fails; where it has one, or the query is too short, nothing is
found and nothing of the engine changes but its reports and spans; and where it is served, the
telemetry can take it in. -/
theorem unserved_search_leaves_no_trace (s : Settings) (name : Text) (documents : Value)
    (began : Binary64) (history : List Happening) (query : Text) (options : Read SearchOptions)
    (elapsed : Binary64) :
    let e := (create s name documents began).after history
    let left := (e.ask query options elapsed).1
    let outcome := (e.ask query options elapsed).2
    (∀ f, outcome = .error f ↔ Barred e query options f) ∧
    (∀ f, outcome = .error f → left = e) ∧
    ∀ response, outcome = .ok response →
      (response.error ≠ none ↔ ∃ error, Fails e query options error) ∧
      (response.error ≠ none ∨ query.length < e.settings.minQueryLength →
        response.results = [] ∧ response.total = 0 ∧
          left = { e with logs := left.logs, tracer := left.tracer }) ∧
      (response.served = true →
        e.telemetry.measureSearch e.name (response.searchType.getD .fast).name response.cached
          (.real (elapsed / .ofNat 1000)) = .ok left.telemetry) := by
  intro e
  obtain ⟨ledger, keeps, _⟩ := after_keeps (fun _ _ => True) (fun _ _ _ _ _ => trivial)
    (keeps_create s name documents began) trivial history
  have way := @ask_ended e ledger keeps query options elapsed
  dsimp only
  generalize e.ask query options elapsed = asked at way ⊢
  rcases way with ⟨f, barred, rfl⟩ | ⟨unbarred, left, response, rfl, ended⟩
  · refine ⟨fun g => ?_, fun _ _ => rfl, nofun⟩
    rw [Except.error.injEq]
    exact ⟨fun same => same ▸ barred, barred.unique⟩
  · refine ⟨fun f => iff_of_false nofun (unbarred f), nofun, ?_⟩
    rintro _ ⟨⟩
    refine ⟨ended.error_iff, ?_⟩
    cases ended with
    | short | failed => exact ⟨fun _ => ⟨rfl, rfl, rfl⟩, nofun⟩
    | served _ enough _ _ _ _ served measured =>
      refine ⟨?_, fun _ => ?_⟩
      · rintro (failed | few)
        · exact absurd (SearchResponse.served_iff.mp served).1 failed
        · exact absurd few enough
      · rw [measured]
        exact (telemetry_ready s name documents began history).measureSearch ..

def catNote : Value := .list [.note (.text "cat".toList) none []]

def silenced : List Happening :=
  [.operation (.search "+cat".toList {} .zero), .modify 0 (.silence "gone".toList)]

theorem silenced_note_leaves_no_trace :
    let e := (create {} "notes".toList catNote .zero).after silenced
    let left := (e.ask "+cat".toList (.ok { maxResults := some 1 }) .zero).1
    (∃ error, Fails e "+cat".toList (.ok { maxResults := some 1 }) error) ∧
      left.cache = e.cache ∧ left.telemetry = e.telemetry ∧
      e.telemetry.measureSearch e.name "boolean".toList true (.real (.zero / .ofNat 1000)) =
        .ok (e.ask "+cat".toList (.ok {}) .zero).1.telemetry := by
  intro e left
  have failed : (e.ask "+cat".toList (.ok { maxResults := some 1 }) .zero).2 =
      .ok { query := "+cat".toList, error := some (.failed (.extraction "gone".toList))
            searchType := some .boolean } := by decide +kernel
  have known : (e.ask "+cat".toList (.ok {}) .zero).2 =
      .ok { Session.catAnswer with cached := true } := by decide +kernel
  obtain ⟨_, _, responds⟩ := unserved_search_leaves_no_trace {} "notes".toList catNote .zero
    silenced "+cat".toList (.ok { maxResults := some 1 }) .zero
  obtain ⟨fails, unserved, _⟩ := responds _ failed
  have same : left = { e with logs := left.logs, tracer := left.tracer } :=
    (unserved (.inl nofun)).2.2
  obtain ⟨_, _, answers⟩ := unserved_search_leaves_no_trace {} "notes".toList catNote .zero
    silenced "+cat".toList (.ok {}) .zero
  exact ⟨fails.mp nofun, (congrArg cache same :), (congrArg telemetry same :),
    (answers _ known).2.2 rfl⟩

def filteredBy (kind : String) (value : Value) : Value :=
  .map [("metadata_filters".toList, .map [("n".toList,
    .map [("type".toList, .text kind.toList), ("value".toList, value)])])]

theorem unwritable_key_bars_search :
    let e := create {} "notes".toList catNote .zero
    (e.ask "cat".toList (readOptions (filteredBy "number"
      (.map [("min".toList, .int (10 ^ 5000))]))) .zero).2 = .error .integerTooLong ∧
    (e.ask "cat".toList (readOptions (filteredBy "category"
      (.note .null none [("__dataclass_fields__".toList, .map [("a".toList, .int 1)])])))
        .zero).2 = .error (.missingAttribute "int".toList "_field_type".toList) := by
  constructor <;> decide +kernel

end Engine
end Concordance
