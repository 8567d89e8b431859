import Concordance.Proofs.DocumentAlone
import Concordance.Proofs.Verdict

/-! A document ranked among others and alone. The verdict on a document takes its text, its summary
and its metadata, and of the other documents only the variants that their words lend to the query.
Without variants it is the verdict on the document alone; so a collection is answered as its
documents are one by one, unless one of these answers fails. A score that is too large for floating
point fails the whole answer. -/
namespace Concordance

namespace Snapshot
variable {s : Settings} {documents : List (Document × Text)} {d : Document} {t : Text} {id : Nat}

theorem documents_alone (place : documents[id]? = some (d, t)) :
    (ofTexts s documents).documents[id]? = (ofTexts s [(d, t)]).documents[0]? := by
  simp [ofTexts, place]

theorem shownText_alone (place : documents[id]? = some (d, t)) :
    (ofTexts s documents).shownText id = (ofTexts s [(d, t)]).shownText 0 := by
  simp only [shownText, currentText, documents_alone place]
  rfl

end Snapshot

theorem Scoring.scoreText_congr {α : Type} [Credit α] {s : Settings} {a b : Summary}
    (first : a.firstWords = b.firstWords) (count : a.wordCount = b.wordCount) (t : Text)
    (words : List Text) (query : Text) (variants : List (Text × List Text)) :
    @scoreText α _ s t a words query variants = @scoreText α _ s t b words query variants := by
  unfold scoreText
  rw [first, count]

namespace Findings
variable {α : Type} [Credit α] {s : Settings} {snapshot : Snapshot} {options : SearchOptions}
  {query : Text} {values : List Value} {documents : List (Document × Text)} {d : Document}
  {t : Text} {value : Value} {id : Nat} {v : Verdict}

theorem mem_candidatesOf_alone (place : documents[id]? = some (d, t)) :
    id ∈ (candidatesOf s (Snapshot.ofTexts s documents) query options).docIds ↔
      0 ∈ (candidatesOf s (Snapshot.ofTexts s [(d, t)]) query options).docIds := by
  unfold candidatesOf
  rw [Candidates.mem_find_ofTexts, Candidates.mem_find_ofTexts, place]
  rfl

theorem satisfies_alone (place : documents[id]? = some (d, t)) :
    satisfies (Snapshot.ofTexts s documents) options id =
      satisfies (Snapshot.ofTexts s [(d, t)]) options 0 := by
  simp only [satisfies, Snapshot.documents_alone place]

theorem scoreOf_alone (ok : Snapshot.enrollAll s.fieldPlan 0 values = .ok documents)
    (place : documents[id]? = some (d, t))
    (own : Snapshot.enrollAll s.fieldPlan 0 [value] = .ok [(d, t)])
    (strict : options.isFuzzy s = false) :
    scoreOf α s (Snapshot.ofTexts s documents) query options id =
      (scoreOf α s (Snapshot.ofTexts s [(d, t)]) query options 0).map ({ · with docId := id }) := by
  have summaries := @Scoring.scoreText_congr α _ s
    (Snapshot.summarize s.summaryPrefixWords id t) (Snapshot.summarize s.summaryPrefixWords 0 t)
    rfl rfl
  rw [scoreOf_ofTexts ok place, scoreOf_ofTexts own rfl, candidatesOf_strict strict,
    candidatesOf_strict strict, summaries]
  split
  next => rfl
  next =>
    cases @Scoring.scoreText α _ s t (Snapshot.summarize s.summaryPrefixWords 0 t)
      (wordsOf query).eraseDups (phraseOf query) [] <;> rfl

theorem verdict_alone (ok : Snapshot.enrollAll s.fieldPlan 0 values = .ok documents)
    (place : documents[id]? = some (d, t))
    (own : Snapshot.enrollAll s.fieldPlan 0 [value] = .ok [(d, t)])
    (strict : options.isFuzzy s = false) :
    verdict α s (Snapshot.ofTexts s documents) query options id =
      verdict α s (Snapshot.ofTexts s [(d, t)]) query options 0 := by
  unfold verdict highlight
  rw [if_congr (mem_candidatesOf_alone place) rfl rfl, satisfies_alone place,
    scoreOf_alone ok place own strict, Snapshot.shownText_alone place]
  cases scoreOf α s (Snapshot.ofTexts s [(d, t)]) query options 0 <;> rfl

end Findings

namespace Engine
variable {s : Settings} {query : Text} {options : SearchOptions}
  {documents : List (Document × Text)} {entry : Document × Text} {values : List Value} {id : Nat}

theorem snapshotOf_list {whole : Snapshot} (built : Snapshot.build s values = .ok whole) :
    snapshotOf s (.list values) = whole := by
  apply snapshotOf_of_ok
  change index s values = .ok whole
  rw [← built, index]
  cases values with
  | nil => simp [Snapshot.build, Snapshot.enrollAll, Snapshot.empty, Snapshot.ofTexts,
      Snapshot.invert, Except.map]
  | cons => rfl

theorem isReady_ofTexts (place : documents[id]? = some entry) :
    (Snapshot.ofTexts s documents).isReady = true := by
  cases documents with
  | nil => cases place
  | cons => rfl

theorem judged_alone {whole : Snapshot} {value : Value} (query : Text)
    (built : Snapshot.build s values = .ok whole) (place : values[id]? = some value)
    (strict : options.isFuzzy s = false) :
    ∃ alone, Snapshot.build s [value] = .ok alone ∧ (Asks s whole query ↔ Asks s alone query) ∧
      Findings.verdict Binary64 s whole query options id =
        Findings.verdict Binary64 s alone query options 0 ∧
      ∀ other ≠ 0, Findings.verdict Binary64 s alone query options other = .ok none := by
  obtain ⟨documents, ok, rfl⟩ := Snapshot.build_eq_ok.mp built
  obtain ⟨d, t, found, own⟩ := Snapshot.enrollAll_alone ok place
  have alone := Snapshot.build_eq_ok.mpr ⟨_, own, rfl⟩
  refine ⟨_, alone, ?_, Findings.verdict_alone ok found own strict, fun other apart => ?_⟩
  · unfold Asks
    rw [isReady_ofTexts found, @isReady_ofTexts s [(d, t)] _ 0 rfl]
  · exact Findings.verdict_beyond alone (by simpa using apart)

/-- A collection can be indexed only if its documents can be one by one, and a search that is not
boolean, neither tolerant of misspelling nor cut, is answered on the collection exactly if it is on
each document alone. A document is then listed exactly if it is when searched alone, with the same
score, number of matched words and marked text. -/
theorem listed_iff_listed_alone {whole : Snapshot} (built : Snapshot.build s values = .ok whole)
    (free : QueryToken.isBoolean query = false) (strict : options.isFuzzy s = false)
    (unlimited : options.limit = none) (name : Text) (began elapsed : Binary64) :
    let searched (values : List Value) :=
      ((create s name (.list values) began).search query options elapsed).2
    (∀ value ∈ values, ∃ alone, Snapshot.build s [value] = .ok alone) ∧
    ((searched values).Evaluated ↔ ∀ value ∈ values, (searched [value]).Evaluated) ∧
    ((searched values).Evaluated → ∀ i value, values[i]? = some value →
      ∀ v, Match.Lists (searched values).results i v ↔
        Match.Lists (searched [value]).results 0 v) := by
  simp only [create_search, snapshotOf_list built]
  have each (i : Nat) (value : Value) (place : values[i]? = some value) :=
    judged_alone query built place strict
  have answered : (answerOn s whole query options).Evaluated ↔ ∀ value ∈ values,
      (answerOn s (snapshotOf s (.list [value])) query options).Evaluated := by
    constructor
    · intro evaluated value member
      obtain ⟨i, place⟩ := List.mem_iff_getElem?.mp member
      obtain ⟨alone, own, asks, same, others⟩ := each i value place
      rw [snapshotOf_list own, evaluated_fast_iff free unlimited, ← asks]
      intro asked id
      by_cases first : id = 0
      · rw [first, ← same]
        exact (evaluated_fast_iff free unlimited).mp evaluated asked i
      · exact ⟨none, others id first⟩
    · intro evaluated
      rw [evaluated_fast_iff free unlimited]
      intro asked i
      cases place : values[i]? with
      | none => exact ⟨none, Findings.verdict_beyond built place⟩
      | some value =>
        obtain ⟨alone, own, asks, same, _⟩ := each i value place
        have single := evaluated value (List.mem_of_getElem? place)
        rw [snapshotOf_list own, evaluated_fast_iff free unlimited] at single
        rw [same]
        exact single (asks.mp asked) 0
  refine ⟨fun value member => ?_, answered, fun evaluated i value place v => ?_⟩
  · obtain ⟨i, place⟩ := List.mem_iff_getElem?.mp member
    obtain ⟨alone, own, _⟩ := each i value place
    exact ⟨alone, own⟩
  · obtain ⟨alone, own, asks, same, _⟩ := each i value place
    have single := answered.mp evaluated value (List.mem_of_getElem? place)
    rw [snapshotOf_list own] at single ⊢
    rw [lists_fast_iff free unlimited evaluated, lists_fast_iff free unlimited single, asks, same]

def strictly : SearchOptions := { fuzzy := some false }

theorem cat_listed_as_alone :
    Snapshot.build {} Snapshot.dogs = .ok Snapshot.dogIndex ∧
    QueryToken.isBoolean "cat".toList = false ∧ strictly.isFuzzy {} = false ∧
    strictly.limit = none ∧
    let searched (values : List Value) :=
      ((create {} "cats".toList (.list values) .zero).search "cat".toList strictly .zero).2
    let cat : Verdict := ⟨85, 1, "<mark class=\"fast-highlight\">cat</mark>".toList⟩
    (searched Snapshot.dogs).Evaluated ∧ Match.Lists (searched Snapshot.dogs).results 1 cat ∧
      Match.Lists (searched [.map [("text".toList, .text "cat".toList)]]).results 0 cat := by
  have free : QueryToken.isBoolean "cat".toList = false := by decide +kernel
  have asks : Asks {} Snapshot.dogIndex "cat".toList := by
    constructor <;> decide
  have first : Findings.verdict Binary64 {} Snapshot.dogIndex "cat".toList strictly 0 =
      .ok (some ⟨85, 1, "-Dog's- a <mark class=\"fast-highlight\">CAT</mark>".toList⟩) := by
    decide +kernel
  have second : Findings.verdict Binary64 {} Snapshot.dogIndex "cat".toList strictly 1 =
      .ok (some ⟨85, 1, "<mark class=\"fast-highlight\">cat</mark>".toList⟩) := by
    decide +kernel
  have evaluated : (answerOn {} Snapshot.dogIndex "cat".toList strictly).Evaluated := by
    refine (evaluated_fast_iff free rfl).mpr fun _ id => ?_
    match id with
    | 0 => exact ⟨_, first⟩
    | 1 => exact ⟨_, second⟩
    | id + 2 => exact ⟨none, Findings.verdict_beyond Snapshot.dogs_built rfl⟩
  have strict : strictly.isFuzzy {} = false := rfl
  obtain ⟨_, _, alike⟩ :=
    listed_iff_listed_alone Snapshot.dogs_built free strict rfl "cats".toList .zero .zero
  have listed := (lists_fast_iff free rfl evaluated).mpr ⟨asks, second⟩
  simp only [create_search, snapshotOf_list Snapshot.dogs_built] at alike ⊢
  exact ⟨Snapshot.dogs_built, free, strict, rfl, evaluated, listed,
    (alike evaluated 1 _ rfl _).mp listed⟩

def heavyCats : Snapshot :=
  { plan := heavy.fieldPlan, documents := [.record [("text".toList, .text "cats".toList)]]
    summaries := [⟨0, 1, "cats".toList, 4⟩], entries := [("cats".toList, [0])] }

theorem heavyCats_built :
    Snapshot.build heavy [.map [("text".toList, .text "cats".toList)]] = .ok heavyCats :=
  Snapshot.build_eq_ok.mpr ⟨[(.record [("text".toList, .text "cats".toList)], "cats".toList)],
    rfl, Snapshot.ofTexts_one_word (by decide)⟩

theorem listed_alone_only :
    Settings.read [("exact_word_weight".toList, .int (10 ^ 309 : Nat))] [] = .ok heavy ∧
    (∃ whole, Snapshot.build heavy catAndCats = .ok whole) ∧
    QueryToken.isBoolean "cat".toList = false ∧ strictly.isFuzzy heavy = false ∧
    strictly.limit = none ∧ catAndCats[1]? = some (.map [("text".toList, .text "cats".toList)]) ∧
    let searched (values : List Value) :=
      ((create heavy "cats".toList (.list values) .zero).search "cat".toList strictly .zero).2
    ¬∀ v, Match.Lists (searched catAndCats).results 1 v ↔
      Match.Lists (searched [.map [("text".toList, .text "cats".toList)]]).results 0 v := by
  have free : QueryToken.isBoolean "cat".toList = false := by decide +kernel
  have tooMuch : Findings.verdict Binary64 heavy heavyIndex "cat".toList strictly 0 =
      .error .integerTooLarge := by decide +kernel
  have failed : ¬(answerOn heavy heavyIndex "cat".toList strictly).Evaluated := by
    intro evaluated
    have judged := (evaluated_fast_iff free rfl).mp evaluated ⟨by decide, rfl⟩ 0
    rw [tooMuch] at judged
    obtain ⟨v, judged⟩ := judged
    cases judged
  have some : Findings.verdict Binary64 heavy heavyCats "cat".toList strictly 0 =
      .ok (some ⟨75, 1, "<mark class=\"fast-highlight\">cat</mark>s".toList⟩) := by decide +kernel
  have evaluated : (answerOn heavy heavyCats "cat".toList strictly).Evaluated := by
    refine (evaluated_fast_iff free rfl).mpr fun _ id => ?_
    match id with
    | 0 => exact ⟨_, some⟩
    | id + 1 => exact ⟨none, Findings.verdict_beyond heavyCats_built rfl⟩
  refine ⟨Settings.read_exactWordWeight _, ⟨_, heavy_built⟩, free, rfl, rfl, rfl, fun alike => ?_⟩
  simp only [create_search, snapshotOf_list heavy_built, snapshotOf_list heavyCats_built,
    results_of_failed failed] at alike
  have listed := (lists_fast_iff free rfl evaluated).mpr ⟨⟨by decide, rfl⟩, some⟩
  obtain ⟨found, member, _⟩ := (alike _).mpr listed
  cases member

end Engine
end Concordance
