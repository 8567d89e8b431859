import Concordance.Proofs.DocumentAlone
import Concordance.Proofs.Verdict
import Mathlib.Algebra.Order.Floor.Ring
import Mathlib.Tactic.Positivity

/-! Tolerance of misspelling only adds. A word that stands in a text earns the same with variants as
without, and one that does not earns nothing without them; sums, bonuses, damping and rounding keep
that order. In exact arithmetic every document that a query in free text finds is also found if
variants count, with no lower score and no fewer matched words. -/
namespace Concordance

namespace Outcome
variable {ε α β α' β' : Type}

def Both (R : α → β → Prop) (x : Except ε α) (y : Except ε β) : Prop :=
  ∃ a b, x = .ok a ∧ y = .ok b ∧ R a b

theorem Both.bind {R : α → β → Prop} {S : α' → β' → Prop} {x : Except ε α} {y : Except ε β}
    {f : α → Except ε α'} {g : β → Except ε β'} (both : Both R x y)
    (next : ∀ a b, R a b → Both S (f a) (g b)) : Both S (x >>= f) (y >>= g) := by
  obtain ⟨a, b, rfl, rfl, related⟩ := both
  exact next a b related

theorem Both.mapM {R : α' → β' → Prop} {f : α → Except ε α'} {g : α → Except ε β'}
    (each : ∀ a, Both R (f a) (g a)) (items : List α) :
    Both (List.Forall₂ R) (items.mapM f) (items.mapM g) := by
  induction items with
  | nil => exact ⟨[], [], rfl, rfl, .nil⟩
  | cons item items ih =>
    rw [List.mapM_cons, List.mapM_cons]
    refine (each item).bind fun a b first => ih.bind fun as bs rest => ?_
    exact ⟨a :: as, b :: bs, rfl, rfl, .cons first rest⟩

end Outcome

namespace Scoring
open Outcome
variable {s : Settings} {t query : Text} {summary : Summary} {words : List Text}
  {variants : List (Text × List Text)}

theorem better_grows (s : Settings) (t : Text) (best : Earned ℚ) (variant : Text) :
    ∃ next, better s t best variant = .ok next ∧ best.1 ≤ next.1 := by
  unfold better
  dsimp only
  cases (WordHits.of variant t).found with
  | false => exact ⟨best, rfl, le_refl _⟩
  | true =>
    refine ⟨_, rfl, ?_⟩
    split
    next more => exact (of_decide_eq_true more).le
    next => exact le_refl _

theorem bestVariant_nonneg (s : Settings) (t : Text) (found : List Text) :
    ∃ e : Earned ℚ, bestVariant s t found = .ok e ∧ 0 ≤ e.1 := by
  have grows (best : Earned ℚ) :
      ∃ e, found.foldlM (better s t) best = .ok e ∧ best.1 ≤ e.1 := by
    induction found generalizing best with
    | nil => exact ⟨best, rfl, le_refl _⟩
    | cons v found ih =>
      obtain ⟨next, first, more⟩ := better_grows s t best v
      obtain ⟨e, rest, further⟩ := ih next
      exact ⟨e, foldlM_cons first rest, more.trans further⟩
  exact grows (Credit.none, none)

structure Grows (e f : Earned ℚ) : Prop where
  credit : e.1 ≤ f.1
  offset : e.2 = none ∨ e.2 = f.2

theorem earned_grows (word : Text) :
    Both Grows (earned s t [] word) (earned s t variants word) := by
  unfold earned
  dsimp only
  have given : (Credit.ofNat (wordCredit s (.of word t)) : Except Failure ℚ) =
      .ok (wordCredit s (.of word t)) := rfl
  rw [given]
  cases (WordHits.of word t).found with
  | true => exact ⟨_, _, rfl, rfl, le_refl _, .inr rfl⟩
  | false =>
    obtain ⟨e, best, nonneg⟩ := bestVariant_nonneg s t ((variants.lookup word).getD [])
    exact ⟨(0, none), e, rfl, best, nonneg, .inl rfl⟩

theorem withCredit_grows {a b : ℚ × Nat} {e f : Earned ℚ} (le : a ≤ b) (grows : Grows e f) :
    withCredit a e ≤ withCredit b f := by
  obtain ⟨sums, counts⟩ := Prod.le_def.mp le
  have credit := grows.credit
  unfold withCredit
  simp only [Credit.exceeds, Credit.none, Credit.add, decide_eq_true_eq]
  split <;> split
  · exact ⟨add_le_add sums credit, Nat.succ_le_succ counts⟩
  next some none => exact absurd (some.trans_le credit) none
  next none some => exact ⟨sums.trans (le_add_of_nonneg_right some.le), Nat.le_succ_of_le counts⟩
  · exact le

theorem total_grows {earnings more : List (Earned ℚ)} (each : List.Forall₂ Grows earnings more) :
    total earnings ≤ total more := by
  have folds {a b : ℚ × Nat} (le : a ≤ b) :
      earnings.foldl withCredit a ≤ more.foldl withCredit b := by
    induction each generalizing a b with
    | nil => exact le
    | cons first _ ih => exact ih (withCredit_grows le first)
  rw [total_eq, total_eq]
  exact folds (le_refl _)

theorem addIf_grows {due further : Bool} {bonus more : Nat} {sum greater : ℚ}
    (also : due = true → further = true) (bonuses : bonus ≤ more) (sums : sum ≤ greater) :
    Both (· ≤ ·) (addIf due bonus sum) (addIf further more greater) := by
  have bonuses : (bonus : ℚ) ≤ more := by exact_mod_cast bonuses
  have nonneg : (0 : ℚ) ≤ more := Nat.cast_nonneg more
  cases due with
  | true =>
    rw [also rfl]
    exact ⟨_, _, rfl, rfl, add_le_add sums bonuses⟩
  | false =>
    cases further with
    | true => exact ⟨_, _, rfl, rfl, sums.trans (le_add_of_nonneg_right nonneg)⟩
    | false => exact ⟨_, _, rfl, rfl, sums⟩

theorem positionBonus_grows {earnings more : List (Earned ℚ)}
    (each : List.Forall₂ Grows earnings more) :
    positionBonus s (earnings.head?.bind (·.2)) ≤ positionBonus s (more.head?.bind (·.2)) := by
  cases each with
  | nil => exact Nat.le_refl _
  | cons first _ =>
    rcases first.offset with absent | same
    · simp [absent, positionBonus]
    · simp [same]

theorem round_grows {sum greater : ℚ} (sums : sum ≤ greater) :
    Both (· ≤ ·) (Credit.round sum) (Credit.round greater) :=
  ⟨_, _, rfl, rfl, Int.floor_le_floor (by linarith)⟩

theorem scoreText_grows (valid : s.Valid) :
    Both (· ≤ ·) (@scoreText ℚ _ s t summary words query [])
      (@scoreText ℚ _ s t summary words query variants) := by
  unfold scoreText
  refine (Both.mapM (fun word => earned_grows word) words).bind fun earnings more each => ?_
  obtain ⟨sums, counts⟩ := Prod.le_def.mp (total_grows each)
  dsimp only
  refine (addIf_grows ?_ (Nat.mul_le_mul_right _ counts) sums).bind fun _ _ sums => ?_
  · simp only [Bool.and_eq_true, decide_eq_true_eq]
    exact fun several => ⟨several.1, several.2.trans_le counts⟩
  refine (addIf_grows id (Nat.le_refl _) sums).bind fun _ _ sums => ?_
  refine (addIf_grows id (Nat.le_refl _) sums).bind fun _ _ sums => ?_
  refine (addIf_grows id (positionBonus_grows each) sums).bind fun sum greater sums => ?_
  have penalty := valid.longDocumentPenalty.value.1.le
  refine Both.bind (R := (· ≤ ·)) ?_ fun _ _ scores => ⟨_, _, rfl, rfl, scores, counts⟩
  split
  · exact round_grows (mul_le_mul_of_nonneg_right sums penalty)
  · exact round_grows sums

end Scoring

namespace SearchOptions

def tolerating (o : SearchOptions) (fuzzy : Bool) : SearchOptions := { o with fuzzy := some fuzzy }

end SearchOptions

namespace Candidates
variable {s : Settings} {words : List Text} {q v t : Text}

theorem Expands.tolerant (expands : Expands s false q v) : Expands s true q v := by
  cases expands with
  | word => exact .word
  | extension _ due begins => exact .extension _ due begins
  | variant _ on => cases on

theorem Reached.tolerant (reached : Reached s false words t) : Reached s true words t := by
  obtain ⟨q, member, v, spoken, long, expands⟩ := reached
  exact ⟨q, member, v, spoken, long, expands.tolerant⟩

end Candidates

namespace Findings
open Outcome
variable {s : Settings} {snapshot : Snapshot} {query : Text} {options : SearchOptions}
  {values : List Value} {documents : List (Document × Text)} {d : Document} {t : Text} {id : Nat}
  {given : Fields} {environment : List (Text × Text)}

theorem candidates_grow
    (candidate : id ∈ (candidatesOf s (Snapshot.ofTexts s documents) query
      (options.tolerating false)).docIds) :
    id ∈ (candidatesOf s (Snapshot.ofTexts s documents) query
      (options.tolerating true)).docIds := by
  obtain ⟨d, t, place, reached⟩ := Candidates.mem_find_ofTexts.mp candidate
  exact Candidates.mem_find_ofTexts.mpr ⟨d, t, place, reached.tolerant⟩

theorem scoreOf_grows (valid : s.Valid) (query : Text) (options : SearchOptions)
    (ok : Snapshot.enrollAll s.fieldPlan 0 values = .ok documents)
    (place : documents[id]? = some (d, t)) :
    Both (fun a b => a.score ≤ b.score ∧ a.matchCount ≤ b.matchCount)
      (scoreOf ℚ s (Snapshot.ofTexts s documents) query (options.tolerating false) id)
      (scoreOf ℚ s (Snapshot.ofTexts s documents) query (options.tolerating true) id) := by
  have strict : (options.tolerating false).isFuzzy s = false := rfl
  rw [scoreOf_ofTexts ok place, scoreOf_ofTexts ok place, candidatesOf_strict strict]
  split
  next => exact ⟨_, _, rfl, rfl, le_refl _, le_refl _⟩
  next =>
    obtain ⟨a, b, first, second, le⟩ := Scoring.scoreText_grows valid
    rw [first, second]
    exact ⟨_, _, rfl, rfl, (Prod.le_def.mp le).1, (Prod.le_def.mp le).2⟩

theorem verdict_grows (valid : s.Valid) (query : Text)
    (ok : Snapshot.enrollAll s.fieldPlan 0 values = .ok documents)
    (answered : Answered (Snapshot.ofTexts s documents) options) (id : Nat) :
    Both (fun a b => ∀ v ∈ a, ∃ w ∈ b, v.score ≤ w.score ∧ v.matchCount ≤ w.matchCount)
      (verdict ℚ s (Snapshot.ofTexts s documents) query (options.tolerating false) id)
      (verdict ℚ s (Snapshot.ofTexts s documents) query (options.tolerating true) id) := by
  have judged (fuzzy : Bool) : ∃ v,
      verdict ℚ s (Snapshot.ofTexts s documents) query (options.tolerating fuzzy) id = .ok v := by
    rw [verdict_ok_iff]
    intro candidate
    obtain ⟨d, t, place, _⟩ := Candidates.mem_find_ofTexts.mp candidate
    obtain ⟨answer, accepted⟩ := answered id (Snapshot.mem_docIds_ofTexts.mpr ⟨d, t, place⟩)
    refine ⟨answer, accepted, fun _ => ?_⟩
    obtain ⟨text, shown⟩ := highlight_of_candidate ok candidate
    obtain ⟨a, b, strict, tolerant, _⟩ := scoreOf_grows valid query options ok place
    cases fuzzy with
    | false => exact ⟨a, strict, fun _ => ⟨text, shown⟩⟩
    | true => exact ⟨b, tolerant, fun _ => ⟨text, shown⟩⟩
  obtain ⟨first, strict⟩ := judged false
  obtain ⟨second, tolerant⟩ := judged true
  refine ⟨first, second, strict, tolerant, fun v listed => ?_⟩
  rw [Option.mem_def.mp listed, verdict_eq_some] at strict
  obtain ⟨candidate, accepted, a, scored, positive, text, shown, rfl⟩ := strict
  obtain ⟨d, t, place, _⟩ := Candidates.mem_find_ofTexts.mp candidate
  obtain ⟨a', b, same, more, score, count⟩ := scoreOf_grows valid query options ok place
  cases scored.symm.trans same
  have found : verdict ℚ s (Snapshot.ofTexts s documents) query (options.tolerating true) id =
      .ok (some ⟨b.score, b.matchCount, text⟩) :=
    verdict_eq_some.mpr ⟨candidates_grow candidate, accepted, b, more, positive.trans_le score,
      text, shown, rfl⟩
  cases tolerant.symm.trans found
  exact ⟨_, rfl, score, count⟩

/-- In exact arithmetic a search in free text that is not cut, and whose filters can be applied to
every document, is answered both with and without tolerance of misspelling. Every document that is
found without is found with it, with no lower score and no fewer matched words. -/
theorem tolerance_loses_nothing (read : Settings.read given environment = .ok s)
    (built : Snapshot.build s values = .ok snapshot) (free : QueryToken.isBoolean query = false)
    (unlimited : options.limit = none)
    (answered : Answered snapshot options) :
    Both (fun strict tolerant => ∀ found ∈ strict.1, ∃ other ∈ tolerant.1,
        other.docId = found.docId ∧ found.score ≤ other.score ∧
          found.matchCount ≤ other.matchCount)
      (find ℚ s snapshot query (options.tolerating false)).listing
      (find ℚ s snapshot query (options.tolerating true)).listing := by
  have valid := Settings.valid_of_read read
  obtain ⟨documents, ok, rfl⟩ := Snapshot.build_eq_ok.mp built
  have grows := verdict_grows valid query ok answered
  have uncut (fuzzy : Bool) : (options.tolerating fuzzy).limit = none := unlimited
  have lists (fuzzy : Bool) : ∃ listing, (fast ℚ s (Snapshot.ofTexts s documents) query
      (options.tolerating fuzzy)).listing = .ok listing := by
    refine (fast_ok_iff (uncut fuzzy)).mpr fun id => ?_
    obtain ⟨a, b, strict, tolerant, _⟩ := grows id
    cases fuzzy with
    | false => exact ⟨a, strict⟩
    | true => exact ⟨b, tolerant⟩
  obtain ⟨⟨results, _⟩, strict⟩ := lists false
  obtain ⟨⟨others, _⟩, tolerant⟩ := lists true
  rw [find_free free, find_free free]
  refine ⟨_, _, strict, tolerant, fun found member => ?_⟩
  have listed := (lists_iff (uncut false) strict).mp ⟨found, member, rfl, rfl⟩
  obtain ⟨a, b, first, second, more⟩ := grows found.docId
  cases first.symm.trans listed
  obtain ⟨w, also, score, count⟩ := more _ rfl
  cases Option.mem_def.mp also
  obtain ⟨other, among, same, rfl⟩ := (lists_iff (uncut true) tolerant).mpr second
  exact ⟨other, among, same, score, count⟩

theorem misspelt_cat_adds :
    Settings.read [] [] = .ok {} ∧ Snapshot.build {} Snapshot.dogs = .ok Snapshot.dogIndex ∧
    QueryToken.isBoolean "cot cat".toList = false ∧ ({} : SearchOptions).limit = none ∧
    Answered Snapshot.dogIndex {} ∧
    Both (fun strict tolerant =>
        (∃ found ∈ strict.1, found.docId = 1 ∧ found.score = 30 ∧ found.matchCount = 1) ∧
        ∃ other ∈ tolerant.1, other.docId = 1 ∧ 30 ≤ other.score ∧ 1 ≤ other.matchCount)
      (find ℚ {} Snapshot.dogIndex "cot cat".toList (SearchOptions.tolerating {} false)).listing
      (find ℚ {} Snapshot.dogIndex "cot cat".toList
        (SearchOptions.tolerating {} true)).listing := by
  have free : QueryToken.isBoolean "cot cat".toList = false := by decide +kernel
  have answered : Answered Snapshot.dogIndex {} := fun _ _ => ⟨true, rfl⟩
  have judged : verdict ℚ {} Snapshot.dogIndex "cot cat".toList
      (SearchOptions.tolerating {} false) 1 =
        .ok (some ⟨30, 1, "<mark class=\"fast-highlight\">cat</mark>".toList⟩) := by
    decide +kernel
  obtain ⟨strict, tolerant, first, second, more⟩ :=
    tolerance_loses_nothing Settings.read_standard Snapshot.dogs_built free rfl answered
  have strictly := first
  rw [find_free free] at strictly
  obtain ⟨found, member, same, worth⟩ := (lists_iff rfl strictly).mpr judged
  obtain ⟨score, count, _⟩ := Verdict.mk.inj worth
  refine ⟨Settings.read_standard, Snapshot.dogs_built, free, rfl, answered, strict, tolerant,
    first, second, ⟨found, member, same, score, count⟩, ?_⟩
  simpa only [same, score, count] using more found member

end Findings
end Concordance
