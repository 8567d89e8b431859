import Concordance.Proofs.LeftmostOccurrences
import Concordance.Proofs.Outcome
import Concordance.Search.Scoring
import Mathlib.Data.List.Basic

/-! What a document must contain to score. Credit and bonuses come from places in its text, so a
text in which nothing of a query occurs, and whose first words do not hold its first word, scores
zero whatever the settings are. -/
namespace Concordance

theorem WordHits.of_absent {word t : Text} (absent : Text.occursIn word t = false) :
    WordHits.of word t = {} := by
  unfold WordHits.of
  split
  · rfl
  · rename_i nonempty
    have none : Text.occurrences word t = [] :=
      (Text.occurrencesFrom_eq_nil (by simpa using nonempty) 0 t).mpr absent
    simp [none]

namespace Binary64

theorem bound_pos : 0 < bound := by decide +kernel

theorem nearest_zero (negative : Bool) (den : Nat) :
    nearest negative 0 den = finite negative 0 := by
  simp [nearest, roundHalfEven, bound_pos]

theorem roundHalfUp_zero (negative : Bool) : (finite negative 0).roundHalfUp = .ok 0 := by
  cases negative <;> decide +kernel

theorem roundHalfUp_mul_zero {x : Binary64} {score : Int}
    (ok : (mul .zero x).roundHalfUp = .ok score) : score = 0 := by
  cases x with
  | nan => cases ok
  | infinite => cases ok
  | finite t r =>
    rw [Binary64.zero, mul, Nat.zero_mul, nearest_zero, roundHalfUp_zero] at ok
    exact (Except.ok.inj ok).symm

end Binary64

namespace Scoring
variable {s : Settings} {t query : Text} {summary : Summary} {words : List Text}
  {variants : List (Text × List Text)}

inductive Earns (t : Text) (summary : Summary) (words : List Text) (query : Text)
    (variants : List (Text × List Text)) : Prop
  | word (w : Text) (member : w ∈ words) (occurs : Text.occursIn w t = true)
  | variant (w v : Text) (member : w ∈ words) (variant : v ∈ (variants.lookup w).getD [])
      (occurs : Text.occursIn v t = true)
  | query (long : 3 < query.length) (occurs : Text.occursIn query t = true)
  | leading (w : Text) (first : words.head? = some w)
      (occurs : Text.occursIn w summary.firstWords = true)

theorem ofNat_zero : (Credit.ofNat 0 : Except Failure Binary64) = .ok .zero := by decide +kernel

theorem wordCredit_none : wordCredit s {} = 0 := by simp [wordCredit]

theorem bestVariant_absent {found : List Text}
    (absent : ∀ v ∈ found, Text.occursIn v t = false) :
    bestVariant s t found = .ok ((.zero, none) : Earned Binary64) := by
  unfold bestVariant
  induction found with
  | nil => rfl
  | cons v found ih =>
    obtain ⟨first, rest⟩ := List.forall_mem_cons.mp absent
    rw [List.foldlM_cons, WordHits.of_absent first]
    exact ih rest

theorem earned_absent {w : Text} (absent : Text.occursIn w t = false)
    (others : ∀ v ∈ (variants.lookup w).getD [], Text.occursIn v t = false) :
    earned s t variants w = .ok ((.zero, none) : Earned Binary64) := by
  simp only [earned, WordHits.of_absent absent, wordCredit_none, ofNat_zero]
  exact bestVariant_absent others

theorem earned_all_absent
    (absent : ∀ w ∈ words, earned s t variants w = .ok ((.zero, none) : Earned Binary64)) :
    words.mapM (earned s t variants) = .ok (List.replicate words.length (Binary64.zero, none)) := by
  induction words with
  | nil => rfl
  | cons w words ih =>
    obtain ⟨first, rest⟩ := List.forall_mem_cons.mp absent
    rw [List.mapM_cons, first, ih rest]
    rfl

theorem total_none (n : Nat) :
    total (List.replicate n ((.zero, none) : Earned Binary64)) = (.zero, 0) := by
  induction n with
  | zero => rfl
  | succ n ih => simpa [total, List.replicate_succ, Credit.exceeds, Credit.none, Binary64.lt_irrefl]
      using ih

theorem addIf_nothing : addIf true 0 Binary64.zero = .ok .zero := by
  simp only [addIf, if_true, ofNat_zero]
  rfl

theorem addIf_not_due {due : Bool} (undue : due = false) (bonus : Nat) (sum : Binary64) :
    addIf due bonus sum = .ok sum := by
  simp only [addIf, undue, Bool.false_eq_true, if_false]
  rfl

theorem scoreText_absent {score : Int} {count : Nat}
    (absent : ∀ w ∈ words, earned s t variants w = .ok ((.zero, none) : Earned Binary64))
    (apart : (3 < query.length && Text.occursIn query t) = false)
    (late : (words.head?.any fun w => Text.occursIn w summary.firstWords) = false)
    (ok : @scoreText Binary64 _ s t summary words query variants = .ok (score, count)) :
    score = 0 := by
  have unplaced : ((List.replicate words.length ((.zero, none) : Earned Binary64)).head?.bind
      (·.2)) = none := by
    cases words <;> rfl
  obtain ⟨earnings, each, ok⟩ := Outcome.bind_eq_ok.mp ok
  cases (earned_all_absent absent).symm.trans each
  rw [total_none] at ok
  obtain ⟨sum, several, ok⟩ := Outcome.bind_eq_ok.mp ok
  cases (addIf_not_due (by simp) _ _).symm.trans several
  obtain ⟨sum, whole, ok⟩ := Outcome.bind_eq_ok.mp ok
  cases (addIf_not_due apart _ _).symm.trans whole
  obtain ⟨sum, leads, ok⟩ := Outcome.bind_eq_ok.mp ok
  cases (addIf_not_due late _ _).symm.trans leads
  obtain ⟨sum, placed, ok⟩ := Outcome.bind_eq_ok.mp ok
  rw [unplaced, positionBonus, addIf_nothing] at placed
  cases placed
  obtain ⟨rounded, round, same⟩ := Outcome.bind_eq_ok.mp ok
  cases same
  split at round
  · exact Binary64.roundHalfUp_mul_zero round
  · exact (Except.ok.inj ((Binary64.roundHalfUp_zero false).symm.trans round)).symm

theorem earns_of_scoreText_pos {score : Int} {count : Nat} (positive : 0 < score)
    (ok : @scoreText Binary64 _ s t summary words query variants = .ok (score, count)) :
    Earns t summary words query variants := by
  by_contra nothing
  refine Int.lt_irrefl 0 ((scoreText_absent (fun w member => ?_) ?_ ?_ ok).symm ▸ positive)
  · refine earned_absent ?_ fun v variant => ?_
    · exact Bool.eq_false_iff.mpr fun occurs => nothing (.word w member occurs)
    · exact Bool.eq_false_iff.mpr fun occurs => nothing (.variant w v member variant occurs)
  · refine Bool.eq_false_iff.mpr fun found => nothing ?_
    simp only [Bool.and_eq_true, decide_eq_true_eq] at found
    exact .query found.1 found.2
  · refine Bool.eq_false_iff.mpr fun found => nothing ?_
    simp only [Option.any_eq_true] at found
    obtain ⟨w, first, occurs⟩ := found
    exact .leading w first occurs

end Scoring
end Concordance
