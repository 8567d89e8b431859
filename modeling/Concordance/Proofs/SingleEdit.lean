import Concordance.Proofs.CandidateSet
import Concordance.Proofs.EditDistance

/-! Which single edits are recognised. The walk guesses the kind of an edit from one character
behind the first difference. If that character also fits another kind of edit, the walk goes astray
and the misspelling is not recognised; in all other cases it is. A surplus character is what the
walk looks for first, so it is always recognised. -/
namespace Concordance

namespace Fuzzy
variable {a b u v query target : Text} {x y : Char} {bound : Nat}

theorem walk_spent : walk bound bound a b ≤ bound ↔ a = b := by
  constructor
  · intro within
    obtain ⟨n, cost, alignment⟩ := aligned_walk within
    obtain rfl : n = 0 := by omega
    exact alignment.eq_of_free
  · rintro rfl
    exact (walk_self a bound bound).le

theorem walk_replaced (other : x ≠ y) :
    walk 1 0 (x :: v) (y :: v) ≤ 1 ↔ v.head? ≠ some x ∧ v.head? ≠ some y := by
  rw [walk, if_neg other, if_neg (by decide), Nat.zero_add]
  split
  next deletion =>
    obtain ⟨v, rfl⟩ := List.head?_eq_some_iff.mp deletion
    simp [walk_spent]
  next noDeletion =>
    split
    next insertion =>
      obtain ⟨v, rfl⟩ := List.head?_eq_some_iff.mp insertion
      simp [walk_spent]
    next noInsertion => simp [walk_spent, noDeletion, noInsertion]

theorem tail_ne_cons (x : Char) (v : Text) : v.tail ≠ x :: v := by
  intro same
  have longer := congrArg List.length same
  rw [List.length_tail, List.length_cons] at longer
  omega

theorem walk_inserted (y : Char) (v : Text) :
    walk 1 0 v (y :: v) ≤ 1 ↔ ((v.dropWhile (· == y)).drop 1).head? ≠ some y := by
  induction v with
  | nil => simp [walk]
  | cons x v ih =>
    by_cases same : x = y
    · subst same
      rw [walk, if_pos rfl, ih, List.dropWhile_cons_of_pos (by simp)]
    · rw [walk, if_neg same, if_neg (by decide), Nat.zero_add, List.head?_cons, if_pos rfl,
        List.dropWhile_cons_of_neg (by simp [same])]
      change (if v.head? = some y then walk 1 1 (v.drop 1) (x :: v) else walk 1 1 v v) ≤ 1 ↔
        v.head? ≠ some y
      split
      next deletion => simp [walk_spent, tail_ne_cons, deletion]
      next noDeletion => simp [walk_spent, noDeletion]

theorem walk_surplus (c : Char) (v : Text) (bound edits : Nat) :
    walk bound edits (c :: v) v = edits + 1 := by
  induction v generalizing c with
  | nil =>
    rw [walk]
    · rfl
    · exact List.cons_ne_nil c []
  | cons d v ih =>
    by_cases same : c = d
    · subst same
      rw [walk, if_pos rfl, ih]
    · rw [walk, if_neg same]
      split
      next => rfl
      next => rw [List.head?_cons, if_pos rfl, List.drop_one, List.tail_cons, walk_self]

theorem isVariant_iff_walk (shorter : query.length ≤ target.length)
    (near : target.length ≤ query.length + maxLengthDifference)
    (apart : Text.occursIn query target = false) :
    isVariant query target = true ↔ walk 1 0 query target ≤ 1 := by
  have lengths : (query.length - target.length) + (target.length - query.length) ≤
      maxLengthDifference := by omega
  simp only [isVariant, lengths, apart, decide_true, Bool.not_false, Bool.true_and,
    decide_eq_true_eq]
  rfl

theorem mem_find_of_isVariant {s : Settings} {snapshot : Snapshot} {values : List Value}
    {words : List Text} {id : Nat} (built : Snapshot.build s values = .ok snapshot)
    (long : s.minFuzzyLength ≤ query.length) (asked : query ∈ words)
    (near : isVariant query target = true) (posted : id ∈ snapshot.postings target) :
    id ∈ (Candidates.find s snapshot words true).docIds ∧
      ∃ found, (query, found) ∈ (Candidates.find s snapshot words true).variants ∧
        target ∈ found := by
  obtain ⟨documents, _, rfl⟩ := Snapshot.build_eq_ok.mp built
  have listed : target ∈ Candidates.variantsOf s (Snapshot.ofTexts s documents) true query :=
    Candidates.mem_variantsOf.mpr
      ⟨Snapshot.mem_vocabulary_iff_posted.mpr ⟨id, posted⟩, rfl, long, near⟩
  refine ⟨?_, _, Candidates.mem_variants.mpr ⟨asked, List.ne_nil_of_mem listed, rfl⟩, listed⟩
  obtain ⟨d, t, place, indexed⟩ := Snapshot.mem_postings_ofTexts.mp posted
  obtain ⟨member, kept⟩ := Snapshot.mem_indexableWords.mp indexed
  exact Candidates.mem_find_ofTexts.mpr
    ⟨d, t, place, query, asked, target, member, kept, .variant target rfl long near⟩

/-- Of two words the first of which does not stand in the second: if one character is replaced, the
misspelling is recognised unless the character behind it is one of the two; if one is inserted, it
is recognised unless, behind what repeats the inserted character, the next character but one is that
character again. The documents that have the word itself are then candidates. -/
theorem single_edit_is_variant_iff (query target : Text)
    (apart : Text.occursIn query target = false) :
    (∀ u v x y, x ≠ y → query = u ++ x :: v → target = u ++ y :: v →
      (isVariant query target = true ↔ v.head? ≠ some x ∧ v.head? ≠ some y)) ∧
    (∀ u v y, query = u ++ v → target = u ++ y :: v →
      (isVariant query target = true ↔ ((v.dropWhile (· == y)).drop 1).head? ≠ some y)) ∧
    (isVariant query target = true →
      ∀ s snapshot values words, Snapshot.build s values = .ok snapshot →
        s.minFuzzyLength ≤ query.length → query ∈ words → ∀ id ∈ snapshot.postings target,
          id ∈ (Candidates.find s snapshot words true).docIds ∧
            ∃ found, (query, found) ∈ (Candidates.find s snapshot words true).variants ∧
              target ∈ found) := by
  refine ⟨?_, ?_, ?_⟩
  · rintro u v x y other rfl rfl
    rw [isVariant_iff_walk (by simp) (by simp) apart, walk_common, walk_replaced other]
  · rintro u v y rfl rfl
    rw [isVariant_iff_walk (by simp) (by simp [maxLengthDifference]; omega) apart, walk_common,
      walk_inserted]
  · intro near s snapshot values words built long asked id posted
    exact mem_find_of_isVariant built long asked near posted

theorem misspelt_cat_recognised :
    Text.occursIn "cot".toList "cat".toList = false ∧
    isVariant "cot".toList "cat".toList = true ∧
    Snapshot.build {} Snapshot.dogs = .ok Snapshot.dogIndex ∧
    1 ∈ Snapshot.dogIndex.postings "cat".toList ∧
    1 ∈ (Candidates.find {} Snapshot.dogIndex ["cot".toList] true).docIds ∧
    Text.occursIn "helo".toList "hello".toList = false ∧
    isVariant "helo".toList "hello".toList = true := by
  have apart : Text.occursIn "cot".toList "cat".toList = false := by decide
  obtain ⟨replaced, _, candidate⟩ := single_edit_is_variant_iff _ _ apart
  have near : isVariant "cot".toList "cat".toList = true :=
    (replaced ['c'] ['t'] 'o' 'a' (by decide) rfl rfl).mpr (by decide)
  have posted : 1 ∈ Snapshot.dogIndex.postings "cat".toList := by decide
  obtain ⟨member, _⟩ := candidate near {} Snapshot.dogIndex Snapshot.dogs ["cot".toList]
    Snapshot.dogs_built (by decide) (by decide) 1 posted
  have other : Text.occursIn "helo".toList "hello".toList = false := by decide
  obtain ⟨_, inserted, _⟩ := single_edit_is_variant_iff _ _ other
  exact ⟨apart, near, Snapshot.dogs_built, posted, member, other,
    (inserted ['h', 'e'] ['l', 'o'] 'l' rfl rfl).mpr (by decide)⟩

theorem single_edit_is_not_always_variant :
    ¬∀ query target : Text, 3 ≤ query.length → Text.occursIn query target = false →
      ((∃ u v x y, x ≠ y ∧ query = u ++ x :: v ∧ target = u ++ y :: v) ∨
        ∃ u v y, query = u ++ v ∧ target = u ++ y :: v) →
      isVariant query target = true := by
  intro all
  have recognised := all "heklo".toList "hello".toList (by decide) (by decide)
    (.inl ⟨['h', 'e'], ['l', 'o'], 'k', 'l', by decide, rfl, rfl⟩)
  exact absurd recognised (by decide +kernel)

/-- A word with one character too many is at distance one from the word without it, wherever the
character stands and whatever it repeats, under every bound; and it is recognised as a misspelling
of that word. -/
theorem surplus_character_is_recognised (p s : Text) (c : Char) :
    (∀ bound, distance (p ++ c :: s) (p ++ s) bound = 1) ∧
    isVariant (p ++ c :: s) (p ++ s) = true := by
  have one (bound : Nat) : distance (p ++ c :: s) (p ++ s) bound = 1 := by
    rw [distance, walk_common, walk_surplus]
  refine ⟨one, ?_⟩
  have longer : (p ++ c :: s).length = (p ++ s).length + 1 := by
    rw [List.length_append, List.length_cons, List.length_append, Nat.add_assoc]
  have apart : Text.occursIn (p ++ c :: s) (p ++ s) = false := by
    by_contra occurs
    have within := Text.occursIn_iff_within.mp (Bool.eq_true_of_not_eq_false occurs)
    have := within.length_le
    omega
  simp only [isVariant, longer, apart, one 1, maxLengthDifference, Bool.not_false, Bool.and_true,
    Bool.and_eq_true, decide_eq_true_eq]
  omega

end Fuzzy
end Concordance
