import Concordance.Analysis.Fuzzy
import Concordance.Text.Basic
import Mathlib.Order.Bounds.Basic
import Mathlib.Order.MinMax

/-! The approximate edit distance against the true one. The true distance is the cost of the
cheapest alignment of two texts. The walk along two words follows one alignment of them, not always
the cheapest; so a result within the bound is never below the true distance, and it is zero for
equal words only. A greater bound only lets the same walk go further. -/
namespace Concordance

namespace Text
variable {a b : Text} {n : Nat}

/-- Alignments of two texts with their cost: characters that stay, and those that are taken out, put
in or replaced by another one, at a cost of one each. -/
inductive Alignment : Text → Text → Nat → Prop
  | nil : Alignment [] [] 0
  | keep (c : Char) {a b : Text} {n : Nat} (rest : Alignment a b n) :
    Alignment (c :: a) (c :: b) n
  | delete (c : Char) {a b : Text} {n : Nat} (rest : Alignment a b n) :
    Alignment (c :: a) b (n + 1)
  | insert (c : Char) {a b : Text} {n : Nat} (rest : Alignment a b n) :
    Alignment a (c :: b) (n + 1)
  | replace (c d : Char) {a b : Text} {n : Nat} (rest : Alignment a b n) :
    Alignment (c :: a) (d :: b) (n + 1)

def editDistance : Text → Text → Nat
  | [], b => b.length
  | a, [] => a.length
  | c :: a, d :: b =>
    min (editDistance a b + if c = d then 0 else 1)
      (min (editDistance a (d :: b)) (editDistance (c :: a) b) + 1)
termination_by a b => a.length + b.length

theorem editDistance_nil_left (b : Text) : editDistance [] b = b.length := by
  rw [editDistance]

theorem editDistance_nil_right (a : Text) : editDistance a [] = a.length := by
  cases a with
  | nil => rw [editDistance_nil_left]
  | cons c a => rw [editDistance]; simp

theorem Alignment.of_deletions (a : Text) : Alignment a [] a.length := by
  induction a with
  | nil => exact .nil
  | cons c a ih => exact .delete c ih

theorem Alignment.of_insertions (b : Text) : Alignment [] b b.length := by
  induction b with
  | nil => exact .nil
  | cons c b ih => exact .insert c ih

theorem editDistance_delete_le (c : Char) (a b : Text) :
    editDistance (c :: a) b ≤ editDistance a b + 1 := by
  cases b with
  | nil => simp [editDistance_nil_right]
  | cons d b =>
    rw [editDistance]
    omega

theorem editDistance_insert_le (a : Text) (d : Char) (b : Text) :
    editDistance a (d :: b) ≤ editDistance a b + 1 := by
  cases a with
  | nil => simp [editDistance_nil_left]
  | cons c a =>
    rw [editDistance]
    omega

theorem aligned_at_editDistance (a b : Text) : Alignment a b (editDistance a b) := by
  fun_induction editDistance a b with
  | case1 b => exact .of_insertions b
  | case2 a => exact .of_deletions a
  | case3 c a d b diagonal left right =>
    -- the alignment begins with whichever of the three moves the minimum is taken from
    rcases min_choice (editDistance a b + if c = d then 0 else 1)
      (min (editDistance a (d :: b)) (editDistance (c :: a) b) + 1) with least | least
    · rw [least]
      split
      next same => exact same ▸ diagonal.keep c
      next => exact diagonal.replace c d
    · rw [least]
      rcases min_choice (editDistance a (d :: b)) (editDistance (c :: a) b) with less | less
      · rw [less]
        exact left.delete c
      · rw [less]
        exact right.insert d

theorem editDistance_le_of_alignment (alignment : Alignment a b n) : editDistance a b ≤ n := by
  induction alignment with
  | nil => simp [editDistance_nil_left]
  | keep c _ ih =>
    rw [editDistance, if_pos rfl]
    exact (min_le_left _ _).trans ih
  | delete c _ ih => exact (editDistance_delete_le c _ _).trans (Nat.succ_le_succ ih)
  | insert c _ ih => exact (editDistance_insert_le _ c _).trans (Nat.succ_le_succ ih)
  | replace c d _ ih =>
    rw [editDistance]
    split <;> omega

theorem editDistance_isLeast (a b : Text) : IsLeast {n | Alignment a b n} (editDistance a b) :=
  ⟨aligned_at_editDistance a b, fun _ => editDistance_le_of_alignment⟩

example : editDistance "flaw".toList "lawn".toList = 2 := by decide +kernel

theorem Alignment.self (a : Text) : Alignment a a 0 := by
  induction a with
  | nil => exact .nil
  | cons c a ih => exact .keep c ih

theorem Alignment.eq_of_free (free : Alignment a b 0) : a = b := by
  generalize cost : 0 = n at free
  induction free with
  | nil => rfl
  | keep c _ ih => rw [ih cost]
  | delete | insert | replace => cases cost

theorem editDistance_eq_zero : editDistance a b = 0 ↔ a = b := by
  constructor
  · intro zero
    have free : Alignment a b (editDistance a b) := (editDistance_isLeast a b).1
    exact (zero ▸ free).eq_of_free
  · rintro rfl
    exact Nat.le_zero.mp ((editDistance_isLeast a a).2 (Alignment.self a))

end Text

namespace Fuzzy
open Text
variable {a b query target : Text} {bound edits : Nat}

theorem aligned_walk (within : walk bound edits a b ≤ bound) :
    ∃ n, walk bound edits a b = edits + n ∧ Alignment a b n := by
  fun_induction walk bound edits a b with
  | case1 edits b => exact ⟨_, rfl, .of_insertions b⟩
  | case2 edits a => exact ⟨_, rfl, .of_deletions a⟩
  | case3 edits a c b ih =>
    obtain ⟨n, cost, rest⟩ := ih within
    exact ⟨n, cost, .keep c rest⟩
  | case4 => omega
  | case5 edits x a y b _ _ next ih =>
    obtain ⟨a, rfl⟩ := List.head?_eq_some_iff.mp next
    obtain ⟨n, cost, rest⟩ := ih within
    exact ⟨n + 1, by omega, .delete x (.keep y rest)⟩
  | case6 edits x a y b _ _ _ next ih =>
    obtain ⟨b, rfl⟩ := List.head?_eq_some_iff.mp next
    obtain ⟨n, cost, rest⟩ := ih within
    exact ⟨n + 1, by omega, .insert y (.keep x rest)⟩
  | case7 edits x a y b _ _ _ _ ih =>
    obtain ⟨n, cost, rest⟩ := ih within
    exact ⟨n + 1, by omega, .replace x y rest⟩

theorem walk_common (common a b : Text) (bound edits : Nat) :
    walk bound edits (common ++ a) (common ++ b) = walk bound edits a b := by
  induction common with
  | nil => rfl
  | cons c common ih => rw [List.cons_append, List.cons_append, walk, if_pos rfl, ih]

theorem walk_self (a : Text) (bound edits : Nat) : walk bound edits a a = edits := by
  have walked := walk_common a [] [] bound edits
  rw [List.append_nil] at walked
  rw [walked, walk]
  rfl

theorem aligned_at_distance (within : distance a b bound ≤ bound) :
    Alignment a b (distance a b bound) := by
  obtain ⟨n, cost, alignment⟩ := aligned_walk within
  rw [Nat.zero_add] at cost
  rwa [distance, cost]

theorem distance_eq_zero : distance a b bound = 0 ↔ a = b := by
  constructor
  · intro zero
    have alignment : Alignment a b (distance a b bound) := aligned_at_distance (by omega)
    exact (zero ▸ alignment).eq_of_free
  · rintro rfl
    exact walk_self a bound 0

theorem of_isVariant (near : isVariant query target = true) :
    Text.occursIn query target = false ∧ distance query target 1 ≤ 1 := by
  simp only [isVariant, Bool.and_eq_true, Bool.not_eq_true', decide_eq_true_eq] at near
  exact ⟨near.1.2, near.2⟩

/-- The approximation never says that words are nearer than they are: a result within the bound is
at least the true distance, zero is said of equal words only, and variants of a word are exactly one
edit away from it. -/
theorem approximation_is_never_too_near (a b : Text) (bound : Nat) :
    (distance a b bound ≤ bound → editDistance a b ≤ distance a b bound) ∧
    (distance a b bound = 0 ↔ a = b) ∧
    (isVariant a b = true → editDistance a b = 1) := by
  refine ⟨?_, distance_eq_zero, ?_⟩
  · intro within
    exact (editDistance_isLeast a b).2 (aligned_at_distance within)
  · intro near
    obtain ⟨apart, within⟩ := of_isVariant near
    have most : editDistance a b ≤ 1 :=
      ((editDistance_isLeast a b).2 (aligned_at_distance within)).trans within
    have some : editDistance a b ≠ 0 := by
      intro zero
      obtain rfl := editDistance_eq_zero.mp zero
      rw [Text.occursIn_self] at apart
      cases apart
    omega

theorem quack_one_edit_from_quick :
    distance "hxllx".toList "hello".toList 2 ≤ 2 ∧
    editDistance "hxllx".toList "hello".toList ≤ distance "hxllx".toList "hello".toList 2 ∧
    isVariant "quack".toList "quick".toList = true ∧
    editDistance "quack".toList "quick".toList = 1 := by
  have within : distance "hxllx".toList "hello".toList 2 ≤ 2 := by decide +kernel
  have near : isVariant "quack".toList "quick".toList = true := by decide +kernel
  exact ⟨within, (approximation_is_never_too_near _ _ 2).1 within, near,
    (approximation_is_never_too_near _ _ 1).2.2 near⟩

section Bound
variable {x y : Char} {m n : Nat}

theorem edits_le_walk (bound edits : Nat) (a b : Text) : edits ≤ walk bound edits a b := by
  fun_induction walk bound edits a b with
  | case1 | case2 => exact Nat.le_add_right _ _
  | case3 _ _ _ _ ih => exact ih
  | case4 => exact Nat.le_succ _
  | case5 _ _ _ _ _ _ _ _ ih => exact Nat.le_of_succ_le ih
  | case6 _ _ _ _ _ _ _ _ _ ih => exact Nat.le_of_succ_le ih
  | case7 _ _ _ _ _ _ _ _ _ ih => exact Nat.le_of_succ_le ih

theorem succ_le_walk (other : x ≠ y) (bound edits : Nat) :
    edits + 1 ≤ walk bound edits (x :: a) (y :: b) := by
  rw [walk, if_neg other]
  split
  · exact Nat.le_refl _
  split
  · exact edits_le_walk ..
  split <;> exact edits_le_walk ..

/-- A walk with a greater bound takes the same way. Where the one with the smaller bound ends early,
the other has seen as many edits and goes on. -/
theorem walk_cut (le : m ≤ n) (within : edits ≤ m) : walk m edits a b = walk n edits a b ∨
    walk m edits a b = m + 1 ∧ m + 1 ≤ walk n edits a b := by
  fun_induction walk m edits a b with
  | case1 edits b => exact .inl (by rw [walk])
  | case2 edits a nonempty => exact .inl (by rw [walk]; exact nonempty)
  | case3 edits c a b ih =>
    rw [walk, if_pos rfl]
    exact ih within
  | case4 edits x a y b other spent =>
    obtain rfl : edits = m := by omega
    exact .inr ⟨rfl, succ_le_walk other n edits⟩
  | case5 edits x a y b other more surplus ih =>
    rw [walk, if_neg other, if_neg (by omega), if_pos surplus]
    exact ih (by omega)
  | case6 edits x a y b other more fits missing ih =>
    rw [walk, if_neg other, if_neg (by omega), if_neg fits, if_pos missing]
    exact ih (by omega)
  | case7 edits x a y b other more fits present ih =>
    rw [walk, if_neg other, if_neg (by omega), if_neg fits, if_neg present]
    exact ih (by omega)

/-- The bound only cuts results off. Under a smaller bound the result is no greater; it is the same
if that under the greater bound is within the smaller one, and where it is not the same it is the
first number above its bound. -/
theorem smaller_bound_cuts_off (a b : Text) (le : m ≤ n) :
    distance a b m ≤ distance a b n ∧
    (distance a b n ≤ m → distance a b m = distance a b n) ∧
    (distance a b m ≠ distance a b n → distance a b m = m + 1 ∧ m < distance a b n) := by
  have cut : distance a b m = distance a b n ∨
      distance a b m = m + 1 ∧ m + 1 ≤ distance a b n := walk_cut le (Nat.zero_le m)
  omega

theorem sitting_cut_off_at_one :
    1 ≤ 3 ∧ distance "kitten".toList "sitting".toList 1 = 2 ∧
    1 < distance "kitten".toList "sitting".toList 3 ∧
    3 ≤ 5 ∧ distance "kitten".toList "sitting".toList 5 ≤ 3 ∧
    distance "kitten".toList "sitting".toList 3 = distance "kitten".toList "sitting".toList 5 := by
  obtain ⟨_, _, cut⟩ := smaller_bound_cuts_off "kitten".toList "sitting".toList
    (by decide : 1 ≤ 3)
  obtain ⟨_, same, _⟩ := smaller_bound_cuts_off "kitten".toList "sitting".toList
    (by decide : 3 ≤ 5)
  obtain ⟨ended, further⟩ := cut (by decide +kernel)
  have within : distance "kitten".toList "sitting".toList 5 ≤ 3 := by decide +kernel
  exact ⟨by decide, ended, further, by decide, within, same within⟩

end Bound

end Fuzzy
end Concordance
