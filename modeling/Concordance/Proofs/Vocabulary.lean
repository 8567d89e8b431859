import Concordance.Index.Snapshot
import Mathlib.Data.List.Basic

/-! The order of texts by code points, and why a prefix is found by a scan. In ascending order the
words that begin with a text stand together, behind all words that come before the text, and halving
finds where they begin; and a list in ascending order is known by its members. -/
namespace Concordance

namespace Text

theorem precedes_total (s t : Text) : (precedes s t || precedes t s) = true := by
  induction s generalizing t with
  | nil => simp [precedes]
  | cons c s ih =>
    cases t with
    | nil => simp [precedes]
    | cons d t =>
      rcases Nat.lt_trichotomy c.toNat d.toNat with less | same | greater
      · simp [precedes, less]
      · obtain rfl : c = d := Char.toNat_inj.mp same
        simpa [precedes] using ih t
      · simp [precedes, greater]

theorem precedes_trans {s t u : Text} (first : precedes s t = true) (second : precedes t u = true) :
    precedes s u = true := by
  induction s generalizing t u with
  | nil => simp [precedes]
  | cons c s ih =>
    cases t with
    | nil => simp [precedes] at first
    | cons d t =>
      cases u with
      | nil => simp [precedes] at second
      | cons e u =>
        simp only [precedes, Bool.or_eq_true, decide_eq_true_eq, Bool.and_eq_true,
          beq_iff_eq] at *
        rcases first with less | ⟨rfl, first⟩
        · rcases second with further | ⟨rfl, _⟩
          · exact .inl (by omega)
          · exact .inl less
        · exact second.imp_right (And.imp_right fun second => ih first second)

theorem precedes_of_isPrefix {s t : Text} (begins : s.isPrefixOf t = true) :
    precedes s t = true := by
  induction s generalizing t with
  | nil => simp [precedes]
  | cons c s ih =>
    cases t with
    | nil => simp at begins
    | cons d t =>
      simp only [List.isPrefixOf, Bool.and_eq_true, beq_iff_eq] at begins
      simp [precedes, begins.1, ih begins.2]

theorem not_isPrefix_of_passed {s t u : Text} (after : precedes s t = true)
    (other : s.isPrefixOf t = false) (later : precedes t u = true) : s.isPrefixOf u = false := by
  induction s generalizing t u with
  | nil => simp at other
  | cons c s ih =>
    match t, u with
    | [], _ => simp [precedes] at after
    | _ :: _, [] => rfl
    | d :: t, e :: u =>
      simp only [precedes, Bool.or_eq_true, decide_eq_true_eq, Bool.and_eq_true,
        beq_iff_eq] at after later
      by_cases same : c = e
      · subst same
        rcases after with less | ⟨rfl, after⟩
        · rcases later with further | ⟨rfl, _⟩ <;> omega
        · rcases later with further | ⟨_, later⟩
          · omega
          · simpa [List.isPrefixOf] using ih after (by simpa [List.isPrefixOf] using other) later
      · simp [List.isPrefixOf, same]

theorem takeWhile_isPrefix {s : Text} {words : List Text}
    (sorted : words.Pairwise fun a b => precedes a b = true)
    (after : ∀ w ∈ words, precedes s w = true) :
    words.takeWhile s.isPrefixOf = words.filter s.isPrefixOf := by
  induction words with
  | nil => rfl
  | cons w words ih =>
    obtain ⟨least, sorted⟩ := List.pairwise_cons.mp sorted
    obtain ⟨first, after⟩ := List.forall_mem_cons.mp after
    cases begins : s.isPrefixOf w with
    | true => simp [begins, ih sorted after]
    | false =>
      have none : ∀ v ∈ words, ¬s.isPrefixOf v = true := fun v member => by
        simp [not_isPrefix_of_passed first begins (least v member)]
      simp only [List.takeWhile_cons, List.filter_cons, begins]
      exact (List.filter_eq_nil_iff.mpr none).symm

theorem precedes_of_le {words : List Text} {t : Text} {i j : Nat}
    (sorted : words.Pairwise fun a b => precedes a b = true) (le : i ≤ j)
    (within : j < words.length) (reached : precedes t words[i] = true) :
    precedes t words[j] = true := by
  rcases Nat.eq_or_lt_of_le le with rfl | less
  · exact reached
  · exact precedes_trans reached (List.pairwise_iff_getElem.mp sorted i j _ within less)

theorem placeAmong_le_iff {words : List Text} {t : Text} {low high i : Nat}
    (sorted : words.Pairwise fun a b => precedes a b = true)
    (inside : high ≤ words.toArray.size) (ordered : low ≤ high)
    (before : ∀ i (within : i < words.length), i < low → precedes t words[i] = false)
    (after : ∀ i (within : i < words.length), high ≤ i → precedes t words[i] = true)
    (within : i < words.length) :
    placeAmong words.toArray t low high inside ≤ i ↔ precedes t words[i] = true := by
  fun_induction placeAmong words.toArray t low high inside with
  | case1 low high inside waiting reached ih =>
    exact ih (by omega) before fun i within later => precedes_of_le sorted later within reached
  | case2 low high inside waiting passed ih =>
    refine ih (by omega) (fun i within earlier => Bool.eq_false_iff.mpr fun reached => passed ?_)
      after
    exact precedes_of_le sorted (Nat.le_of_lt_succ earlier) _ reached
  | case3 low high inside finished =>
    constructor
    · exact fun later => after i within (by omega)
    · intro reached
      by_contra earlier
      cases (before i within (by omega)).symm.trans reached

theorem prefixScan_eq_filter {s : Text} {words : List Text} {place : Nat}
    (sorted : words.Pairwise fun a b => precedes a b = true)
    (parts : ∀ i (within : i < words.length), place ≤ i ↔ precedes s words[i] = true) :
    (words.drop place).takeWhile s.isPrefixOf = words.filter s.isPrefixOf := by
  have after : ∀ w ∈ words.drop place, precedes s w = true := by
    intro w member
    obtain ⟨i, within, rfl⟩ := List.mem_drop_iff_getElem.mp member
    exact (parts _ (by omega)).mp (Nat.le_add_right place i)
  have none : ∀ w ∈ words.take place, ¬s.isPrefixOf w = true := by
    intro w member begins
    obtain ⟨i, within, rfl⟩ := List.mem_take_iff_getElem.mp member
    have later := (parts i (by omega)).mpr (precedes_of_isPrefix begins)
    omega
  calc
    (words.drop place).takeWhile s.isPrefixOf = (words.drop place).filter s.isPrefixOf :=
      takeWhile_isPrefix (sorted.sublist (List.drop_sublist place words)) after
    _ = (words.take place ++ words.drop place).filter s.isPrefixOf := by
      rw [List.filter_append, List.filter_eq_nil_iff.mpr none, List.nil_append]
    _ = words.filter s.isPrefixOf := by rw [List.take_append_drop]

theorem precedes_antisymm {s t : Text} (first : precedes s t = true)
    (second : precedes t s = true) : s = t := by
  induction s generalizing t with
  | nil =>
    cases t with
    | nil => rfl
    | cons d t => simp [precedes] at second
  | cons c s ih =>
    cases t with
    | nil => simp [precedes] at first
    | cons d t =>
      simp only [precedes, Bool.or_eq_true, decide_eq_true_eq, Bool.and_eq_true,
        beq_iff_eq] at first second
      rcases first with less | ⟨rfl, first⟩
      · rcases second with greater | ⟨rfl, _⟩ <;> omega
      · rcases second with greater | ⟨_, second⟩
        · omega
        · rw [ih first second]

def Ascending (words : List Text) : Prop := words.Pairwise fun a b => precedes a b = true ∧ a ≠ b

theorem ascending_of_sorted {words : List Text}
    (sorted : words.Pairwise fun a b => precedes a b = true) (distinct : words.Nodup) :
    Ascending words :=
  sorted.and distinct

theorem Ascending.eq_of_mem_iff {first second : List Text} (left : Ascending first)
    (right : Ascending second) (same : ∀ w, w ∈ first ↔ w ∈ second) : first = second := by
  have perm := (List.perm_ext_iff_of_nodup (left.imp And.right) (right.imp And.right)).mpr same
  apply List.Perm.eq_of_pairwise _ (left.imp And.left) (right.imp And.left) perm
  intro a b _ _ before after
  exact precedes_antisymm before after

theorem sorted_mergeSort (words : List Text) :
    (words.mergeSort precedes).Pairwise fun a b => precedes a b = true :=
  @List.pairwise_mergeSort _ precedes (fun _ _ _ => precedes_trans) precedes_total words

theorem mergeSort_eq {first second : List Text} (perm : first.Perm second)
    (sorted : second.Pairwise fun a b => precedes a b = true) :
    first.mergeSort precedes = second := by
  apply List.Perm.eq_of_pairwise _ (sorted_mergeSort first) sorted
    ((List.mergeSort_perm _ _).trans perm)
  intro a b _ _ before after
  exact precedes_antisymm before after

theorem nodup_eraseDups (words : List Text) : words.eraseDups.Nodup := by
  cases words with
  | nil => exact List.Pairwise.nil
  | cons w words =>
    have fewer := List.length_filter_le (fun v => !v == w) words
    rw [List.eraseDups_cons, List.nodup_cons]
    constructor
    · simp
    · exact nodup_eraseDups _
termination_by words.length

end Text

end Concordance
