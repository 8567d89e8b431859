import Concordance.Proofs.Words
import Mathlib.Data.List.Infix
import Mathlib.Data.List.Pairwise
import Mathlib.Data.List.Sort

/-! Leftmost occurrences of a text in another one. They do not overlap, and each occurrence there is
begins at or inside of one of them; there is one list of offsets of this kind, and the scan finds
it. -/
namespace Concordance.Text
variable {needle t gap rest : Text} {offset i j : Nat} {offsets others : List Nat}

def StandsAt (needle t : Text) (offset : Nat) : Prop := needle <+: t.drop offset

/-- Offsets of the leftmost occurrences, taken one behind the other. -/
structure Leftmost (needle t : Text) (offsets : List Nat) : Prop where
  stand : ∀ i ∈ offsets, StandsAt needle t i
  apart : offsets.Pairwise fun i j => i + needle.length ≤ j
  reach : ∀ i, StandsAt needle t i → ∃ j ∈ offsets, j ≤ i ∧ i < j + needle.length

theorem StandsAt.within (stands : StandsAt needle t i) : needle <:+: t :=
  stands.isInfix.trans (List.drop_suffix i t).isInfix

theorem standsAt_behind (needle front t : Text) (i : Nat) :
    StandsAt needle (front ++ t) (front.length + i) ↔ StandsAt needle t i := by
  rw [StandsAt, List.drop_length_add_append, ← StandsAt]

theorem not_within_gap (nonempty : needle ≠ [])
    (first : ∀ i < gap.length, ¬StandsAt needle (gap ++ rest) i) : ¬needle <:+: gap := by
  rintro ⟨front, back, rfl⟩
  have positive := List.length_pos_iff.mpr nonempty
  apply first front.length
  · rw [List.length_append, List.length_append]
    omega
  · rw [StandsAt, List.append_assoc, List.append_assoc, List.drop_left]
    exact List.prefix_append _ _

namespace Leftmost

theorem separate (leftmost : Leftmost needle t offsets) (first : i ∈ offsets)
    (second : j ∈ offsets) (less : i < j) : i + needle.length ≤ j := by
  have either : offsets.Pairwise fun i j => i + needle.length ≤ j ∨ j + needle.length ≤ i :=
    leftmost.apart.imp .inl
  have : Std.Symm fun i j => i + needle.length ≤ j ∨ j + needle.length ≤ i :=
    ⟨fun _ _ => Or.symm⟩
  rcases either.forall first second (Nat.ne_of_lt less) with apart | apart
  · exact apart
  · omega

theorem mem_of_mem (left : Leftmost needle t offsets) (right : Leftmost needle t others) :
    (i ∈ offsets → i ∈ others) ∧ (i ∈ others → i ∈ offsets) := by
  induction i using Nat.strong_induction_on with
  | h i ih =>
    constructor
    · intro member
      obtain ⟨j, other, before, inside⟩ := right.reach i (left.stand i member)
      rcases Nat.eq_or_lt_of_le before with rfl | less
      · exact other
      · have := left.separate ((ih j less).2 other) member less
        omega
    · intro member
      obtain ⟨j, other, before, inside⟩ := left.reach i (right.stand i member)
      rcases Nat.eq_or_lt_of_le before with rfl | less
      · exact other
      · have := right.separate ((ih j less).1 other) member less
        omega

theorem unique (nonempty : needle ≠ []) (left : Leftmost needle t offsets)
    (right : Leftmost needle t others) : offsets = others := by
  have positive := List.length_pos_iff.mpr nonempty
  have ascending {list : List Nat} (leftmost : Leftmost needle t list) : list.Pairwise (· < ·) :=
    leftmost.apart.imp fun apart => by omega
  exact (ascending left).eq_of_mem_iff (ascending right) fun i =>
    ⟨(mem_of_mem left right).1, (mem_of_mem left right).2⟩

end Leftmost

section Scan

theorem occurrencesFrom_skip (needle : Text) (offset skip : Nat) (t : Text) :
    occurrencesFrom needle offset skip t =
      occurrencesFrom needle (offset + skip) 0 (t.drop skip) := by
  induction t generalizing offset skip with
  | nil => simp [occurrencesFrom]
  | cons c t ih =>
    cases skip with
    | zero => rfl
    | succ skip =>
      rw [occurrencesFrom, ih, List.drop_succ_cons, Nat.add_right_comm, Nat.add_assoc]

theorem occurrencesFrom_shift (needle : Text) (front offset skip : Nat) (t : Text) :
    occurrencesFrom needle (front + offset) skip t =
      (occurrencesFrom needle offset skip t).map (front + ·) := by
  induction t generalizing offset skip with
  | nil => rfl
  | cons c t ih =>
    cases skip with
    | zero =>
      rw [occurrencesFrom, occurrencesFrom, Nat.add_assoc, ih, ih]
      split <;> rfl
    | succ skip => rw [occurrencesFrom, occurrencesFrom, Nat.add_assoc, ih]

theorem occurrencesFrom_eq_nil {needle : Text} (nonempty : needle ≠ []) (offset : Nat) (t : Text) :
    occurrencesFrom needle offset 0 t = [] ↔ occursIn needle t = false := by
  induction t generalizing offset with
  | nil => simp [occurrencesFrom, occursIn, nonempty]
  | cons c t ih =>
    cases begins : needle.isPrefixOf (c :: t) with
    | true => simp [occurrencesFrom, occursIn, begins]
    | false => simp [occurrencesFrom, occursIn, begins, ih]

theorem occurrencesFrom_first (nonempty : needle ≠ [])
    (first : ∀ i < gap.length, ¬StandsAt needle (gap ++ (needle ++ rest)) i) :
    occurrencesFrom needle offset 0 (gap ++ (needle ++ rest)) =
      (offset + gap.length) ::
        occurrencesFrom needle (offset + gap.length + needle.length) 0 rest := by
  induction gap generalizing offset with
  | nil =>
    cases needle with
    | nil => exact absurd rfl nonempty
    | cons c needle =>
      have begins : (c :: needle).isPrefixOf (c :: (needle ++ rest)) = true := by simp
      rw [List.nil_append, List.cons_append, occurrencesFrom, if_pos begins, occurrencesFrom_skip,
        List.length_cons, Nat.add_sub_cancel, List.drop_left, Nat.add_assoc, Nat.add_comm 1]
      rfl
  | cons g gap ih =>
    have other : ¬needle.isPrefixOf (g :: (gap ++ (needle ++ rest))) = true := by
      rw [List.isPrefixOf_iff_prefix]
      exact first 0 (Nat.zero_lt_succ _)
    have later : ∀ i < gap.length, ¬StandsAt needle (gap ++ (needle ++ rest)) i :=
      fun i less => first (i + 1) (Nat.succ_lt_succ less)
    rw [List.cons_append, occurrencesFrom, if_neg other, ih later, List.length_cons,
      Nat.add_assoc offset 1, Nat.add_comm 1]

theorem occurrences_first (nonempty : needle ≠ [])
    (first : ∀ i < gap.length, ¬StandsAt needle (gap ++ (needle ++ rest)) i) :
    occurrences needle (gap ++ (needle ++ rest)) =
      gap.length :: (occurrences needle rest).map (gap.length + needle.length + ·) := by
  rw [occurrences, occurrencesFrom_first nonempty first, Nat.zero_add, occurrences,
    ← occurrencesFrom_shift, Nat.add_zero]

theorem exists_first (occurs : occursIn needle t = true) :
    ∃ gap rest, t = gap ++ (needle ++ rest) ∧ ∀ i < gap.length, ¬StandsAt needle t i := by
  induction t with
  | nil =>
    obtain rfl : needle = [] := by simpa [occursIn] using occurs
    exact ⟨[], [], rfl, fun i less => absurd less (Nat.not_lt_zero i)⟩
  | cons c t ih =>
    rcases Bool.eq_false_or_eq_true (needle.isPrefixOf (c :: t)) with begins | other
    · obtain ⟨rest, same⟩ := List.isPrefixOf_iff_prefix.mp begins
      exact ⟨[], rest, same.symm, fun i less => absurd less (Nat.not_lt_zero i)⟩
    · rw [occursIn, other, Bool.false_or] at occurs
      obtain ⟨gap, rest, same, first⟩ := ih occurs
      refine ⟨c :: gap, rest, by rw [same, List.cons_append], ?_⟩
      intro i less
      cases i with
      | zero =>
        intro begins
        cases (List.isPrefixOf_iff_prefix.mpr begins).symm.trans other
      | succ i => exact first i (Nat.lt_of_succ_lt_succ less)

/-- Induction along the scan: a text without an occurrence, and one with a first occurrence and what
is behind it. -/
theorem scan_induction {motive : Text → Prop} (nonempty : needle ≠ [])
    (absent : ∀ t, occursIn needle t = false → motive t)
    (first : ∀ gap rest, (∀ i < gap.length, ¬StandsAt needle (gap ++ (needle ++ rest)) i) →
      motive rest → motive (gap ++ (needle ++ rest))) (t : Text) : motive t := by
  induction length : t.length using Nat.strong_induction_on generalizing t with
  | h n ih =>
    cases occurs : occursIn needle t with
    | false => exact absent t occurs
    | true =>
      obtain ⟨gap, rest, rfl, before⟩ := exists_first occurs
      have positive := List.length_pos_iff.mpr nonempty
      rw [List.length_append, List.length_append] at length
      exact first gap rest before (ih rest.length (by omega) rest rfl)

theorem leftmost_occurrences (nonempty : needle ≠ []) (t : Text) :
    Leftmost needle t (occurrences needle t) := by
  induction t using scan_induction nonempty with
  | absent t absent =>
    have none : occurrences needle t = [] := (occurrencesFrom_eq_nil nonempty 0 t).mpr absent
    rw [none]
    refine ⟨nofun, .nil, fun i stands => ?_⟩
    cases absent.symm.trans (occursIn_iff_within.mpr stands.within)
  | first gap rest before ih =>
    have behind (i : Nat) : StandsAt needle (gap ++ (needle ++ rest))
        (gap.length + needle.length + i) ↔ StandsAt needle rest i := by
      rw [← List.append_assoc, ← List.length_append, standsAt_behind]
    rw [occurrences_first nonempty before]
    refine ⟨?_, List.pairwise_cons.mpr ⟨?_, ?_⟩, ?_⟩
    · intro i member
      rcases List.mem_cons.mp member with rfl | later
      · rw [StandsAt, List.drop_left]
        exact List.prefix_append needle rest
      · obtain ⟨i, found, rfl⟩ := List.mem_map.mp later
        exact (behind i).mpr (ih.stand i found)
    · intro j later
      obtain ⟨j, _, rfl⟩ := List.mem_map.mp later
      omega
    · exact ih.apart.map _ fun i j apart => by omega
    · intro i stands
      rcases Nat.lt_or_ge i (gap.length + needle.length) with inside | later
      · have reached : gap.length ≤ i := by
          by_contra less
          exact before i (by omega) stands
        exact ⟨gap.length, List.mem_cons_self, reached, inside⟩
      · obtain ⟨i, rfl⟩ := Nat.exists_eq_add_of_le later
        obtain ⟨j, found, least, most⟩ := ih.reach i ((behind i).mp stands)
        exact ⟨_, List.mem_cons_of_mem _ (List.mem_map_of_mem found), by omega, by omega⟩

theorem leftmost_iff (nonempty : needle ≠ []) :
    Leftmost needle t offsets ↔ offsets = occurrences needle t := by
  constructor
  · intro leftmost
    exact leftmost.unique nonempty (leftmost_occurrences nonempty t)
  · rintro rfl
    exact leftmost_occurrences nonempty t

end Scan
end Concordance.Text
