import Concordance.Proofs.Reward
import Concordance.Proofs.WholeWords
import Mathlib.Order.Bounds.Basic
import Mathlib.Order.Nat

/-! What is counted of a word in a text. A scan looks for the first occurrence from a place on,
counts it by the characters beside it, and goes on behind it until no occurrence is left. It ends
for every word that is not empty, and what it visits are the leftmost occurrences: each of them is
counted once. -/
namespace Concordance
open Text

namespace Text
variable {word t : Text} {offsets : List Nat} {i : Nat}

def BoundaryBefore (t : Text) (i : Nat) : Prop :=
  ∀ c ∈ (t.take i).getLast?, Unicode.isWordChar c = false

def BoundaryBehind (word t : Text) (i : Nat) : Prop :=
  ∀ c ∈ (t.drop (i + word.length)).head?, Unicode.isWordChar c = false

instance (t : Text) : DecidablePred (BoundaryBefore t) :=
  fun _ => decidable_of_iff _ any_eq_false

instance (word t : Text) : DecidablePred (BoundaryBehind word t) :=
  fun _ => decidable_of_iff _ any_eq_false

theorem opensAt_iff_boundary (nonempty : word ≠ []) (stands : StandsAt word t i) :
    Placement.opensAt t i = true ↔ BoundaryBefore t i := by
  obtain ⟨u, v, rfl, rfl⟩ := (standsAt_iff nonempty).mp stands
  rw [opensAt_iff, BoundaryBefore, List.take_left]

theorem closesAt_iff_boundary (nonempty : word ≠ []) (stands : StandsAt word t i) :
    Placement.closesAt t (i + word.length) = true ↔ BoundaryBehind word t i := by
  obtain ⟨u, v, rfl, rfl⟩ := (standsAt_iff nonempty).mp stands
  rw [closesAt_iff, BoundaryBehind, ← List.append_assoc, ← List.length_append, List.drop_left]

theorem StandsAt.end_le (stands : StandsAt word t i) (nonempty : word ≠ []) :
    i + word.length ≤ t.length := by
  obtain ⟨u, v, rfl, rfl⟩ := (standsAt_iff nonempty).mp stands
  rw [List.length_append, List.length_append]
  omega

theorem occurrences_eq_nil (nonempty : word ≠ []) : occurrences word t = [] ↔ ¬word <:+: t := by
  rw [occurrences, occurrencesFrom_eq_nil nonempty, ← occursIn_iff_within, Bool.not_eq_true]

namespace Leftmost

theorem head?_isLeast (leftmost : Leftmost word t offsets) (head : offsets.head? = some i) :
    IsLeast {i | StandsAt word t i} i := by
  obtain ⟨rest, rfl⟩ := List.head?_eq_some_iff.mp head
  refine ⟨leftmost.stand i List.mem_cons_self, fun j stands => ?_⟩
  obtain ⟨k, member, before, _⟩ := leftmost.reach j stands
  rcases List.mem_cons.mp member with rfl | later
  · exact before
  · have := List.rel_of_pairwise_cons leftmost.apart later
    omega

theorem head?_eq_some_iff (leftmost : Leftmost word t offsets) :
    offsets.head? = some i ↔ IsLeast {i | StandsAt word t i} i := by
  constructor
  · exact leftmost.head?_isLeast
  · intro least
    obtain ⟨j, member, _⟩ := leftmost.reach i least.1
    obtain ⟨first, rest, rfl⟩ := List.exists_cons_of_ne_nil (List.ne_nil_of_mem member)
    rw [List.head?_cons, (leftmost.head?_isLeast List.head?_cons).unique least]

end Leftmost
end Text

namespace Placement
variable {word t : Text} {offsets : List Nat} {i : Nat}

def Beside (word t : Text) (i : Nat) : Placement → Prop
  | whole => BoundaryBefore t i ∧ BoundaryBehind word t i
  | leading => BoundaryBefore t i ∧ ¬BoundaryBehind word t i
  | inner => ¬BoundaryBefore t i

instance (word t : Text) (i : Nat) : DecidablePred (Beside word t i)
  | whole => inferInstanceAs (Decidable (BoundaryBefore t i ∧ BoundaryBehind word t i))
  | leading => inferInstanceAs (Decidable (BoundaryBefore t i ∧ ¬BoundaryBehind word t i))
  | inner => inferInstanceAs (Decidable ¬BoundaryBefore t i)

theorem of_eq_iff_beside (nonempty : word ≠ []) (stands : StandsAt word t i)
    (placement : Placement) : of t i word.length = placement ↔ placement.Beside word t i := by
  have opens := opensAt_iff_boundary nonempty stands
  have closes := closesAt_iff_boundary nonempty stands
  simp only [of, opens, closes]
  by_cases before : BoundaryBefore t i <;> by_cases behind : BoundaryBehind word t i <;>
    cases placement <;> simp [Beside, before, behind]

theorem count_beside (nonempty : word ≠ []) (stand : ∀ i ∈ offsets, StandsAt word t i)
    (placement : Placement) : (offsets.map fun i => of t i word.length).count placement =
      offsets.countP fun i => placement.Beside word t i := by
  rw [List.count_eq_countP, List.countP_map]
  apply List.countP_congr
  intro i member
  simpa using of_eq_iff_beside nonempty (stand i member) placement

end Placement

namespace WordHits
variable {word t : Text} {start i : Nat} {before offsets : List Nat} {hits final : WordHits}

section Scan

def visit (word t : Text) (hits : WordHits) (i : Nat) : WordHits :=
  let hits := { hits with first := hits.first.or (some i) }
  match Placement.of t i word.length with
  | .whole => { hits with whole := hits.whole + 1 }
  | .leading => { hits with leading := hits.leading + 1 }
  | .inner => { hits with inner := hits.inner + 1 }

/-- A scan from a place on: what is counted before it, the offsets it visits, and what is counted
in the end. -/
inductive Scan (word t : Text) : Nat → WordHits → List Nat → WordHits → Prop
  | ended {start : Nat} {hits : WordHits} (absent : ∀ i, start ≤ i → ¬StandsAt word t i) :
    Scan word t start hits [] hits
  | visited {start i : Nat} {hits final : WordHits} {offsets : List Nat}
    (first : IsLeast {i | start ≤ i ∧ StandsAt word t i} i)
    (later : Scan word t (i + word.length) (hits.visit word t i) offsets final) :
    Scan word t start hits (i :: offsets) final

theorem tally_concat (word t : Text) (before : List Nat) (i : Nat) :
    tally word t (before ++ [i]) = (tally word t before).visit word t i := by
  cases placement : Placement.of t i word.length <;>
    simp [tally, visit, placement, List.count_append, List.head?_append]

-- over every list of offsets before: a visit adds one to them
theorem Scan.final_eq (scan : Scan word t start hits offsets final)
    (counted : hits = tally word t before) : final = tally word t (before ++ offsets) := by
  induction scan generalizing before with
  | ended => rw [counted, List.append_nil]
  | @visited _ i hits final offsets _ _ ih =>
    have visited : hits.visit word t i = tally word t (before ++ [i]) := by
      rw [counted, tally_concat]
    calc final = tally word t (before ++ [i] ++ offsets) := ih visited
      _ = tally word t (before ++ i :: offsets) := by rw [List.append_assoc, List.singleton_append]

theorem Scan.stand (scan : Scan word t start hits offsets final) :
    ∀ i ∈ offsets, start ≤ i ∧ StandsAt word t i := by
  induction scan with
  | ended => nofun
  | visited first _ ih =>
    refine List.forall_mem_cons.mpr ⟨first.1, fun j later => ?_⟩
    obtain ⟨ahead, _⟩ := first.1
    obtain ⟨behind, stands⟩ := ih j later
    exact ⟨by omega, stands⟩

theorem Scan.apart (scan : Scan word t start hits offsets final) :
    offsets.Pairwise fun i j => i + word.length ≤ j := by
  induction scan with
  | ended => exact .nil
  | visited _ later ih => exact List.pairwise_cons.mpr ⟨fun j member => (later.stand j member).1, ih⟩

theorem Scan.reach (scan : Scan word t start hits offsets final) (ahead : start ≤ i)
    (stands : StandsAt word t i) : ∃ j ∈ offsets, j ≤ i ∧ i < j + word.length := by
  induction scan with
  | ended absent => exact absurd stands (absent i ahead)
  | @visited _ j _ _ _ first _ ih =>
    rcases Nat.lt_or_ge i (j + word.length) with inside | behind
    · exact ⟨j, List.mem_cons_self, first.2 ⟨ahead, stands⟩, inside⟩
    · obtain ⟨k, member, found⟩ := ih behind
      exact ⟨k, List.mem_cons_of_mem j member, found⟩

theorem Scan.leftmost (scan : Scan word t 0 hits offsets final) : Leftmost word t offsets where
  stand i member := (scan.stand i member).2
  apart := scan.apart
  reach i stands := scan.reach (Nat.zero_le i) stands

theorem exists_scan (nonempty : word ≠ []) (start : Nat) (hits : WordHits) :
    ∃ offsets final, Scan word t start hits offsets final := by
  -- a visit takes at least one character, so less of the text is left behind it
  induction left : t.length - start using Nat.strong_induction_on generalizing start hits with
  | h n ih =>
    by_cases occurs : ∃ i, start ≤ i ∧ StandsAt word t i
    · classical
      obtain ⟨i, first⟩ : ∃ i, IsLeast {i | start ≤ i ∧ StandsAt word t i} i :=
        ⟨_, Nat.isLeast_find occurs⟩
      obtain ⟨behind, stands⟩ := first.1
      have within := stands.end_le nonempty
      have positive := List.length_pos_iff.mpr nonempty
      obtain ⟨offsets, final, later⟩ :=
        ih _ (by omega) (i + word.length) (hits.visit word t i) rfl
      exact ⟨i :: offsets, final, .visited first later⟩
    · exact ⟨[], hits, .ended fun i behind stands => occurs ⟨i, behind, stands⟩⟩

theorem scan_ends_iff : (∃ offsets final, Scan word t start hits offsets final) ↔ word ≠ [] := by
  constructor
  · rintro ⟨offsets, final, scan⟩ rfl
    induction scan with
    | ended absent => exact absent _ (Nat.le_refl _) List.nil_prefix
    | visited _ _ ih => exact ih
  · intro nonempty
    exact exists_scan nonempty start hits

theorem scan_iff (nonempty : word ≠ []) : Scan word t 0 {} offsets final ↔
    offsets = occurrences word t ∧ final = of word t := by
  have visits {offsets : List Nat} {final : WordHits} (scan : Scan word t 0 {} offsets final) :
      offsets = occurrences word t ∧ final = of word t := by
    have visited : offsets = occurrences word t := (leftmost_iff nonempty).mp scan.leftmost
    have blank : {} = tally word t [] := rfl
    refine ⟨visited, ?_⟩
    rw [scan.final_eq blank, List.nil_append, visited, of_eq_tally nonempty]
  constructor
  · exact visits
  · rintro ⟨rfl, rfl⟩
    obtain ⟨offsets, final, scan⟩ := scan_ends_iff.mpr nonempty
    obtain ⟨rfl, rfl⟩ := visits scan
    exact scan

end Scan

/-- A scan for a word ends, whatever the text is. It visits the leftmost occurrences and no others,
and each of them counts in one class, by whether a word character stands before it, and if none
does, by whether one stands behind it. The first offset is that of the first occurrence of all, and
nothing is found or counted exactly if the word does not occur. -/
theorem scan_classifies_leftmost (nonempty : word ≠ []) (t : Text) :
    ∃ offsets,
      (∀ others, Leftmost word t others ↔ others = offsets) ∧
      (∀ visited final, Scan word t 0 {} visited final ↔
        visited = offsets ∧ final = of word t) ∧
      ((of word t).whole =
        offsets.countP fun i => BoundaryBefore t i ∧ BoundaryBehind word t i) ∧
      ((of word t).leading =
        offsets.countP fun i => BoundaryBefore t i ∧ ¬BoundaryBehind word t i) ∧
      ((of word t).inner = offsets.countP fun i => ¬BoundaryBefore t i) ∧
      (of word t).whole + (of word t).leading + (of word t).inner = offsets.length ∧
      (∀ i, (of word t).first = some i ↔ IsLeast {i | StandsAt word t i} i) ∧
      ((of word t).first = none ↔ ¬word <:+: t) ∧
      (of word t = {} ↔ ¬word <:+: t) := by
  have leftmost := leftmost_occurrences nonempty t
  have counted := of_eq_tally nonempty t
  have first : (of word t).first = (occurrences word t).head? := by rw [counted, tally]
  have absent : (of word t).first = none ↔ ¬word <:+: t := by
    rw [first, List.head?_eq_none_iff, occurrences_eq_nil nonempty]
  refine ⟨occurrences word t, fun _ => leftmost_iff nonempty, fun _ _ => scan_iff nonempty,
    ?_, ?_, ?_, ?_, fun i => ?_, absent, ?_⟩
  · rw [counted]
    exact Placement.count_beside nonempty leftmost.stand .whole
  · rw [counted]
    exact Placement.count_beside nonempty leftmost.stand .leading
  · rw [counted]
    exact Placement.count_beside nonempty leftmost.stand .inner
  · simp only [counted, tally, count_placements, List.length_map]
  · rw [first, leftmost.head?_eq_some_iff]
  · constructor
    · intro blank
      exact absent.mp (by rw [blank])
    · intro none
      exact of_absent (Bool.eq_false_iff.mpr fun occurs => none (occursIn_iff_within.mp occurs))

theorem doubled_letters_classified :
    "aa".toList ≠ [] ∧
    (∀ others, Leftmost "aa".toList "aaaa baa aa".toList others ↔ others = [0, 2, 6, 9]) ∧
    (∀ visited final, Scan "aa".toList "aaaa baa aa".toList 0 {} visited final ↔
      visited = [0, 2, 6, 9] ∧
        final = { whole := 1, leading := 1, inner := 2, first := some 0 }) ∧
    IsLeast {i | StandsAt "aa".toList "aaaa baa aa".toList i} 0 ∧
    "aa".toList <:+: "aaaa baa aa".toList := by
  have nonempty : "aa".toList ≠ [] := by decide
  have found : of "aa".toList "aaaa baa aa".toList =
      { whole := 1, leading := 1, inner := 2, first := some 0 } := by decide
  obtain ⟨offsets, leftmost, scan, _, _, _, _, first, absent, _⟩ :=
    scan_classifies_leftmost nonempty "aaaa baa aa".toList
  have places : occurrences "aa".toList "aaaa baa aa".toList = [0, 2, 6, 9] := by decide
  obtain rfl : [0, 2, 6, 9] = offsets :=
    (leftmost _).mp ((leftmost_iff nonempty).mpr places.symm)
  rw [found] at scan first absent
  refine ⟨nonempty, leftmost, scan, (first 0).mp rfl, ?_⟩
  by_contra missing
  cases absent.mpr missing

end WordHits
end Concordance
