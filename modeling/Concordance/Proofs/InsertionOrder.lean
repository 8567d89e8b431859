import Concordance.Statistics.Insertion
import Mathlib.Data.List.Chain
import Mathlib.Order.Lattice

/-! The order that sorting by insertion leaves. If an element precedes another exactly if its key is
below the other's, the search finds the place in front of which no element comes behind it, and all
elements ascend in the key at the end. The order needs to be that of the key among the sorted
elements only, so numbers that have no order do no harm as long as none of them is sorted. -/
namespace Concordance.Insertion
variable {α β : Type} [LinearOrder β] {precedes : α → α → Bool} {key : α → β} {x : α}
  {others xs : List α}

def AscendingIn (key : α → β) (xs : List α) : Prop := xs.Pairwise fun a b => key a ≤ key b

def OrderedBy (precedes : α → α → Bool) (key : α → β) (xs : List α) : Prop :=
  ∀ a ∈ xs, ∀ b ∈ xs, precedes a b = decide (key a < key b)

theorem OrderedBy.mono (ordered : OrderedBy precedes key xs) (subset : others ⊆ xs) :
    OrderedBy precedes key others :=
  fun a left b right => ordered a (subset left) b (subset right)

structure Parts (key : α → β) (x : α) (others : List α) (low high : Nat) : Prop where
  before : ∀ i y, others[i]? = some y → i < low → key y ≤ key x
  behind : ∀ i y, others[i]? = some y → high ≤ i → key x < key y

theorem AscendingIn.le {i j : Nat} {a b : α} (ascending : AscendingIn key others)
    (first : others[i]? = some a) (second : others[j]? = some b) (le : i ≤ j) :
    key a ≤ key b := by
  obtain ⟨short, rfl⟩ := List.getElem?_eq_some_iff.mp first
  obtain ⟨shorter, rfl⟩ := List.getElem?_eq_some_iff.mp second
  rcases Nat.eq_or_lt_of_le le with rfl | less
  · exact le_refl _
  · exact List.pairwise_iff_getElem.mp ascending i j short shorter less

theorem parts_place (ascending : AscendingIn key others)
    (ordered : ∀ y ∈ others, precedes x y = decide (key x < key y)) (low high : Nat)
    (within : high ≤ others.length) (parts : Parts key x others low high) :
    Parts key x others (place precedes x others low high) (place precedes x others low high) := by
  fun_induction place precedes x others low high with
  | case1 low high some middle none =>
    rw [List.getElem?_eq_none_iff] at none
    omega
  | case2 low high some middle y found first ih =>
    rw [ordered y (List.mem_of_getElem? found), decide_eq_true_iff] at first
    refine ih (by omega) ⟨parts.before, fun i z later from_ => ?_⟩
    exact lt_of_lt_of_le first (ascending.le found later from_)
  | case3 low high some middle y found second ih =>
    rw [ordered y (List.mem_of_getElem? found), decide_eq_true_iff, not_lt] at second
    refine ih within ⟨fun i z earlier upTo => ?_, parts.behind⟩
    exact (ascending.le earlier found (Nat.le_of_lt_succ upTo)).trans second
  | case4 low high none =>
    exact ⟨parts.before, fun i y found from_ => parts.behind i y found (by omega)⟩

theorem ascending_insert (ascending : AscendingIn key others)
    (ordered : ∀ y ∈ others, precedes x y = decide (key x < key y)) :
    AscendingIn key (insert precedes others x) := by
  obtain ⟨before, behind⟩ := parts_place ascending ordered 0 others.length (Nat.le_refl _)
    ⟨fun _ _ _ none => absurd none (Nat.not_lt_zero _), fun i y found past =>
      absurd past (Nat.not_le_of_lt (List.getElem?_eq_some_iff.mp found).1)⟩
  unfold insert
  generalize place precedes x others 0 others.length = n at before behind
  have front : ∀ y ∈ others.take n, key y ≤ key x := by
    intro y member
    obtain ⟨i, found⟩ := List.mem_iff_getElem?.mp member
    rw [List.getElem?_take] at found
    split at found
    · exact before i y found ‹_›
    · cases found
  have rear : ∀ y ∈ others.drop n, key x < key y := by
    intro y member
    obtain ⟨i, found⟩ := List.mem_iff_getElem?.mp member
    rw [List.getElem?_drop] at found
    exact behind (n + i) y found (Nat.le_add_right n i)
  refine List.pairwise_append.mpr ⟨ascending.sublist (List.take_sublist _ _),
    List.pairwise_cons.mpr ⟨fun y member => (rear y member).le,
      ascending.sublist (List.drop_sublist _ _)⟩, fun a left b right => ?_⟩
  rcases List.mem_cons.mp right with rfl | right
  · exact front a left
  · exact (front a left).trans (rear b right).le

theorem ascending_foldl_insert {start : List α} (ascending : AscendingIn key start)
    (ordered : OrderedBy precedes key (start ++ xs)) :
    AscendingIn key (xs.foldl (insert precedes) start) := by
  induction xs generalizing start with
  | nil => exact ascending
  | cons x xs ih =>
    have moved := (insert_perm precedes start x).append_right xs
    refine ih (ascending_insert ascending fun y member => ?_) (ordered.mono ?_)
    · exact ordered x (by simp) y (List.mem_append_left _ member)
    · exact (moved.trans List.perm_middle.symm).subset

theorem isChain_takeRun (keeps : α → α → Bool) (last : α) (xs : List α) :
    (last :: (takeRun keeps last xs).1).IsChain fun a b => keeps a b = true := by
  induction xs generalizing last with
  | nil => exact .singleton last
  | cons x xs ih =>
    by_cases kept : keeps last x
    · simpa [takeRun, kept] using ih x
    · simp [takeRun, kept]

theorem ascending_start {descends : Bool} (ordered : OrderedBy precedes key xs)
    (run : xs.IsChain fun a b => (precedes b a == descends) = true) :
    AscendingIn key (if descends then xs.reverse else xs) := by
  cases descends with
  | true =>
    rw [if_pos rfl, AscendingIn, List.pairwise_reverse]
    have descending : (xs.map key).IsChain (· > ·) := (List.isChain_map key).mpr <|
      run.imp_of_mem_imp fun a b left right down => by
        simpa [ordered b right a left] using down
    exact (List.pairwise_map.mp (List.isChain_iff_pairwise.mp descending)).imp le_of_lt
  | false =>
    rw [if_neg Bool.false_ne_true]
    have ascending : (xs.map key).IsChain (· ≤ ·) := (List.isChain_map key).mpr <|
      run.imp_of_mem_imp fun a b left right up => by
        simpa [ordered b right a left] using up
    exact List.pairwise_map.mp (List.isChain_iff_pairwise.mp ascending)

theorem ascending_sort (ordered : OrderedBy precedes key xs) :
    AscendingIn key (sort precedes xs) := by
  match xs with
  | [] => exact .nil
  | [x] => exact List.pairwise_singleton _ x
  | x :: y :: rest =>
    have whole := takeRun_append (fun a b => precedes b a == precedes y x) y rest
    have run := isChain_takeRun (fun a b => precedes b a == precedes y x) y rest
    unfold sort
    dsimp only
    generalize takeRun (fun a b => precedes b a == precedes y x) y rest = parts at whole run ⊢
    obtain ⟨ahead, rest⟩ := parts
    cases whole
    have start : OrderedBy precedes key (x :: y :: ahead) :=
      ordered.mono fun z member => by simpa [or_assoc] using Or.inl member
    refine ascending_foldl_insert (ascending_start start (.cons_cons (by simp) run))
      (ordered.mono fun z member => ?_)
    split at member <;> simpa [or_comm, or_assoc, or_left_comm] using member

end Concordance.Insertion
