/-! Sorting by insertion. The elements are taken one after the other and put to the place that a
binary search finds. Under a total order that is the stable sort; where some elements have no
order, as a NaN among numbers has none, the search decides where they stand. -/
namespace Concordance.Insertion

variable {α : Type}

def place (precedes : α → α → Bool) (x : α) (others : List α) (low high : Nat) : Nat :=
  if low < high then
    let middle := low + (high - low) / 2
    match others[middle]? with
    | none => low
    | some y =>
      if precedes x y then place precedes x others low middle
      else place precedes x others (middle + 1) high
  else low
termination_by high - low

def insert (precedes : α → α → Bool) (others : List α) (x : α) : List α :=
  let n := place precedes x others 0 others.length
  others.take n ++ x :: others.drop n

def takeRun (keeps : α → α → Bool) (last : α) : List α → List α × List α
  | [] => ([], [])
  | x :: rest =>
    if keeps last x then
      let (run, rest) := takeRun keeps x rest
      (x :: run, rest)
    else ([], x :: rest)

/-- Sorts a list. What already ascends at its beginning is kept as it is, and what strictly descends
there is reversed. -/
def sort (precedes : α → α → Bool) : List α → List α
  | [] => []
  | [x] => [x]
  | x :: y :: rest =>
    let descends := precedes y x
    let keeps (a b : α) := precedes b a == descends
    let (run, rest) := takeRun keeps y rest
    let start := x :: y :: run
    rest.foldl (insert precedes) (if descends then start.reverse else start)

theorem insert_perm (precedes : α → α → Bool) (others : List α) (x : α) :
    (insert precedes others x).Perm (x :: others) := by
  unfold insert
  have whole := List.take_append_drop (place precedes x others 0 others.length) others
  exact List.perm_middle.trans (.of_eq (congrArg (x :: ·) whole))

theorem takeRun_append (keeps : α → α → Bool) (last : α) (xs : List α) :
    (takeRun keeps last xs).1 ++ (takeRun keeps last xs).2 = xs := by
  induction xs generalizing last with
  | nil => rfl
  | cons x rest ih => by_cases kept : keeps last x <;> simp [takeRun, kept, ih]

theorem foldl_insert_perm (precedes : α → α → Bool) (start rest : List α) :
    (rest.foldl (insert precedes) start).Perm (start ++ rest) := by
  induction rest generalizing start with
  | nil => simp
  | cons x rest ih =>
    have moved := (insert_perm precedes start x).append_right rest
    exact (ih (insert precedes start x)).trans (moved.trans List.perm_middle.symm)

theorem sort_perm (precedes : α → α → Bool) (xs : List α) : (sort precedes xs).Perm xs := by
  match xs with
  | [] => exact .refl _
  | [x] => exact .refl _
  | x :: y :: rest =>
    let keeps (a b : α) := precedes b a == precedes y x
    have whole := takeRun_append keeps y rest
    have start : (if precedes y x then (x :: y :: (takeRun keeps y rest).1).reverse
        else x :: y :: (takeRun keeps y rest).1).Perm (x :: y :: (takeRun keeps y rest).1) := by
      split
      · exact List.reverse_perm _
      · exact .refl _
    have sorted := (foldl_insert_perm precedes _ (takeRun keeps y rest).2).trans
      (start.append_right (takeRun keeps y rest).2)
    simp only [List.cons_append, whole] at sorted
    exact sorted

example : sort (· < ·) [3, 1, 2, 1] = [1, 1, 2, 3] := by decide +kernel

end Concordance.Insertion
