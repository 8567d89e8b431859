/-! Series: values by key, in the order in which the keys were first used. -/
namespace Concordance

abbrev Series (κ α : Type) := List (κ × α)

namespace Series

variable {κ α : Type} [DecidableEq κ]

def adjust (start : α) (key : κ) (change : α → α) : Series κ α → Series κ α
  | [] => [(key, change start)]
  | (known, value) :: rest =>
    if known = key then (known, change value) :: rest
    else (known, value) :: adjust start key change rest

def value (start : α) (series : Series κ α) (key : κ) : α := (series.lookup key).getD start

theorem value_adjust_self (start : α) (key : κ) (change : α → α) (series : Series κ α) :
    value start (adjust start key change series) key = change (value start series key) := by
  induction series with
  | nil => simp [adjust, value]
  | cons entry rest ih =>
    obtain ⟨known, old⟩ := entry
    by_cases same : known = key
    · simp [adjust, value, same]
    · have apart : (key == known) = false := by simpa using fun h => same h.symm
      simp only [value] at ih
      simp [adjust, value, same, List.lookup_cons, apart, ih]

theorem value_adjust_of_ne (start : α) {key other : κ} (change : α → α) (series : Series κ α)
    (ne : other ≠ key) :
    value start (adjust start key change series) other = value start series other := by
  have apart : (other == key) = false := by simpa using ne
  induction series with
  | nil => simp [adjust, value, List.lookup_cons, apart]
  | cons entry rest ih =>
    obtain ⟨known, old⟩ := entry
    by_cases same : known = key
    · subst same
      simp [adjust, value, List.lookup_cons, apart]
    · simp only [value] at ih
      by_cases hit : other = known
      · simp [adjust, value, same, hit]
      · have miss : (other == known) = false := by simpa using hit
        simp [adjust, value, same, List.lookup_cons, miss, ih]

end Series
end Concordance
