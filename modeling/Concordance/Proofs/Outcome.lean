import Mathlib.Data.List.Forall2

/-! Computations that may fail. What a success says of the steps it was made of: of two steps in a
row, of a filter whose test may fail, of a map and of a fold over appended items. And when two
computations, step by step, come to related results or to the same failure. -/
namespace Concordance.Outcome
variable {ε α β : Type}

theorem bind_eq_ok {first : Except ε α} {next : α → Except ε β} {result : β} :
    (first >>= next) = .ok result ↔ ∃ value, first = .ok value ∧ next value = .ok result := by
  cases first <;> simp [bind, Except.bind]

theorem bind_eq_error {first : Except ε α} {next : α → Except ε β} {error : ε} :
    (first >>= next) = .error error ↔
      first = .error error ∨ ∃ value, first = .ok value ∧ next value = .error error := by
  cases first <;> simp [bind, Except.bind]

theorem map_eq_ok {first : Except ε α} {f : α → β} {result : β} :
    first.map f = .ok result ↔ ∃ value, first = .ok value ∧ f value = result := by
  cases first <;> simp [Except.map]

theorem mapError_eq_ok {ε' : Type} {first : Except ε α} {f : ε → ε'} {result : α} :
    first.mapError f = .ok result ↔ first = .ok result := by
  cases first <;> simp [Except.mapError]

def accepted : Except ε Bool → Bool
  | .ok answer => answer
  | .error _ => false

theorem accepted_eq_true {answer : Except ε Bool} : accepted answer = true ↔ answer = .ok true := by
  cases answer <;> simp [accepted]

private theorem filterAuxM_eq_ok {test : α → Except ε Bool} {items kept result : List α} :
    items.filterAuxM test kept = .ok result ↔ (∀ item ∈ items, ∃ answer, test item = .ok answer) ∧
      result = (items.filter fun item => accepted (test item)).reverse ++ kept := by
  induction items generalizing kept with
  | nil => simp [List.filterAuxM, pure, Except.pure, eq_comm]
  | cons item items ih =>
    cases tested : test item with
    | error e => simp [List.filterAuxM, tested, bind, Except.bind]
    | ok answer =>
      simp only [List.filterAuxM, tested, bind, Except.bind, ih, List.forall_mem_cons,
        List.filter_cons, accepted]
      cases answer <;> simp

theorem filterM_eq_ok {test : α → Except ε Bool} {items kept : List α} :
    items.filterM test = .ok kept ↔ (∀ item ∈ items, ∃ answer, test item = .ok answer) ∧
      kept = items.filter fun item => accepted (test item) := by
  simp only [List.filterM, bind_eq_ok, filterAuxM_eq_ok, pure, Except.pure, Except.ok.injEq]
  constructor
  · rintro ⟨_, ⟨tested, rfl⟩, rfl⟩
    exact ⟨tested, by simp⟩
  · rintro ⟨tested, rfl⟩
    exact ⟨_, ⟨tested, rfl⟩, by simp⟩

theorem mem_filterM {test : α → Except ε Bool} {items kept : List α}
    (ok : items.filterM test = .ok kept) {item : α} :
    item ∈ kept ↔ item ∈ items ∧ test item = .ok true := by
  obtain ⟨_, rfl⟩ := filterM_eq_ok.mp ok
  simp [accepted_eq_true]

theorem foldlM_concat {step : β → α → Except ε β} {items : List α} {last : α} {start result : β} :
    (items ++ [last]).foldlM step start = .ok result ↔
      ∃ middle, items.foldlM step start = .ok middle ∧ step middle last = .ok result := by
  simp [List.foldlM_append, bind_eq_ok]

theorem foldlM_nil {step : β → α → Except ε β} {start : β} :
    ([] : List α).foldlM step start = .ok start := rfl

theorem foldlM_cons {step : β → α → Except ε β} {items : List α} {first : α}
    {start middle result : β} (ok : step start first = .ok middle)
    (rest : items.foldlM step middle = .ok result) :
    (first :: items).foldlM step start = .ok result := by
  rw [List.foldlM_cons, ok]
  exact rest

theorem foldlM_ok_iff {step : β → α → Except ε β} {P : α → Prop}
    (each : ∀ state item, (∃ next, step state item = .ok next) ↔ P item) (items : List α)
    (start : β) : (∃ result, items.foldlM step start = .ok result) ↔ ∀ item ∈ items, P item := by
  induction items generalizing start with
  | nil => exact ⟨fun _ => List.forall_mem_nil _, fun _ => ⟨start, rfl⟩⟩
  | cons item items ih =>
    rw [List.forall_mem_cons, List.foldlM_cons]
    constructor
    · rintro ⟨result, ok⟩
      obtain ⟨next, first, rest⟩ := bind_eq_ok.mp ok
      exact ⟨(each start item).mp ⟨next, first⟩, (ih next).mp ⟨result, rest⟩⟩
    · rintro ⟨first, others⟩
      obtain ⟨next, ok⟩ := (each start item).mpr first
      obtain ⟨result, rest⟩ := (ih next).mpr others
      exact ⟨result, bind_eq_ok.mpr ⟨next, ok, rest⟩⟩

theorem foldlM_keeps (Q : β → Prop) {step : β → α → Except ε β} {items : List α}
    {start result : β} (keeps : ∀ state item next, Q state → step state item = .ok next → Q next)
    (initially : Q start) (ok : items.foldlM step start = .ok result) : Q result := by
  induction items generalizing start with
  | nil =>
    cases ok
    exact initially
  | cons item items ih =>
    rw [List.foldlM_cons] at ok
    obtain ⟨next, first, rest⟩ := bind_eq_ok.mp ok
    exact ih (keeps start item next initially first) rest

theorem mapM_eq_ok_iff {f : α → Except ε β} {items : List α} {results : List β} :
    items.mapM f = .ok results ↔
      List.Forall₂ (fun item result => f item = .ok result) items results := by
  induction items generalizing results with
  | nil => simp [pure, Except.pure, List.forall₂_nil_left_iff, eq_comm]
  | cons item items ih =>
    simp only [List.mapM_cons, bind_eq_ok, List.forall₂_cons_left_iff, ih]
    constructor
    · rintro ⟨first, ok, rest, all, same⟩
      cases same
      exact ⟨first, rest, ok, all, rfl⟩
    · rintro ⟨first, rest, ok, all, rfl⟩
      exact ⟨first, ok, rest, all, rfl⟩

theorem length_of_mapM {f : α → Except ε β} {items : List α} {results : List β}
    (ok : items.mapM f = .ok results) : results.length = items.length :=
  (mapM_eq_ok_iff.mp ok).length_eq.symm

theorem mem_mapM {f : α → Except ε β} {items : List α} {results : List β} {result : β}
    (ok : items.mapM f = .ok results) :
    result ∈ results ↔ ∃ item ∈ items, f item = .ok result := by
  have each := mapM_eq_ok_iff.mp ok
  clear ok
  induction each with
  | nil => simp
  | @cons item first items results made each ih =>
    simp only [List.mem_cons, exists_eq_or_imp, ih, made, Except.ok.injEq]
    exact or_congr_left eq_comm

theorem mapM_ok_iff {f : α → Except ε β} {items : List α} :
    (∃ results, items.mapM f = .ok results) ↔ ∀ item ∈ items, ∃ result, f item = .ok result := by
  induction items with
  | nil => exact ⟨fun _ => List.forall_mem_nil _, fun _ => ⟨[], rfl⟩⟩
  | cons item items ih =>
    simp only [List.forall_mem_cons, ← ih, List.mapM_cons, bind_eq_ok]
    constructor
    · rintro ⟨_, first, ok, rest, all, _⟩
      exact ⟨⟨first, ok⟩, rest, all⟩
    · rintro ⟨⟨first, ok⟩, rest, all⟩
      exact ⟨first :: rest, first, ok, rest, all, rfl⟩

theorem mapM_zipIdx_eq_ok_iff (label : Nat → β → β) {f : α × Nat → Except ε β}
    {g : α → Except ε β} (labels : ∀ item place, f (item, place) = (g item).map (label place))
    {items : List α} {start : Nat} {results : List β} :
    (items.zipIdx start).mapM f = .ok results ↔ ∃ bare, items.mapM g = .ok bare ∧
      results = (bare.zipIdx start).map fun entry => label entry.2 entry.1 := by
  induction items generalizing start results with
  | nil => simp [pure, Except.pure, eq_comm]
  | cons item items ih =>
    simp only [List.zipIdx_cons, List.mapM_cons, bind_eq_ok, labels, map_eq_ok, ih]
    constructor
    · rintro ⟨_, ⟨first, ok, rfl⟩, _, ⟨bare, all, rfl⟩, same⟩
      cases same
      exact ⟨first :: bare, ⟨first, ok, bare, all, rfl⟩, rfl⟩
    · rintro ⟨_, ⟨first, ok, bare, all, same⟩, rfl⟩
      cases same
      exact ⟨_, ⟨first, ok, rfl⟩, _, ⟨bare, all, rfl⟩, rfl⟩

theorem mapM_eq_ok {f : α → Except ε β} {R : α → β → Prop} {items : List α}
    (each : ∀ item ∈ items, ∃ result, f item = .ok result ∧ R item result) :
    ∃ results, items.mapM f = .ok results ∧ List.Forall₂ R items results := by
  induction items with
  | nil => exact ⟨[], rfl, .nil⟩
  | cons item items ih =>
    obtain ⟨first, others⟩ := List.forall_mem_cons.mp each
    obtain ⟨result, ok, related⟩ := first
    obtain ⟨results, all, rest⟩ := ih others
    refine ⟨result :: results, ?_, .cons related rest⟩
    rw [List.mapM_cons, ok, all]
    rfl

theorem mapM_zipIdx_eq_ok {f : α × Nat → Except ε β} {R : α → β → Prop} {items : List α}
    (each : ∀ item ∈ items, ∀ place, ∃ result, f (item, place) = .ok result ∧ R item result)
    (start : Nat) :
    ∃ results, (items.zipIdx start).mapM f = .ok results ∧ List.Forall₂ R items results := by
  induction items generalizing start with
  | nil => exact ⟨[], rfl, .nil⟩
  | cons item items ih =>
    obtain ⟨first, others⟩ := List.forall_mem_cons.mp each
    obtain ⟨result, ok, related⟩ := first start
    obtain ⟨results, all, rest⟩ := ih others (start + 1)
    refine ⟨result :: results, ?_, .cons related rest⟩
    rw [List.zipIdx_cons, List.mapM_cons, ok, all]
    rfl

theorem map_eq_map_of_forall₂ {γ : Type} {f : β → γ} {g : α → γ} {items : List α}
    {results : List β} (each : List.Forall₂ (fun a b => f b = g a) items results) :
    results.map f = items.map g := by
  induction each with
  | nil => rfl
  | cons same each ih => rw [List.map_cons, List.map_cons, same, ih]

theorem forall_of_forall₂ {P : β → Prop} {items : List α} {results : List β}
    (each : List.Forall₂ (fun _ result => P result) items results) :
    ∀ result ∈ results, P result := by
  induction each with
  | nil => exact List.forall_mem_nil _
  | cons first _ ih => exact List.forall_mem_cons.mpr ⟨first, ih⟩

/-- Two computations that fail in the same way or succeed with related results. -/
inductive Alike {γ δ : Type} (R : γ → δ → Prop) : Except ε γ → Except ε δ → Prop
  | ok {a : γ} {b : δ} (related : R a b) : Alike R (.ok a) (.ok b)
  | error (e : ε) : Alike R (.error e) (.error e)

namespace Alike
variable {γ δ : Type} {R : α → β → Prop} {S : γ → δ → Prop} {first : Except ε α}
  {second : Except ε β}

theorem self {Q : α → α → Prop} (refl : ∀ a, Q a a) : Alike Q first first := by
  cases first with
  | ok a => exact .ok (refl a)
  | error e => exact .error e

theorem bind {next : α → Except ε γ} {further : β → Except ε δ} (alike : Alike R first second)
    (steps : ∀ a b, R a b → Alike S (next a) (further b)) :
    Alike S (first >>= next) (second >>= further) := by
  cases alike with
  | ok related => exact steps _ _ related
  | error e => exact .error e

theorem map {f : α → γ} {g : β → δ} (alike : Alike R first second)
    (each : ∀ a b, R a b → S (f a) (g b)) : Alike S (first.map f) (second.map g) := by
  cases alike with
  | ok related => exact .ok (each _ _ related)
  | error e => exact .error e

theorem related {a : α} {b : β} (alike : Alike R first second) (left : first = .ok a)
    (right : second = .ok b) : R a b := by
  subst left right
  cases alike with
  | ok related => exact related

end Alike

end Concordance.Outcome
