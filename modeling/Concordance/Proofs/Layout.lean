import Concordance.Proofs.RankedCandidates

/-! How findings are laid out. Either way of reading a query first puts all documents found into an
order and only then cuts them to the limit and makes a match of each at its rank, so what is listed
with a limit is the beginning of what is listed without. -/
namespace Concordance

namespace SearchOptions
variable {β : Type} {o : SearchOptions}

def uncapped (o : SearchOptions) : SearchOptions := { o with maxResults := none }

@[simp] theorem uncapped_limit : o.uncapped.limit = none := rfl

theorem cap_eq_take (o : SearchOptions) (items : List β) :
    o.cap items = items.take (min (o.limit.getD items.length) items.length) := by
  unfold cap
  cases o.limit with
  | none => simp
  | some n => simp [← List.take_take]

theorem cap_sublist (o : SearchOptions) (items : List β) : (o.cap items).Sublist items := by
  rw [cap_eq_take]
  exact List.take_sublist ..

theorem length_cap (o : SearchOptions) (items : List β) :
    (o.cap items).length = min (o.limit.getD items.length) items.length := by
  rw [cap_eq_take, List.length_take, Nat.min_assoc, Nat.min_self]

theorem zipIdx_cap (o : SearchOptions) (items : List β) (start : Nat) :
    (o.cap items).zipIdx start = o.cap (items.zipIdx start) := by
  have begins (n : Nat) : (items.take n).zipIdx start = (items.zipIdx start).take n := by
    induction items generalizing n start with
    | nil => simp
    | cons first items ih => cases n <;> simp [ih]
  simp only [cap]
  split
  · rfl
  · exact begins _

end SearchOptions

namespace Findings
open Outcome
variable {β : Type} {options : SearchOptions} {make : β → Nat → Except Failure Match}
  {items : List β} {results : List Match} {total : Nat}

/-- What is listed of items in order: those up to the limit, each made into a match at its rank, and
how many there are. -/
def layOut (options : SearchOptions) (make : β → Nat → Except Failure Match) (items : List β) :
    Except Failure Listing := do
  let results ← ((options.cap items).zipIdx 1).mapM fun (item, rank) => make item rank
  pure (results, items.length)

theorem layOut_eq_ok : layOut options make items = .ok (results, total) ↔
    ((options.cap items).zipIdx 1).mapM (fun (item, rank) => make item rank) = .ok results ∧
      total = items.length := by
  simp only [layOut, bind_eq_ok, pure, Except.pure, Except.ok.injEq, Prod.mk.injEq]
  constructor
  · rintro ⟨_, made, rfl, rfl⟩
    exact ⟨made, rfl⟩
  · rintro ⟨made, rfl⟩
    exact ⟨results, made, rfl, rfl⟩

theorem layOut_nil : layOut options make [] = .ok ([], 0) := by
  have none : options.cap ([] : List β) = [] :=
    List.eq_nil_of_sublist_nil (SearchOptions.cap_sublist ..)
  rw [layOut, none]
  rfl

theorem layOut_cut (ok : layOut options.uncapped make items = .ok (results, total)) :
    layOut options make items = .ok (options.cap results, total) := by
  obtain ⟨made, rfl⟩ := layOut_eq_ok.mp ok
  rw [cap_unlimited SearchOptions.uncapped_limit] at made
  refine layOut_eq_ok.mpr ⟨?_, rfl⟩
  rw [SearchOptions.zipIdx_cap]
  have each := mapM_eq_ok_iff.mp made
  refine mapM_eq_ok_iff.mpr ?_
  rw [SearchOptions.cap, SearchOptions.cap]
  split
  · exact each
  · exact List.forall₂_take _ each

theorem layOut_uncapped_ok_iff (options : SearchOptions) {P : β → Prop}
    (makes : ∀ item rank, (∃ one, make item rank = .ok one) ↔ P item) :
    (∃ listing, layOut options.uncapped make items = .ok listing) ↔ ∀ item ∈ items, P item := by
  have laid : (∃ listing, layOut options.uncapped make items = .ok listing) ↔
      ∃ results, (items.zipIdx 1).mapM (fun (item, rank) => make item rank) = .ok results := by
    simp [Prod.exists, layOut_eq_ok, cap_unlimited SearchOptions.uncapped_limit]
  rw [laid, mapM_ok_iff]
  simp only [makes]
  constructor
  · intro all item member
    rw [← List.zipIdx_map_fst 1 items] at member
    obtain ⟨entry, listed, rfl⟩ := List.mem_map.mp member
    exact all entry listed
  · exact fun all entry listed => all entry.1 (List.fst_mem_of_mem_zipIdx listed)

theorem length_layOut (ok : layOut options make items = .ok (results, total)) :
    results.length = min (options.limit.getD total) total := by
  obtain ⟨made, rfl⟩ := layOut_eq_ok.mp ok
  rw [length_of_mapM made, List.length_zipIdx, SearchOptions.length_cap]

theorem map_layOut {γ : Type} {read : Match → γ} (tell : β → Nat → γ)
    (tells : ∀ item rank one, make item rank = .ok one → read one = tell item rank)
    (ok : layOut options make items = .ok (results, total)) :
    results.map read = ((options.cap items).zipIdx 1).map fun (item, rank) => tell item rank := by
  obtain ⟨made, rfl⟩ := layOut_eq_ok.mp ok
  exact map_eq_map_of_forall₂ ((mapM_eq_ok_iff.mp made).imp fun entry one => tells _ _ _)

theorem map_layOut_of_item {γ : Type} {read : Match → γ} (tell : β → γ)
    (tells : ∀ item rank one, make item rank = .ok one → read one = tell item)
    (ok : layOut options make items = .ok (results, total)) :
    results.map read = (options.cap items).map tell := by
  calc results.map read
      = ((options.cap items).zipIdx 1).map fun entry => tell entry.1 :=
        map_layOut (fun item _ => tell item) tells ok
    _ = (((options.cap items).zipIdx 1).map Prod.fst).map tell := List.map_map.symm
    _ = (options.cap items).map tell := by rw [List.zipIdx_map_fst]

theorem ranks_layOut (ranks : ∀ item rank one, make item rank = .ok one → one.rank = rank)
    (ok : layOut options make items = .ok (results, total)) :
    results.map (·.rank) = List.range' 1 results.length := by
  have told := map_layOut (fun _ rank => rank) ranks ok
  have many : (options.cap items).length = results.length := by
    simpa using (congrArg List.length told).symm
  rw [told, ← many]
  exact List.zipIdx_map_snd ..

end Findings
end Concordance
