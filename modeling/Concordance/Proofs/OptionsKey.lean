import Concordance.Proofs.Literal
import Concordance.Proofs.Outcome
import Concordance.Search.Findings

/-! What the key of options says. Plain options of equal keys have the same limit, treat variants
alike and have the same filters in some order, so two searches for a query that both succeed list
the same. -/
namespace Concordance

namespace MetadataFilter
variable {record : Value} {filters others : List (Text × MetadataFilter)} {f g : MetadataFilter}

theorem literal_injective (first : f.value.Plain) (second : g.value.Plain)
    (same : f.literal = g.literal) : f = g := by
  have plain {f : MetadataFilter} (first : f.value.Plain) : Value.Plain (.map
      [("type".toList, .text f.kind.name), ("value".toList, f.value)]) := by
    refine .map _ fun entry member => ?_
    simp only [List.mem_cons, List.not_mem_nil, or_false] at member
    rcases member with rfl | rfl
    · exact .text _
    · exact first
  have maps := ((plain first).readable _ [] [] (plain second) rfl rfl (by
    simpa [literal] using same)).1
  simp only [Value.map.injEq, List.cons.injEq, Prod.mk.injEq, true_and, and_true,
    Value.text.injEq] at maps
  obtain ⟨names, values⟩ := maps
  have kinds : f.kind = g.kind := by
    revert names
    cases f.kind <;> cases g.kind <;> decide
  cases f
  cases g
  rw [MetadataFilter.mk.injEq]
  exact ⟨kinds, values⟩

theorem matchesAll_eq_true : matchesAll record filters = .ok true ↔
    ∀ entry ∈ filters, matchesField record entry.1 entry.2 = .ok true := by
  induction filters with
  | nil => simp [matchesAll]
  | cons entry filters ih =>
    rw [matchesAll, Outcome.bind_eq_ok, List.forall_mem_cons]
    constructor
    · rintro ⟨accepted, first, rest⟩
      cases accepted with
      | false => cases rest
      | true => exact ⟨first, ih.mp rest⟩
    · rintro ⟨first, rest⟩
      exact ⟨true, first, ih.mpr rest⟩

theorem exists_of_matchesAll_eq_false (refused : matchesAll record filters = .ok false) :
    ∃ entry ∈ filters, matchesField record entry.1 entry.2 = .ok false := by
  induction filters with
  | nil => cases refused
  | cons entry filters ih =>
    rw [matchesAll, Outcome.bind_eq_ok] at refused
    obtain ⟨accepted, first, rest⟩ := refused
    cases accepted with
    | false => exact ⟨entry, List.mem_cons_self, first⟩
    | true =>
      obtain ⟨other, member, refused⟩ := ih rest
      exact ⟨other, List.mem_cons_of_mem _ member, refused⟩

theorem matchesAll_congr {answer reply : Bool} (same : ∀ entry, entry ∈ filters ↔ entry ∈ others)
    (first : matchesAll record filters = .ok answer)
    (second : matchesAll record others = .ok reply) : answer = reply := by
  have apart {filters others : List (Text × MetadataFilter)}
      (inside : ∀ entry ∈ others, entry ∈ filters)
      (all : matchesAll record filters = .ok true) :
      matchesAll record others ≠ .ok false := by
    intro refused
    obtain ⟨entry, member, refused⟩ := exists_of_matchesAll_eq_false refused
    cases refused.symm.trans (matchesAll_eq_true.mp all entry (inside entry member))
  cases answer <;> cases reply
  · rfl
  · exact absurd first (apart (fun entry => (same entry).mp) second)
  · exact absurd second (apart (fun entry => (same entry).mpr) first)
  · rfl

theorem matchesAll_of_fields {a b : Value}
    (same : ∀ entry ∈ filters, a.field entry.1 = b.field entry.1) :
    matchesAll a filters = matchesAll b filters := by
  induction filters with
  | nil => rfl
  | cons entry filters ih =>
    obtain ⟨head, others⟩ := List.forall_mem_cons.mp same
    rw [matchesAll, matchesAll, matchesField, head, ih others, matchesField]

end MetadataFilter

namespace SearchOptions
variable {s : Settings} {o p : SearchOptions}

def Plain (o : SearchOptions) : Prop := ∀ entry ∈ o.filters, entry.2.value.Plain

theorem mem_key_filters {entry : Text × Text} : entry ∈ (o.key s).filters ↔
    ∃ filter, (entry.1, filter) ∈ o.filters ∧ filter.literal = entry.2 := by
  obtain ⟨name, literal⟩ := entry
  simp [key]

theorem mem_filters_of_key_eq (first : o.Plain) (second : p.Plain) (same : o.key s = p.key s)
    {entry : Text × MetadataFilter} (member : entry ∈ o.filters) : entry ∈ p.filters := by
  have written : (entry.1, entry.2.literal) ∈ (o.key s).filters :=
    mem_key_filters.mpr ⟨entry.2, member, rfl⟩
  rw [same] at written
  obtain ⟨filter, known, literals⟩ := mem_key_filters.mp written
  obtain rfl : filter = entry.2 :=
    MetadataFilter.literal_injective (second _ known) (first _ member) literals
  exact known

theorem filters_eq_of_key_eq (first : o.Plain) (second : p.Plain) (same : o.key s = p.key s)
    (entry : Text × MetadataFilter) : entry ∈ o.filters ↔ entry ∈ p.filters :=
  ⟨mem_filters_of_key_eq first second same, mem_filters_of_key_eq second first same.symm⟩

theorem cap_eq_of_key_eq {α : Type} (same : o.key s = p.key s) (results : List α) :
    o.cap results = p.cap results := by
  have limits : o.limit = p.limit := congrArg OptionsKey.limit same
  rw [cap, cap, limits]

theorem isFuzzy_eq_of_key_eq (same : o.key s = p.key s) : o.isFuzzy s = p.isFuzzy s :=
  congrArg OptionsKey.fuzzy same

end SearchOptions

namespace Findings
variable {s : Settings} {snapshot : Snapshot} {query : Text} {words : List Text}
  {o p : SearchOptions} {ids kept others : List Nat}

theorem restrict_eq_of_key_eq (first : o.Plain) (second : p.Plain) (same : o.key s = p.key s)
    (mine : restrict snapshot o ids = .ok kept) (other : restrict snapshot p ids = .ok others) :
    kept = others := by
  obtain ⟨tested, rfl⟩ := Outcome.filterM_eq_ok.mp mine
  obtain ⟨tried, rfl⟩ := Outcome.filterM_eq_ok.mp other
  refine List.filter_congr fun id member => ?_
  obtain ⟨answer, accepted⟩ := tested id member
  obtain ⟨reply, passed⟩ := tried id member
  rw [accepted, passed, MetadataFilter.matchesAll_congr
    (SearchOptions.filters_eq_of_key_eq first second same) accepted passed]

theorem ranked_eq_of_key_eq {scored more : List Scored} (first : o.Plain) (second : p.Plain)
    (same : o.key s = p.key s) (mine : ranked Binary64 s snapshot words query o = .ok scored)
    (other : ranked Binary64 s snapshot words query p = .ok more) : scored = more := by
  obtain ⟨ids, kept, mine⟩ := Outcome.bind_eq_ok.mp mine
  obtain ⟨others, held, other⟩ := Outcome.bind_eq_ok.mp other
  rw [SearchOptions.isFuzzy_eq_of_key_eq same] at kept mine
  rw [restrict_eq_of_key_eq first second same kept held] at mine
  exact Except.ok.inj (mine.symm.trans other)

theorem fast_eq_of_key_eq {listing further : Listing} (first : o.Plain) (second : p.Plain)
    (same : o.key s = p.key s) (mine : (fast Binary64 s snapshot query o).listing = .ok listing)
    (other : (fast Binary64 s snapshot query p).listing = .ok further) : listing = further := by
  unfold fast at mine other
  dsimp only at mine other
  split at mine
  next empty =>
    rw [if_pos empty] at other
    exact Except.ok.inj (mine.symm.trans other)
  next some =>
    rw [if_neg some] at other
    obtain ⟨scored, ranked, mine⟩ := Outcome.bind_eq_ok.mp mine
    obtain ⟨more, placed, other⟩ := Outcome.bind_eq_ok.mp other
    cases ranked_eq_of_key_eq first second same ranked placed
    rw [SearchOptions.cap_eq_of_key_eq same] at mine
    exact Except.ok.inj (mine.symm.trans other)

theorem listed_eq_of_key_eq {tokens : List QueryToken} {found : BooleanMatch}
    {listing further : Listing} (first : o.Plain) (second : p.Plain) (same : o.key s = p.key s)
    (mine : listed s snapshot tokens found o = .ok listing)
    (other : listed s snapshot tokens found p = .ok further) : listing = further := by
  obtain ⟨kept, restricted, mine⟩ := Outcome.bind_eq_ok.mp mine
  obtain ⟨held, passed, other⟩ := Outcome.bind_eq_ok.mp other
  cases restrict_eq_of_key_eq first second same restricted passed
  rw [SearchOptions.cap_eq_of_key_eq same] at mine
  exact Except.ok.inj (mine.symm.trans other)

theorem find_eq_of_key_eq {listing further : Listing} (first : o.Plain) (second : p.Plain)
    (same : o.key s = p.key s) (mine : (find Binary64 s snapshot query o).listing = .ok listing)
    (other : (find Binary64 s snapshot query p).listing = .ok further) : listing = further := by
  unfold find at mine other
  split at mine
  next fast =>
    rw [fast] at other
    exact fast_eq_of_key_eq first second same mine other
  next isBoolean =>
    rw [isBoolean] at other
    unfold boolean at mine other
    dsimp only at mine other
    split at mine
    next operators =>
      rw [if_pos operators] at other
      exact Except.ok.inj (mine.symm.trans other)
    next some =>
      rw [if_neg some] at other
      cases run : Evaluation.run snapshot (QueryToken.parse query) with
      | error f =>
        rw [run] at mine
        cases mine
      | ok found =>
        rw [run] at mine other
        exact listed_eq_of_key_eq first second same mine other

end Findings
end Concordance
