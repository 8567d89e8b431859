import Concordance.Proofs.EvaluationOutcome

/-! Tokens with the connectives that govern them. A token other than an operator stands under the
nearest operator in front of it, and so calls for the documents it matches or bars them. As long as
no token joins documents of its own to those found, these are the documents that all tokens call for
or let pass. In any case a query with tokens that call for documents finds none that all of these
miss. -/
namespace Concordance.Evaluation
variable {snapshot : Snapshot} {tokens before : List QueryToken} {token last : QueryToken}
  {test : Connective → QueryToken → Bool} {e : Evaluation} {id : Nat}

/-- The tokens other than operators, each under the connective in force behind the tokens in front
of it. -/
def governedAfter (before : List QueryToken) : List QueryToken → List (Connective × QueryToken)
  | [] => []
  | token :: rest =>
    if token.kind = .operator then governedAfter (before ++ [token]) rest
    else (governing before, token) :: governedAfter (before ++ [token]) rest

def governed (tokens : List QueryToken) : List (Connective × QueryToken) := governedAfter [] tokens

example : governed [⟨.term, "cat".toList⟩, ⟨.operator, "NOT".toList⟩, ⟨.term, "dog".toList⟩,
      ⟨.excluded, "cow".toList⟩] =
    [(.and, ⟨.term, "cat".toList⟩), (.not, ⟨.term, "dog".toList⟩),
      (.not, ⟨.excluded, "cow".toList⟩)] := by
  decide

def callsFor (connective : Connective) (token : QueryToken) : Bool :=
  token.kind == .required || token.isPlain && connective != .not

def bars (connective : Connective) (token : QueryToken) : Bool :=
  token.kind == .excluded || token.isPlain && connective == .not

def selected (test : Connective → QueryToken → Bool) (tokens : List QueryToken) :
    List QueryToken :=
  ((governed tokens).filter fun g => test g.1 g.2).map (·.2)

def positives (tokens : List QueryToken) : List QueryToken := selected callsFor tokens

def negatives (tokens : List QueryToken) : List QueryToken := selected bars tokens

theorem governedAfter_concat : governedAfter before (tokens ++ [last]) =
    governedAfter before tokens ++
      if last.kind = .operator then [] else [(governing (before ++ tokens), last)] := by
  induction tokens generalizing before with
  | nil => by_cases operator : last.kind = .operator <;> simp [governedAfter, operator]
  | cons token tokens ih =>
    by_cases operator : token.kind = .operator <;> simp [governedAfter, operator, ih]

theorem map_governedAfter :
    (governedAfter before tokens).map (·.2) = tokens.filter (·.kind != .operator) := by
  induction tokens generalizing before with
  | nil => rfl
  | cons token tokens ih =>
    by_cases operator : token.kind = .operator <;> simp [governedAfter, operator, ih]

theorem selected_concat (apart : last.kind = .operator → test (governing tokens) last = false) :
    selected test (tokens ++ [last]) =
      selected test tokens ++ if test (governing tokens) last then [last] else [] := by
  rw [selected, governed, governedAfter_concat, List.nil_append, List.filter_append,
    List.map_append]
  congr 1
  by_cases operator : last.kind = .operator
  · simp [operator, apart operator]
  · cases chosen : test (governing tokens) last <;> simp [operator, chosen]

theorem positives_concat : positives (tokens ++ [last]) =
    positives tokens ++ if callsFor (governing tokens) last then [last] else [] :=
  selected_concat fun operator => by simp [callsFor, QueryToken.isPlain, operator]

theorem negatives_concat : negatives (tokens ++ [last]) =
    negatives tokens ++ if bars (governing tokens) last then [last] else [] :=
  selected_concat fun operator => by simp [bars, QueryToken.isPlain, operator]

theorem callsFor_iff_seeds : callsFor (governing before) token = true ↔ Seeds before token := by
  simp [callsFor, Seeds]

theorem positives_ne_nil_iff : positives tokens ≠ [] ↔ Seeded tokens := by
  induction tokens using List.reverseRecOn with
  | nil => simp [positives, selected, governed, governedAfter, Seeded]
  | append_singleton tokens last ih =>
    rw [positives_concat, seeded_concat, ← ih, ← callsFor_iff_seeds]
    cases callsFor (governing tokens) last <;> simp

theorem admits_iff : Admits snapshot before token id ↔
    (callsFor (governing before) token = true → token.Matches snapshot id) ∧
      (bars (governing before) token = true → ¬token.Matches snapshot id) := by
  cases kind : token.kind <;> cases force : governing before <;>
    simp [Admits, callsFor, bars, QueryToken.isPlain, kind, force]

/-- Whether all tokens of a query that call for documents match one, and none that bars any. -/
@[mk_iff]
structure Conforms (snapshot : Snapshot) (tokens : List QueryToken) (id : Nat) : Prop where
  called : ∀ token ∈ positives tokens, token.Matches snapshot id
  unbarred : ∀ token ∈ negatives tokens, ¬token.Matches snapshot id

theorem conforms_concat : Conforms snapshot (tokens ++ [last]) id ↔
    Conforms snapshot tokens id ∧ Admits snapshot tokens last id := by
  have optional (chosen : Bool) (P : QueryToken → Prop) :
      (∀ token ∈ if chosen then [last] else [], P token) ↔ (chosen = true → P last) := by
    cases chosen <;> simp
  rw [conforms_iff, conforms_iff, positives_concat, negatives_concat, List.forall_mem_append,
    List.forall_mem_append, optional, optional, admits_iff]
  exact and_and_and_comm

theorem mem_found_of_apart
    (apart : ∀ before token after, tokens = before ++ token :: after → ¬Joins before token)
    (folded : tokens.foldlM (step snapshot) { found := snapshot.docIds } = .ok e) :
    id ∈ e.found ↔ id ∈ snapshot.docIds ∧ Conforms snapshot tokens id := by
  induction tokens using List.reverseRecOn generalizing e with
  | nil =>
    cases folded
    exact ⟨fun member => ⟨member, List.forall_mem_nil _, List.forall_mem_nil _⟩, And.left⟩
  | append_singleton tokens last ih =>
    obtain ⟨middle, earlier, ok⟩ := Outcome.foldlM_concat.mp folded
    have reached := run_reached earlier
    rw [mem_found_of_not_joins reached ok (apart tokens last [] rfl), conforms_concat, ih _ earlier,
      and_assoc]
    intro before token after same
    exact apart before token (after ++ [last]) (by simp [same])

theorem mem_positives_last (calls : callsFor (governing tokens) last = true) :
    last ∈ positives (tokens ++ [last]) := by
  rw [positives_concat, if_pos calls]
  exact List.mem_append_right _ (List.mem_singleton_self last)

theorem mem_positives_of_mem (last : QueryToken) (member : token ∈ positives tokens) :
    token ∈ positives (tokens ++ [last]) := by
  rw [positives_concat]
  exact List.mem_append_left _ member

theorem hit_of_mem_found
    (folded : tokens.foldlM (step snapshot) { found := snapshot.docIds } = .ok e)
    (some : positives tokens ≠ []) (member : id ∈ e.found) :
    ∃ token ∈ positives tokens, token.Matches snapshot id := by
  induction tokens using List.reverseRecOn generalizing e with
  | nil => exact absurd rfl some
  | append_singleton tokens last ih =>
    obtain ⟨middle, earlier, ok⟩ := Outcome.foldlM_concat.mp folded
    have reached := run_reached earlier
    have carried (before : positives tokens ≠ []) (member : id ∈ middle.found) :
        ∃ token ∈ positives (tokens ++ [last]), token.Matches snapshot id := by
      obtain ⟨token, called, matched⟩ := ih earlier before member
      exact ⟨token, mem_positives_of_mem last called, matched⟩
    by_cases joins : Joins tokens last
    · obtain ⟨plain, force, seeded⟩ := joins
      rcases (mem_found_of_joins reached ok ⟨plain, force, seeded⟩).mp member with member | matched
      · exact carried (positives_ne_nil_iff.mpr seeded) member
      · exact ⟨last, mem_positives_last (by simp [callsFor, plain, force]), matched⟩
    · obtain ⟨member, admits⟩ := (mem_found_of_not_joins reached ok joins).mp member
      by_cases before : positives tokens = []
      · -- nothing was called for before, so the last token is the one that does
        have calls : callsFor (governing tokens) last = true := by
          by_contra silent
          rw [positives_concat, before, if_neg silent] at some
          exact some rfl
        exact ⟨last, mem_positives_last calls, (admits_iff.mp admits).1 calls⟩
      · exact carried before member

theorem not_joins_of_positives_nil (none : positives tokens = []) :
    ∀ before token after, tokens = before ++ token :: after → ¬Joins before token := by
  rintro before token after rfl ⟨_, _, seeded⟩
  obtain ⟨first, seeding, rest, rfl, seeds⟩ := seeded
  apply positives_ne_nil_iff.mpr _ none
  exact ⟨first, seeding, rest ++ token :: after, by simp, seeds⟩

/-- If some tokens call for documents, each document found is matched by one of them; if none does,
those that no token bars are found. The documents are listed in ascending order, each with the
number of positive tokens that match it. -/
theorem found_are_called_for (snapshot : Snapshot) (tokens : List QueryToken) :
    ((∃ result, run snapshot tokens = .ok result) ↔ ∀ token ∈ tokens, token.Answered snapshot) ∧
    ∀ result, run snapshot tokens = .ok result →
      (positives tokens ≠ [] → ∀ id ∈ result.docIds,
        ∃ token ∈ positives tokens, token.Matches snapshot id) ∧
      (positives tokens = [] → ∀ id, id ∈ result.docIds ↔
        id ∈ snapshot.docIds ∧ ∀ token ∈ negatives tokens, ¬token.Matches snapshot id) ∧
      result.docIds.Pairwise (· < ·) ∧
      result.hitCounts = result.docIds.map fun id => (id, hitCount snapshot tokens id) := by
  refine ⟨run_ok_iff snapshot tokens, fun result ok => ?_⟩
  obtain ⟨e, folded, rfl⟩ := found_of_run ok
  refine ⟨?_, ?_, docIds_ascending ok, hitCounts_eq ok⟩
  · intro some id member
    exact hit_of_mem_found folded some member
  · intro none id
    have found : id ∈ e.result.docIds ↔ id ∈ snapshot.docIds ∧ Conforms snapshot tokens id :=
      mem_found_of_apart (not_joins_of_positives_nil none) folded
    rw [found, conforms_iff, none]
    simp

def catsThenDogs : List QueryToken :=
  [⟨.operator, "NOT".toList⟩, ⟨.term, "dog".toList⟩, ⟨.operator, "OR".toList⟩,
    ⟨.term, "cat".toList⟩, ⟨.operator, "OR".toList⟩, ⟨.term, "dog".toList⟩]

def noDogs : List QueryToken :=
  [⟨.operator, "NOT".toList⟩, ⟨.term, "dog".toList⟩, ⟨.excluded, "cow".toList⟩]

theorem pets_called_for :
    (run pets catsThenDogs = .ok ⟨[0, 1], [(0, 1), (1, 2)]⟩ ∧ positives catsThenDogs ≠ [] ∧
      1 ∈ [0, 1] ∧ ∃ token ∈ positives catsThenDogs, token.Matches pets 1) ∧
    run pets noDogs = .ok ⟨[0], [(0, 0)]⟩ ∧ positives noDogs = [] ∧
      (0 ∈ [0] ↔ 0 ∈ pets.docIds ∧ ∀ token ∈ negatives noDogs, ¬token.Matches pets 0) := by
  have both : run pets catsThenDogs = .ok ⟨[0, 1], [(0, 1), (1, 2)]⟩ := by decide +kernel
  have some : positives catsThenDogs ≠ [] := by decide
  have member : 1 ∈ [0, 1] := by decide
  have one : run pets noDogs = .ok ⟨[0], [(0, 0)]⟩ := by decide +kernel
  have none : positives noDogs = [] := by decide
  refine ⟨⟨both, some, member, ?_⟩, one, none, ?_⟩
  · exact ((found_are_called_for pets catsThenDogs).2 _ both).1 some 1 member
  · exact ((found_are_called_for pets noDogs).2 _ one).2.1 none 0

end Concordance.Evaluation
