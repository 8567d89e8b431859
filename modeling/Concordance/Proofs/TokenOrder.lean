import Concordance.Proofs.GovernedTokens
import Mathlib.Data.List.Sort

/-! The order of tokens in a query. Without `OR` a query finds the documents that all its tokens
call for or let pass, whatever their order, so tokens can change places as long as each stays under
its connective. -/
namespace Concordance.Evaluation
variable {snapshot : Snapshot} {tokens others : List QueryToken} {token : QueryToken}
  {first second : BooleanMatch} {id : Nat}

theorem governing_ne_or
    (orFree : ∀ token ∈ tokens, token.kind = .operator → token.value ≠ Connective.or.word) :
    governing tokens ≠ .or := by
  unfold governing
  cases nearest : (tokens.filter (·.kind == .operator)).getLast? with
  | none => simp
  | some token =>
    obtain ⟨member, operator⟩ := List.mem_filter.mp (List.mem_of_getLast? nearest)
    intro force
    cases word : Connective.ofWord? token.value with
    | none => simp [word] at force
    | some connective =>
      have same : connective = .or := by simpa [word] using force
      rw [same] at word
      exact orFree token member (by simpa using operator) (Connective.ofWord?_eq_some.mp word)

theorem orFree_of_known (operators : ∀ token ∈ tokens, token.kind = .operator →
      token.value = Connective.and.word ∨ token.value = Connective.not.word) :
    ∀ token ∈ tokens, token.kind = .operator → token.value ≠ Connective.or.word := by
  intro token member operator
  rcases operators token member operator with word | word <;> rw [word] <;> decide

theorem mem_docIds_of_orFree {result : BooleanMatch}
    (orFree : ∀ token ∈ tokens, token.kind = .operator → token.value ≠ Connective.or.word)
    (ok : run snapshot tokens = .ok result) :
    id ∈ result.docIds ↔ id ∈ snapshot.docIds ∧ Conforms snapshot tokens id := by
  obtain ⟨e, folded, rfl⟩ := found_of_run ok
  refine mem_found_of_apart ?_ folded
  rintro before token after rfl ⟨_, force, _⟩
  exact governing_ne_or (fun token member => orFree token (List.mem_append_left _ member)) force

theorem hitCount_governed : hitCount snapshot tokens id = ((governed tokens).map (·.2)).countP
    fun token => token.isPositive && decide (token.Matches snapshot id) := by
  rw [governed, map_governedAfter, List.countP_filter, hitCount]
  refine List.countP_congr fun token _ => ?_
  cases kind : token.kind <;> simp [QueryToken.isPositive, kind]

section Reordered
variable (reordered : (governed others).Perm (governed tokens))
include reordered

theorem conforms_reordered : Conforms snapshot others id ↔ Conforms snapshot tokens id := by
  have chosen (test : Connective → QueryToken → Bool) :
      (selected test others).Perm (selected test tokens) :=
    (reordered.filter _).map _
  simp only [conforms_iff, positives, negatives, (chosen _).mem_iff]

theorem hitCount_reordered : hitCount snapshot others id = hitCount snapshot tokens id := by
  rw [hitCount_governed, hitCount_governed, (reordered.map _).countP_eq]

theorem mem_of_reordered (member : token ∈ others) (other : token.kind ≠ .operator) :
    token ∈ tokens := by
  have within : token ∈ (governed others).map (·.2) := by
    rw [governed, map_governedAfter]
    simp [member, other]
  rw [(reordered.map _).mem_iff, governed, map_governedAfter] at within
  exact (List.mem_filter.mp within).1

theorem answered_of_reordered
    (operators : ∀ token ∈ others, token.kind = .operator →
      token.value = Connective.and.word ∨ token.value = Connective.not.word)
    (answered : ∀ token ∈ tokens, token.Answered snapshot) :
    ∀ token ∈ others, token.Answered snapshot := by
  intro token member
  by_cases operator : token.kind = .operator
  · unfold QueryToken.Answered
    rw [if_pos operator]
    rcases operators token member operator with word | word
    · exact ⟨.and, by decide, word⟩
    · exact ⟨.not, by decide, word⟩
  · exact answered token (mem_of_reordered reordered member operator)

end Reordered

theorem result_eq (left : run snapshot tokens = .ok first) (right : run snapshot others = .ok second)
    (same : ∀ id, id ∈ first.docIds ↔ id ∈ second.docIds)
    (hits : ∀ id, hitCount snapshot tokens id = hitCount snapshot others id) : first = second := by
  have ids : first.docIds = second.docIds :=
    (docIds_ascending left).eq_of_mem_iff (docIds_ascending right) same
  have counts : first.hitCounts = second.hitCounts := by
    rw [hitCounts_eq left, hitCounts_eq right, ids]
    exact List.map_congr_left fun id _ => by rw [hits]
  cases first
  cases second
  cases ids
  cases counts
  rfl

/-- Without `OR` a query finds the documents that conform to all its tokens, and any other order of
the tokens under the same connectives gives the same result. -/
theorem conjunction_conforms (snapshot : Snapshot) (tokens : List QueryToken)
    (orFree : ∀ token ∈ tokens, token.kind = .operator → token.value ≠ Connective.or.word) :
    ((∃ result, run snapshot tokens = .ok result) ↔ ∀ token ∈ tokens, token.Answered snapshot) ∧
    ∀ result, run snapshot tokens = .ok result →
      (∀ id, id ∈ result.docIds ↔ id ∈ snapshot.docIds ∧
        (∀ token ∈ positives tokens, token.Matches snapshot id) ∧
        ∀ token ∈ negatives tokens, ¬token.Matches snapshot id) ∧
      ∀ others, (∀ token ∈ others, token.kind = .operator →
          token.value = Connective.and.word ∨ token.value = Connective.not.word) →
        (governed others).Perm (governed tokens) → run snapshot others = .ok result := by
  refine ⟨run_ok_iff snapshot tokens, fun result ok => ⟨fun id => ?_, ?_⟩⟩
  · rw [mem_docIds_of_orFree orFree ok, conforms_iff]
  · intro others operators reordered
    have answered := (run_ok_iff snapshot tokens).mp ⟨result, ok⟩
    have stillFree := orFree_of_known operators
    have stillAnswered := answered_of_reordered reordered operators answered
    obtain ⟨second, again⟩ := (run_ok_iff snapshot others).mpr stillAnswered
    have same : second = result := by
      apply result_eq again ok
      · intro id
        rw [mem_docIds_of_orFree stillFree again, mem_docIds_of_orFree orFree ok,
          conforms_reordered reordered]
      · exact fun id => hitCount_reordered reordered
    rw [again, same]

def catsOnly : List QueryToken :=
  [⟨.operator, "NOT".toList⟩, ⟨.term, "dog".toList⟩, ⟨.operator, "AND".toList⟩,
    ⟨.term, "cat".toList⟩, ⟨.excluded, "cow".toList⟩]

def catsOnlyReordered : List QueryToken :=
  [⟨.term, "cat".toList⟩, ⟨.excluded, "cow".toList⟩, ⟨.operator, "NOT".toList⟩,
    ⟨.term, "dog".toList⟩]

theorem cats_only_reordered :
    (∀ token ∈ catsOnly, token.kind = .operator → token.value ≠ Connective.or.word) ∧
      run pets catsOnly = .ok ⟨[0], [(0, 1)]⟩ ∧
      (∀ token ∈ catsOnlyReordered, token.kind = .operator →
        token.value = Connective.and.word ∨ token.value = Connective.not.word) ∧
      (governed catsOnlyReordered).Perm (governed catsOnly) ∧
      run pets catsOnlyReordered = .ok ⟨[0], [(0, 1)]⟩ := by
  have orFree : ∀ token ∈ catsOnly, token.kind = .operator →
      token.value ≠ Connective.or.word := by decide
  have ok : run pets catsOnly = .ok ⟨[0], [(0, 1)]⟩ := by decide +kernel
  have operators : ∀ token ∈ catsOnlyReordered, token.kind = .operator →
      token.value = Connective.and.word ∨ token.value = Connective.not.word := by decide
  have reordered : (governed catsOnlyReordered).Perm (governed catsOnly) := by decide
  exact ⟨orFree, ok, operators, reordered,
    ((conjunction_conforms pets catsOnly orFree).2 _ ok).2 _ operators reordered⟩

end Concordance.Evaluation
