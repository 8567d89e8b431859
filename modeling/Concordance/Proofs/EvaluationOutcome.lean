import Concordance.Proofs.BooleanEvaluation
import Concordance.Proofs.QueryNotation

/-! What the evaluation of a query returns. It succeeds if every operator is known and the documents
that any other token matches can be told. Reading yields well-formed tokens, so every query can be
evaluated on documents whose text can be read. The documents found are listed in ascending order,
each with the number of positive tokens that match it. -/
namespace Concordance

/-- Whether every document yields its text. -/
def Snapshot.Readable (snapshot : Snapshot) : Prop :=
  ∀ id ∈ snapshot.docIds, ∃ t, snapshot.normalizedText id = .ok t

namespace QueryToken
variable {snapshot : Snapshot} {token : QueryToken} {id : Nat}

def Answered (snapshot : Snapshot) (token : QueryToken) : Prop :=
  if token.kind = .operator then ∃ connective ∈ Connective.all, token.value = connective.word
  else ∃ ids, token.matching snapshot = .ok ids

instance (snapshot : Snapshot) (token : QueryToken) (id : Nat) :
    Decidable (token.Matches snapshot id) :=
  match matched : token.matching snapshot with
  | .ok _ => decidable_of_iff' _ (matches_iff matched)
  | .error _ => isFalse fun ⟨_, ok, _⟩ => nomatch matched.symm.trans ok

theorem isPositive_iff :
    token.isPositive = true ↔ token.kind = .required ∨ token.isPlain = true := by
  cases kind : token.kind <;> simp [isPositive, isPlain, kind]

theorem phraseMatches_of_text {t : Text} (text : snapshot.normalizedText id = .ok t)
    (phrase : Text) : ∃ answer, phraseMatches snapshot phrase id = .ok answer :=
  ⟨_, Outcome.bind_eq_ok.mpr ⟨t, text, rfl⟩⟩

theorem wordMatches_of_text {t : Text} (text : snapshot.normalizedText id = .ok t)
    (words : List Text) : ∃ answer, wordMatches snapshot words id = .ok answer := by
  unfold wordMatches
  split
  · exact ⟨true, rfl⟩
  · exact ⟨_, Outcome.bind_eq_ok.mpr ⟨t, text, rfl⟩⟩

theorem matching_of_readable (readable : snapshot.Readable) (token : QueryToken) :
    ∃ ids, token.matching snapshot = .ok ids := by
  have filters {test : Nat → Except Failure Bool}
      (answers : ∀ id t, snapshot.normalizedText id = .ok t → ∃ answer, test id = .ok answer) :
      ∃ ids, snapshot.docIds.filterM test = .ok ids := by
    refine ⟨_, Outcome.filterM_eq_ok.mpr ⟨fun id member => ?_, rfl⟩⟩
    obtain ⟨t, text⟩ := readable id member
    exact answers id t text
  unfold matching
  split <;> dsimp only <;> split
  · exact ⟨_, rfl⟩
  · exact filters fun _ _ text => phraseMatches_of_text text _
  · exact ⟨_, rfl⟩
  · exact filters fun _ _ text => wordMatches_of_text text _

theorem WellFormed.answered (wellFormed : token.WellFormed) (readable : snapshot.Readable) :
    token.Answered snapshot := by
  unfold Answered
  split
  next operator =>
    unfold WellFormed at wellFormed
    rwa [operator] at wellFormed
  next => exact matching_of_readable readable token

end QueryToken

namespace Evaluation
variable {snapshot : Snapshot} {tokens : List QueryToken} {token last : QueryToken}
  {e next : Evaluation} {result : BooleanMatch} {id : Nat}

theorem step_ok_iff (snapshot : Snapshot) (e : Evaluation) (token : QueryToken) :
    (∃ next, step snapshot e token = .ok next) ↔ token.Answered snapshot := by
  unfold QueryToken.Answered
  split
  next operator =>
    constructor
    · rintro ⟨next, ok⟩
      rcases step_cases ok with ⟨connective, _, word, _⟩ | ⟨_, other, _⟩ | ⟨_, other, _⟩
      · exact ⟨connective, Connective.mem_all connective, Connective.ofWord?_eq_some.mp word⟩
      · cases operator.symm.trans other
      · simp [operator, QueryToken.isPlain] at other
    · rintro ⟨connective, _, word⟩
      refine ⟨{ e with connective }, ?_⟩
      simp [step, operator, Connective.ofWord?_eq_some.mpr word]
  next other =>
    constructor
    · rintro ⟨next, ok⟩
      rcases step_cases ok with ⟨_, operator, _⟩ | ⟨ids, _, matched, _⟩ | ⟨ids, _, matched, _⟩
      · exact absurd operator other
      · exact ⟨ids, matched⟩
      · exact ⟨ids, matched⟩
    · rintro ⟨ids, matched⟩
      cases kind : token.kind with
      | operator => exact absurd kind other
      | term | phrase | required | excluded =>
        exact ⟨_, by simp only [step, kind, matched]; rfl⟩

theorem run_ok_iff (snapshot : Snapshot) (tokens : List QueryToken) :
    (∃ result, run snapshot tokens = .ok result) ↔ ∀ token ∈ tokens, token.Answered snapshot := by
  have folds : (∃ e, tokens.foldlM (step snapshot) { found := snapshot.docIds } = .ok e) ↔
      ∀ token ∈ tokens, token.Answered snapshot :=
    Outcome.foldlM_ok_iff (step_ok_iff snapshot) tokens _
  rw [← folds]
  constructor
  · rintro ⟨result, ok⟩
    obtain ⟨e, folded, _⟩ := found_of_run ok
    exact ⟨e, folded⟩
  · rintro ⟨e, folded⟩
    exact ⟨e.result, Outcome.bind_eq_ok.mpr ⟨e, folded, rfl⟩⟩

theorem gain_found_sublist {required : Bool} {ids : List Nat}
    (inside : e.found.Sublist snapshot.docIds) :
    (gain snapshot required e ids).found.Sublist snapshot.docIds := by
  unfold gain
  dsimp only
  split
  · exact List.filter_sublist.trans inside
  · split
    · split
      · exact List.filter_sublist
      · exact List.filter_sublist.trans inside
    · exact List.filter_sublist.trans inside

theorem step_found_sublist (inside : e.found.Sublist snapshot.docIds)
    (ok : step snapshot e token = .ok next) : next.found.Sublist snapshot.docIds := by
  rcases step_cases ok with ⟨_, _, _, rfl⟩ | ⟨_, _, _, rfl⟩ | ⟨_, _, _, rfl⟩
  · exact inside
  · exact List.filter_sublist.trans inside
  · exact gain_found_sublist inside

theorem docIds_sublist (ok : run snapshot tokens = .ok result) :
    result.docIds.Sublist snapshot.docIds := by
  obtain ⟨e, folded, rfl⟩ := found_of_run ok
  exact Outcome.foldlM_keeps (fun e => e.found.Sublist snapshot.docIds)
    (fun _ _ _ => step_found_sublist) (List.Sublist.refl _) folded

theorem docIds_ascending (ok : run snapshot tokens = .ok result) :
    result.docIds.Pairwise (· < ·) :=
  List.pairwise_lt_range.sublist (docIds_sublist ok)

def hitCount (snapshot : Snapshot) (tokens : List QueryToken) (id : Nat) : Nat :=
  tokens.countP fun token => token.isPositive && decide (token.Matches snapshot id)

@[simp] theorem gain_credited (required : Bool) (ids : List Nat) :
    (gain snapshot required e ids).credited = e.credited ++ [ids] := by
  unfold gain
  dsimp only
  split
  · rfl
  · split <;> rfl

theorem step_credited (ok : step snapshot e token = .ok next) (id : Nat) :
    next.credited.countP (·.contains id) =
      e.credited.countP (·.contains id) + hitCount snapshot [token] id := by
  rcases step_cases ok with ⟨_, kind, _, rfl⟩ | ⟨_, kind, _, rfl⟩ | ⟨ids, kind, matched, rfl⟩
  · simp [hitCount, QueryToken.isPositive, kind]
  · simp [hitCount, QueryToken.isPositive, kind]
  · simp [hitCount, QueryToken.isPositive_iff.mpr kind, QueryToken.matches_iff matched]

theorem credited_hitCount
    (folded : tokens.foldlM (step snapshot) { found := snapshot.docIds } = .ok e) (id : Nat) :
    e.credited.countP (·.contains id) = hitCount snapshot tokens id := by
  induction tokens using List.reverseRecOn generalizing e with
  | nil =>
    cases folded
    rfl
  | append_singleton tokens last ih =>
    obtain ⟨middle, earlier, ok⟩ := Outcome.foldlM_concat.mp folded
    rw [step_credited ok id, ih earlier, hitCount, hitCount, hitCount, List.countP_append]

theorem hitCounts_eq (ok : run snapshot tokens = .ok result) :
    result.hitCounts = result.docIds.map fun id => (id, hitCount snapshot tokens id) := by
  obtain ⟨e, folded, rfl⟩ := found_of_run ok
  exact List.map_congr_left fun id _ => by rw [credited_hitCount folded id]

theorem run_parse_of_readable (readable : snapshot.Readable) (query : Text) :
    ∃ result, run snapshot (QueryToken.parse query) = .ok result := by
  apply (run_ok_iff snapshot _).mpr
  intro token member
  exact (QueryToken.wellFormed_of_mem_parse member).answered readable

/-- Every query is read into well-formed tokens and can be evaluated, whatever its text. -/
theorem every_query_evaluates (query : Text) :
    (∀ token ∈ QueryToken.parse query, token.WellFormed) ∧
      ∀ snapshot : Snapshot, snapshot.Readable →
        ∃ result, run snapshot (QueryToken.parse query) = .ok result := by
  constructor
  · exact fun _ => QueryToken.wellFormed_of_mem_parse
  · exact fun _ readable => run_parse_of_readable readable query

theorem readable_pets : pets.Readable := by
  intro id member
  obtain rfl | rfl : id = 0 ∨ id = 1 := by simpa using (show id ∈ [0, 1] from member)
  · exact ⟨"cat".toList, by decide⟩
  · exact ⟨"dog".toList, by decide⟩

def noise : Text := "\"+-\" -- ++ \"\"\" AND OR NOT".toList

theorem noise_evaluates :
    (∀ token ∈ QueryToken.parse noise, token.WellFormed) ∧ pets.Readable ∧
      ∃ result, run pets (QueryToken.parse noise) = .ok result :=
  have evaluates := every_query_evaluates noise
  ⟨evaluates.1, readable_pets, evaluates.2 pets readable_pets⟩

end Evaluation
end Concordance
