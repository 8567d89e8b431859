import Concordance.Proofs.Outcome
import Concordance.Query.Evaluation
import Mathlib.Data.List.Induction

/-! What the evaluation of a boolean query finds. Tokens are taken in turn, so what a required or an
excluded token demands holds from there on, until a term or phrase under `OR` adds documents of its
own. Only such a token can bring back what was ruled out. -/
namespace Concordance

namespace QueryToken
variable {snapshot : Snapshot} {token : QueryToken} {ids : List Nat} {id : Nat}

def Matches (snapshot : Snapshot) (token : QueryToken) (id : Nat) : Prop :=
  ∃ ids, token.matching snapshot = .ok ids ∧ id ∈ ids

def isPlain (token : QueryToken) : Bool := token.kind == .term || token.kind == .phrase

theorem matches_iff (ok : token.matching snapshot = .ok ids) :
    token.Matches snapshot id ↔ id ∈ ids := by
  simp [Matches, ok]

theorem matching_inside (ok : token.matching snapshot = .ok ids) (member : id ∈ ids) :
    id ∈ snapshot.docIds := by
  unfold matching at ok
  split at ok <;> dsimp only at ok <;> split at ok
  · cases ok
    cases member
  · exact ((Outcome.mem_filterM ok).mp member).1
  · cases ok
    cases member
  · exact ((Outcome.mem_filterM ok).mp member).1

end QueryToken

namespace Evaluation
variable {snapshot : Snapshot} {tokens before : List QueryToken} {token last : QueryToken}
  {e next : Evaluation} {id : Nat}

def governing (tokens : List QueryToken) : Connective :=
  ((tokens.filter (·.kind == .operator)).getLast?.bind fun t => Connective.ofWord? t.value).getD
    .and

def Seeds (before : List QueryToken) (token : QueryToken) : Prop :=
  token.kind = .required ∨ token.isPlain = true ∧ governing before ≠ .not

def Seeded (tokens : List QueryToken) : Prop :=
  ∃ before token after, tokens = before ++ token :: after ∧ Seeds before token

/-- Whether a token behind others adds its documents to those found: a term or phrase under `OR`
that is not the first to seed the result. -/
def Joins (before : List QueryToken) (token : QueryToken) : Prop :=
  token.isPlain = true ∧ governing before = .or ∧ Seeded before

/-- Whether a token that joins nothing lets a document pass. -/
def Admits (snapshot : Snapshot) (before : List QueryToken) (token : QueryToken) (id : Nat) :
    Prop :=
  match token.kind with
  | .operator => True
  | .excluded => ¬token.Matches snapshot id
  | .required => token.Matches snapshot id
  | .term | .phrase =>
    if governing before = .not then ¬token.Matches snapshot id else token.Matches snapshot id

theorem governing_operator {connective : Connective} (operator : last.kind = .operator)
    (word : Connective.ofWord? last.value = some connective) :
    governing (tokens ++ [last]) = connective := by
  simp [governing, List.filter_append, operator, word]

theorem governing_other (other : last.kind ≠ .operator) :
    governing (tokens ++ [last]) = governing tokens := by
  simp [governing, List.filter_append, other]

theorem split_concat {after : List QueryToken} :
    tokens ++ [last] = before ++ token :: after ↔
      (after = [] ∧ tokens = before ∧ last = token) ∨
        ∃ rest, after = rest ++ [last] ∧ tokens = before ++ token :: rest := by
  constructor
  · intro same
    rcases List.eq_nil_or_concat after with rfl | ⟨rest, final, rfl⟩
    · obtain ⟨rfl, ends⟩ := List.append_inj' same rfl
      exact .inl ⟨rfl, rfl, (List.cons.inj ends).1⟩
    · have regrouped : tokens ++ [last] = (before ++ token :: rest) ++ [final] := by
        simpa using same
      obtain ⟨rfl, ends⟩ := List.append_inj' regrouped rfl
      exact .inr ⟨rest, by rw [List.concat_eq_append, (List.cons.inj ends).1], rfl⟩
  · rintro (⟨rfl, rfl, rfl⟩ | ⟨rest, rfl, rfl⟩) <;> simp

theorem seeded_concat : Seeded (tokens ++ [last]) ↔ Seeded tokens ∨ Seeds tokens last := by
  simp only [Seeded, split_concat]
  constructor
  · rintro ⟨before, token, after, ⟨_, rfl, rfl⟩ | ⟨rest, _, rfl⟩, seeds⟩
    · exact .inr seeds
    · exact .inl ⟨before, token, rest, rfl, seeds⟩
  · rintro (⟨before, token, after, rfl, seeds⟩ | seeds)
    · exact ⟨before, token, after ++ [last], .inr ⟨after, rfl, rfl⟩, seeds⟩
    · exact ⟨tokens, last, [], .inl ⟨rfl, rfl, rfl⟩, seeds⟩

theorem step_cases (ok : step snapshot e token = .ok next) :
    (∃ connective, token.kind = .operator ∧ Connective.ofWord? token.value = some connective ∧
      next = { e with connective }) ∨
    (∃ ids, token.kind = .excluded ∧ token.matching snapshot = .ok ids ∧
      next = { e with found := diff e.found ids }) ∨
    (∃ ids, (token.kind = .required ∨ token.isPlain = true) ∧ token.matching snapshot = .ok ids ∧
      next = gain snapshot (token.kind == .required) e ids) := by
  unfold step at ok
  split at ok
  case h_1 kind =>
    cases word : Connective.ofWord? token.value with
    | none => simp [word] at ok
    | some connective => exact .inl ⟨connective, kind, rfl, by simpa [word] using ok.symm⟩
  case h_2 kind =>
    obtain ⟨ids, matched, rest⟩ := Outcome.bind_eq_ok.mp ok
    exact .inr (.inl ⟨ids, kind, matched, (Except.ok.inj rest).symm⟩)
  case h_3 notOperator notExcluded =>
    obtain ⟨ids, matched, rest⟩ := Outcome.bind_eq_ok.mp ok
    refine .inr (.inr ⟨ids, ?_, matched, (Except.ok.inj rest).symm⟩)
    cases kind : token.kind <;> simp_all [QueryToken.isPlain]

/-- What the state of an evaluation says of the tokens that led to it. -/
structure Reached (snapshot : Snapshot) (tokens : List QueryToken) (e : Evaluation) : Prop where
  connective : e.connective = governing tokens
  seeded : e.seeded = true ↔ Seeded tokens
  inside : ∀ id ∈ e.found, id ∈ snapshot.docIds

theorem reached_nil : Reached snapshot [] { found := snapshot.docIds } where
  connective := rfl
  seeded := by simp [Seeded]
  inside := fun _ member => member

theorem mem_inter {a b : List Nat} : id ∈ inter a b ↔ id ∈ a ∧ id ∈ b := by simp [inter]

theorem mem_diff {a b : List Nat} : id ∈ diff a b ↔ id ∈ a ∧ id ∉ b := by simp [diff]

theorem mem_union {a b : List Nat} :
    id ∈ union snapshot a b ↔ id ∈ snapshot.docIds ∧ (id ∈ a ∨ id ∈ b) := by simp [union]

@[simp] theorem gain_connective (required : Bool) (ids : List Nat) :
    (gain snapshot required e ids).connective = e.connective := by
  unfold gain
  dsimp only
  split
  · rfl
  · split <;> rfl

theorem gain_seeded (required : Bool) (ids : List Nat) :
    (gain snapshot required e ids).seeded = true ↔
      e.seeded = true ∨ required = true ∨ e.connective ≠ .not := by
  unfold gain
  cases required <;> cases connective : e.connective <;> simp

theorem mem_gain_joined {ids : List Nat} (force : e.connective = .or) (seeded : e.seeded = true) :
    id ∈ (gain snapshot false e ids).found ↔ id ∈ snapshot.docIds ∧ (id ∈ e.found ∨ id ∈ ids) := by
  simp [gain, force, seeded, mem_union]

theorem mem_gain_restricted {required : Bool} {ids : List Nat}
    (alone : required = true ∨ e.connective ≠ .or ∨ e.seeded = false) :
    id ∈ (gain snapshot required e ids).found ↔
      id ∈ e.found ∧ if required = false ∧ e.connective = .not then id ∉ ids else id ∈ ids := by
  unfold gain
  cases required <;> cases force : e.connective <;> cases seeded : e.seeded <;>
    simp_all [mem_inter, mem_diff]

theorem reached_step (reached : Reached snapshot tokens e) (ok : step snapshot e last = .ok next) :
    Reached snapshot (tokens ++ [last]) next := by
  rcases step_cases ok with ⟨connective, kind, word, rfl⟩ | ⟨ids, kind, _, rfl⟩ |
    ⟨ids, kind, matched, rfl⟩
  · refine ⟨(governing_operator kind word).symm, ?_, reached.inside⟩
    simp [seeded_concat, Seeds, QueryToken.isPlain, kind, reached.seeded]
  · refine ⟨?_, ?_, fun id member => reached.inside id (mem_diff.mp member).1⟩
    · simp [governing_other, kind, reached.connective]
    · simp [seeded_concat, Seeds, QueryToken.isPlain, kind, reached.seeded]
  · have other : last.kind ≠ .operator := by
      rcases kind with kind | plain
      · simp [kind]
      · rintro same
        simp [QueryToken.isPlain, same] at plain
    refine ⟨?_, ?_, ?_⟩
    · simp [governing_other other, reached.connective]
    · rw [gain_seeded, reached.seeded, reached.connective, seeded_concat, Seeds]
      rcases kind with kind | plain
      · simp [kind]
      · simp [plain]
    · intro id member
      by_cases alone : (last.kind == .required) = true ∨ e.connective ≠ .or ∨ e.seeded = false
      · exact reached.inside id ((mem_gain_restricted alone).mp member).1
      · simp only [not_or, Bool.not_eq_true, not_not, Bool.not_eq_false] at alone
        rw [alone.1] at member
        exact ((mem_gain_joined alone.2.1 alone.2.2).mp member).1

theorem run_reached (ok : tokens.foldlM (step snapshot) { found := snapshot.docIds } = .ok e) :
    Reached snapshot tokens e := by
  induction tokens using List.reverseRecOn generalizing e with
  | nil =>
    cases ok
    exact reached_nil
  | append_singleton tokens last ih =>
    obtain ⟨middle, earlier, ok⟩ := Outcome.foldlM_concat.mp ok
    exact reached_step (ih earlier) ok

theorem mem_found_of_joins (reached : Reached snapshot tokens e)
    (ok : step snapshot e last = .ok next) (joins : Joins tokens last) :
    id ∈ next.found ↔ id ∈ e.found ∨ last.Matches snapshot id := by
  obtain ⟨plain, force, seeded⟩ := joins
  rcases step_cases ok with ⟨_, kind, _, _⟩ | ⟨_, kind, _, _⟩ | ⟨ids, _, matched, rfl⟩
  · simp [QueryToken.isPlain, kind] at plain
  · simp [QueryToken.isPlain, kind] at plain
  · have optional : (last.kind == .required) = false := by
      simp only [QueryToken.isPlain, Bool.or_eq_true, beq_iff_eq] at plain
      rcases plain with kind | kind <;> simp [kind]
    rw [optional, mem_gain_joined (reached.connective.trans force) (reached.seeded.mpr seeded),
      QueryToken.matches_iff matched]
    constructor
    · exact And.right
    · rintro (member | member)
      · exact ⟨reached.inside id member, .inl member⟩
      · exact ⟨QueryToken.matching_inside matched member, .inr member⟩

theorem mem_found_of_not_joins (reached : Reached snapshot tokens e)
    (ok : step snapshot e last = .ok next) (apart : ¬Joins tokens last) :
    id ∈ next.found ↔ id ∈ e.found ∧ Admits snapshot tokens last id := by
  rcases step_cases ok with ⟨_, kind, _, rfl⟩ | ⟨ids, kind, matched, rfl⟩ |
    ⟨ids, kind, matched, rfl⟩
  · simp [Admits, kind]
  · simp [Admits, kind, mem_diff, QueryToken.matches_iff matched]
  · have alone : (last.kind == .required) = true ∨ e.connective ≠ .or ∨ e.seeded = false := by
      rcases kind with kind | plain
      · exact .inl (by simp [kind])
      · by_cases force : e.connective = .or
        · refine .inr (.inr (Bool.eq_false_iff.mpr fun seeded => apart ?_))
          exact ⟨plain, reached.connective.symm.trans force, reached.seeded.mp seeded⟩
        · exact .inr (.inl force)
    rw [mem_gain_restricted alone, reached.connective]
    rcases kind with kind | plain
    · simp [Admits, kind, QueryToken.matches_iff matched]
    · simp only [QueryToken.isPlain, Bool.or_eq_true, beq_iff_eq] at plain
      rcases plain with kind | kind <;> simp [Admits, kind, QueryToken.matches_iff matched]

/-- Whether one of the tokens behind some others adds a document by joining. -/
def Rejoined (snapshot : Snapshot) (before after : List QueryToken) (id : Nat) : Prop :=
  ∃ between joining rest, after = between ++ joining :: rest ∧
    Joins (before ++ between) joining ∧ joining.Matches snapshot id

theorem Rejoined.extend {after : List QueryToken} (rejoined : Rejoined snapshot before after id)
    (last : QueryToken) : Rejoined snapshot before (after ++ [last]) id := by
  obtain ⟨between, joining, rest, rfl, joins, matched⟩ := rejoined
  exact ⟨between, joining, rest ++ [last], by simp, joins, matched⟩

theorem admitted_or_rejoined {after : List QueryToken}
    (ok : (before ++ token :: after).foldlM (step snapshot) { found := snapshot.docIds } = .ok e)
    (apart : ¬Joins before token) (member : id ∈ e.found) :
    Admits snapshot before token id ∨ Rejoined snapshot (before ++ [token]) after id := by
  induction after using List.reverseRecOn generalizing e with
  | nil =>
    obtain ⟨middle, earlier, ok⟩ := Outcome.foldlM_concat.mp ok
    exact .inl ((mem_found_of_not_joins (run_reached earlier) ok apart).mp member).2
  | append_singleton after last ih =>
    rw [← List.cons_append, ← List.append_assoc] at ok
    obtain ⟨middle, earlier, ok⟩ := Outcome.foldlM_concat.mp ok
    have reached := run_reached earlier
    have carried (member : id ∈ middle.found) :
        Admits snapshot before token id ∨
          Rejoined snapshot (before ++ [token]) (after ++ [last]) id :=
      (ih earlier member).imp_right (·.extend last)
    by_cases joins : Joins (before ++ token :: after) last
    · rcases (mem_found_of_joins reached ok joins).mp member with member | matched
      · exact carried member
      · exact .inr ⟨after, last, [], rfl, by simpa using joins, matched⟩
    · exact carried ((mem_found_of_not_joins reached ok joins).mp member).1

theorem found_of_run {tokens : List QueryToken} {result : BooleanMatch}
    (ok : run snapshot tokens = .ok result) :
    ∃ e, tokens.foldlM (step snapshot) { found := snapshot.docIds } = .ok e ∧
      result = e.result := by
  obtain ⟨e, folded, same⟩ := Outcome.bind_eq_ok.mp ok
  exact ⟨e, folded, (Except.ok.inj same).symm⟩

/-- Every document found is matched by each required token and by no excluded one, but for
documents that a later term or phrase under `OR` has added again. -/
theorem modifiers_hold_unless_rejoined (before after : List QueryToken) (token : QueryToken)
    (result : BooleanMatch) (ok : run snapshot (before ++ token :: after) = .ok result)
    (member : id ∈ result.docIds) :
    (token.kind = .required →
      token.Matches snapshot id ∨ Rejoined snapshot (before ++ [token]) after id) ∧
    (token.kind = .excluded →
      ¬token.Matches snapshot id ∨ Rejoined snapshot (before ++ [token]) after id) := by
  obtain ⟨e, folded, rfl⟩ := found_of_run ok
  have passed (modifier : token.isPlain = false) :=
    admitted_or_rejoined folded (fun joins => Bool.eq_false_iff.mp modifier joins.1) member
  constructor <;> intro kind
  · simpa [Admits, kind] using passed (by simp [QueryToken.isPlain, kind])
  · simpa [Admits, kind] using passed (by simp [QueryToken.isPlain, kind])

def pets : Snapshot :=
  { plan := Settings.fieldPlan {}
    documents := [.record [("text".toList, .text "cat".toList)],
      .record [("text".toList, .text "dog".toList)]]
    summaries := [⟨0, 1, "cat".toList, 3⟩, ⟨1, 1, "dog".toList, 3⟩]
    entries := [("cat".toList, [0]), ("dog".toList, [1])] }

def catOrDog : List QueryToken :=
  [⟨.required, "cat".toList⟩, ⟨.excluded, "dog".toList⟩, ⟨.operator, "OR".toList⟩,
    ⟨.term, "dog".toList⟩]

theorem dog_rejoins_required_cat :
    run pets catOrDog = .ok ⟨[0, 1], [(0, 1), (1, 1)]⟩ ∧ 1 ∈ [0, 1] ∧
      (QueryToken.Matches pets ⟨.required, "cat".toList⟩ 1 ∨
        Rejoined pets [⟨.required, "cat".toList⟩] catOrDog.tail 1) := by
  have ok : run pets catOrDog = .ok ⟨[0, 1], [(0, 1), (1, 1)]⟩ := by decide +kernel
  exact ⟨ok, by decide, (modifiers_hold_unless_rejoined [] catOrDog.tail _ _ ok (by decide)).1 rfl⟩

theorem modifiers_do_not_bind_later_terms :
    (¬∀ (snapshot : Snapshot) (tokens : List QueryToken) (result : BooleanMatch) (id : Nat),
      run snapshot tokens = .ok result → id ∈ result.docIds → ∀ token ∈ tokens,
        token.kind = .required → token.Matches snapshot id) ∧
    ¬∀ (snapshot : Snapshot) (tokens : List QueryToken) (result : BooleanMatch) (id : Nat),
      run snapshot tokens = .ok result → id ∈ result.docIds → ∀ token ∈ tokens,
        token.kind = .excluded → ¬token.Matches snapshot id := by
  have ok : run pets catOrDog = .ok ⟨[0, 1], [(0, 1), (1, 1)]⟩ := by decide +kernel
  have cats : QueryToken.matching pets ⟨.required, "cat".toList⟩ = .ok [0] := by decide +kernel
  have dogs : QueryToken.matching pets ⟨.excluded, "dog".toList⟩ = .ok [1] := by decide +kernel
  constructor <;> intro claim
  · have matched := claim pets catOrDog _ 1 ok (by decide) _ (.head _) rfl
    exact absurd ((QueryToken.matches_iff cats).mp matched) (by decide)
  · have unmatched := claim pets catOrDog _ 1 ok (by decide) _ (.tail _ (.head _)) rfl
    exact unmatched ((QueryToken.matches_iff dogs).mpr (by decide))

end Evaluation
end Concordance
