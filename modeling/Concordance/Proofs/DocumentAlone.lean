import Concordance.Proofs.Consistency
import Concordance.Proofs.EvaluationOutcome

/-! A document among others and alone. What a token says of a document can be told from the text it
was indexed under, and the state of an evaluation from the tokens, so two evaluations in which the
tokens say the same of a document go together step by step. Whether a boolean query finds a document
does not depend on the other documents of the collection. -/
namespace Concordance

namespace Snapshot
variable {s : Settings} {plan : FieldPlan} {values : List Value} {value : Value}
  {documents : List (Document × Text)} {d : Document} {t : Text} {id next other : Nat}

theorem enroll_elsewhere (ok : enroll plan value id = .ok (d, t)) (other : Nat) :
    enroll plan value other = .ok (d, t) := by
  obtain ⟨document, read, ok⟩ := Outcome.bind_eq_ok.mp ok
  obtain ⟨text, indexed, same⟩ := Outcome.bind_eq_ok.mp ok
  cases same
  refine Outcome.bind_eq_ok.mpr ⟨d, ?_, Outcome.bind_eq_ok.mpr ⟨t, ?_, rfl⟩⟩
  · unfold Document.read at read ⊢
    split at read
    next => exact read
    next => cases read
  · unfold Document.indexedText at indexed ⊢
    split at indexed
    next => cases indexed
    next => exact indexed
    next => exact indexed
    next => cases indexed

theorem enrollAll_alone (ok : enrollAll plan next values = .ok documents)
    (place : values[id]? = some value) :
    ∃ d t, documents[id]? = some (d, t) ∧ enrollAll plan 0 [value] = .ok [(d, t)] := by
  obtain ⟨⟨d, t⟩, found, enrolled⟩ := enrollAll_place ok place
  refine ⟨d, t, found, Outcome.bind_eq_ok.mpr ⟨(d, t), enroll_elsewhere enrolled 0, ?_⟩⟩
  rfl

theorem readable_ofTexts (ok : enrollAll s.fieldPlan 0 values = .ok documents) :
    (ofTexts s documents).Readable := by
  intro id member
  obtain ⟨d, t, place⟩ := mem_docIds_ofTexts.mp member
  exact ⟨t, normalizedText_ofTexts ok place⟩

theorem mem_postings_of_place (place : documents[id]? = some (d, t)) (w : Text) :
    id ∈ (ofTexts s documents).postings w ↔ w ∈ indexableWords s.minIndexedWordLength t := by
  rw [mem_postings_ofTexts]
  constructor
  · rintro ⟨_, u, same, member⟩
    cases place.symm.trans same
    exact member
  · exact fun member => ⟨d, t, place, member⟩

end Snapshot

namespace QueryToken
variable {s : Settings} {values : List Value} {documents : List (Document × Text)} {d : Document}
  {t : Text} {id : Nat} {token : QueryToken}

def mentionedIn (minLength : Nat) (t : Text) (token : QueryToken) : Bool :=
  if token.kind = .phrase then
    !(Text.lower token.value).isEmpty && Text.occursIn (Text.lower token.value) t
  else
    (Text.distinctWords token.value).any (Snapshot.indexableWords minLength t).contains ||
      (Text.distinctWords token.value).any (Text.hasWholeWord · t)

theorem phraseMatches_eq {snapshot : Snapshot} (text : snapshot.normalizedText id = .ok t)
    (phrase : Text) : phraseMatches snapshot phrase id = .ok (Text.occursIn phrase t) :=
  Outcome.bind_eq_ok.mpr ⟨t, text, rfl⟩

theorem wordMatches_of_place (ok : Snapshot.enrollAll s.fieldPlan 0 values = .ok documents)
    (place : documents[id]? = some (d, t)) (words : List Text) :
    wordMatches (Snapshot.ofTexts s documents) words id =
      .ok (words.any (Snapshot.indexableWords s.minIndexedWordLength t).contains ||
        words.any (Text.hasWholeWord · t)) := by
  have posted (w : Text) : ((Snapshot.ofTexts s documents).postings w).contains id =
      (Snapshot.indexableWords s.minIndexedWordLength t).contains w := by
    rw [Bool.eq_iff_iff, List.contains_iff_mem, List.contains_iff_mem]
    exact Snapshot.mem_postings_of_place place w
  have text := Snapshot.normalizedText_ofTexts ok place
  simp only [wordMatches, posted, text]
  split
  next known => rw [known, Bool.true_or]
  next unknown =>
    rw [Bool.eq_false_iff.mpr unknown, Bool.false_or]
    rfl

theorem matches_iff_mentioned (ok : Snapshot.enrollAll s.fieldPlan 0 values = .ok documents)
    (place : documents[id]? = some (d, t)) :
    token.Matches (Snapshot.ofTexts s documents) id ↔
      token.mentionedIn s.minIndexedWordLength t = true := by
  obtain ⟨ids, matched⟩ := matching_of_readable (Snapshot.readable_ofTexts ok) token
  have inside : id ∈ (Snapshot.ofTexts s documents).docIds :=
    Snapshot.mem_docIds_ofTexts.mpr ⟨d, t, place⟩
  rw [matches_iff matched]
  unfold matching at matched
  unfold mentionedIn
  split
  next phrase =>
    rw [if_pos phrase] at matched
    dsimp only at matched
    split at matched
    next empty =>
      cases matched
      simp [empty]
    next some =>
      have text := Snapshot.normalizedText_ofTexts ok place
      rw [Outcome.mem_filterM matched, phraseMatches_eq text]
      simp [inside, some]
  next other =>
    rw [if_neg other] at matched
    dsimp only at matched
    split at matched
    next empty =>
      cases matched
      simp [List.isEmpty_iff.mp empty]
    next =>
      rw [Outcome.mem_filterM matched, wordMatches_of_place ok place, Except.ok.injEq]
      exact and_iff_right inside

end QueryToken

namespace Evaluation
variable {first second : Snapshot} {tokens : List QueryToken} {e f : Evaluation} {i j : Nat}

theorem mem_found_together (inside : i ∈ first.docIds ↔ j ∈ second.docIds)
    (same : ∀ token ∈ tokens, (token.Matches first i ↔ token.Matches second j))
    (left : tokens.foldlM (step first) { found := first.docIds } = .ok e)
    (right : tokens.foldlM (step second) { found := second.docIds } = .ok f) :
    i ∈ e.found ↔ j ∈ f.found := by
  induction tokens using List.reverseRecOn generalizing e f with
  | nil =>
    cases left
    cases right
    exact inside
  | append_singleton tokens last ih =>
    obtain ⟨middle, earlier, left⟩ := Outcome.foldlM_concat.mp left
    obtain ⟨between, before, right⟩ := Outcome.foldlM_concat.mp right
    have so_far :=
      ih (fun token member => same token (List.mem_append_left _ member)) earlier before
    have alike := same last (List.mem_append_right _ (List.mem_singleton_self last))
    by_cases joins : Joins tokens last
    · rw [mem_found_of_joins (run_reached earlier) left joins,
        mem_found_of_joins (run_reached before) right joins, so_far, alike]
    · have admits : Admits first tokens last i ↔ Admits second tokens last j := by
        simp only [Admits, alike]
      rw [mem_found_of_not_joins (run_reached earlier) left joins,
        mem_found_of_not_joins (run_reached before) right joins, so_far, admits]

theorem hitCount_together
    (same : ∀ token ∈ tokens, (token.Matches first i ↔ token.Matches second j)) :
    hitCount first tokens i = hitCount second tokens j := by
  refine List.countP_congr fun token member => ?_
  simp only [same token member]

theorem lookup_hitCounts {snapshot : Snapshot} {result : BooleanMatch}
    (ok : run snapshot tokens = .ok result) (id : Nat) :
    result.hitCounts.lookup id =
      if id ∈ result.docIds then some (hitCount snapshot tokens id) else none := by
  rw [hitCounts_eq ok]
  split
  next member => exact List.lookup_graph _ member
  next absent =>
    refine List.lookup_eq_none_iff.mpr fun entry member => ?_
    obtain ⟨known, listed, rfl⟩ := List.mem_map.mp member
    have apart : id ≠ known := fun equal => absent (equal ▸ listed)
    simpa using apart

/-- A boolean query finds a document of a collection exactly if it finds the document in an index of
that document alone, and then with the same number of hits. -/
theorem found_iff_found_alone {s : Settings} {values : List Value} {whole : Snapshot}
    {value : Value} (built : Snapshot.build s values = .ok whole)
    (place : values[i]? = some value) (query : Text) :
    ∃ alone result single, Snapshot.build s [value] = .ok alone ∧
      run whole (QueryToken.parse query) = .ok result ∧
      run alone (QueryToken.parse query) = .ok single ∧
      (i ∈ result.docIds ↔ 0 ∈ single.docIds) ∧
      result.hitCounts.lookup i = single.hitCounts.lookup 0 := by
  obtain ⟨documents, ok, rfl⟩ := Snapshot.build_eq_ok.mp built
  obtain ⟨d, t, found, own⟩ := Snapshot.enrollAll_alone ok place
  obtain ⟨result, left⟩ := run_parse_of_readable (Snapshot.readable_ofTexts ok) query
  obtain ⟨single, right⟩ := run_parse_of_readable (Snapshot.readable_ofTexts own) query
  have same (token : QueryToken) : token.Matches (Snapshot.ofTexts s documents) i ↔
      token.Matches (Snapshot.ofTexts s [(d, t)]) 0 := by
    rw [QueryToken.matches_iff_mentioned ok found, QueryToken.matches_iff_mentioned own rfl]
  have members : i ∈ result.docIds ↔ 0 ∈ single.docIds := by
    obtain ⟨e, among, rfl⟩ := found_of_run left
    obtain ⟨f, by_itself, rfl⟩ := found_of_run right
    refine mem_found_together ?_ (fun token _ => same token) among by_itself
    exact iff_of_true (Snapshot.mem_docIds_ofTexts.mpr ⟨d, t, found⟩)
      (Snapshot.mem_docIds_ofTexts.mpr ⟨d, t, rfl⟩)
  refine ⟨_, result, single, Snapshot.build_eq_ok.mpr ⟨_, own, rfl⟩, left, right, members, ?_⟩
  simp only [lookup_hitCounts left, lookup_hitCounts right, members,
    hitCount_together fun token (_ : token ∈ QueryToken.parse query) => same token]

theorem cat_found_as_alone :
    Snapshot.build {} Snapshot.dogs = .ok Snapshot.dogIndex ∧
    ∃ alone single, Snapshot.build {} [.map [("text".toList, .text "cat".toList)]] = .ok alone ∧
      run Snapshot.dogIndex (QueryToken.parse "cat -dog's".toList) = .ok ⟨[1], [(1, 1)]⟩ ∧
      run alone (QueryToken.parse "cat -dog's".toList) = .ok single ∧
      0 ∈ single.docIds ∧ single.hitCounts.lookup 0 = some 1 := by
  have evaluated : run Snapshot.dogIndex (QueryToken.parse "cat -dog's".toList) =
      .ok ⟨[1], [(1, 1)]⟩ := by decide +kernel
  obtain ⟨alone, result, single, built, among, by_itself, same, hits⟩ :=
    found_iff_found_alone (i := 1) Snapshot.dogs_built rfl "cat -dog's".toList
  cases evaluated.symm.trans among
  exact ⟨Snapshot.dogs_built, alone, single, built, evaluated, by_itself,
    same.mp (List.mem_singleton_self 1), hits.symm⟩

end Evaluation
end Concordance
