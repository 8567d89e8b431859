import Concordance.Proofs.Verdict

/-! The order of candidates. They make up a set and may be scored in any order: the ranking is the
same, and so is whether it fails, but of several documents that fail any may be reported. -/
namespace Concordance

namespace Outcome
variable {ε α β : Type} {f : α → Except ε β} {items others : List α} {results : List β}

theorem mapM_perm (perm : items.Perm others) (ok : items.mapM f = .ok results) :
    ∃ further, others.mapM f = .ok further ∧ results.Perm further := by
  obtain ⟨further, each, same⟩ := List.perm_comp_forall₂ perm.symm (mapM_eq_ok_iff.mp ok)
  exact ⟨further, mapM_eq_ok_iff.mpr each, same.symm⟩

theorem exists_of_mapM_eq_error {error : ε} (failed : items.mapM f = .error error) :
    ∃ item ∈ items, f item = .error error := by
  induction items with
  | nil => cases failed
  | cons item items ih =>
    rw [List.mapM_cons, bind_eq_error] at failed
    rcases failed with first | ⟨result, _, failed⟩
    · exact ⟨item, List.mem_cons_self, first⟩
    · rcases bind_eq_error.mp failed with rest | ⟨_, _, ⟨⟩⟩
      obtain ⟨other, member, failed⟩ := ih rest
      exact ⟨other, List.mem_cons_of_mem _ member, failed⟩

theorem mapM_filter {p : α → Bool} {q : β → Bool} (ok : items.mapM f = .ok results)
    (agrees : ∀ item result, f item = .ok result → q result = p item) :
    (items.filter p).mapM f = .ok (results.filter q) := by
  have each := mapM_eq_ok_iff.mp ok
  rw [mapM_eq_ok_iff]
  clear ok
  induction each with
  | nil => exact .nil
  | @cons item result items results made _ ih =>
    rw [List.filter_cons, List.filter_cons, agrees item result made]
    split
    · exact .cons made ih
    · exact ih

end Outcome

namespace Scoring
variable {α : Type} [Credit α] {s : Settings} {snapshot : Snapshot} {ids others : List Nat}
  {words : List Text} {query : Text} {variants : List (Text × List Text)} {a b c : Scored}
  {scored further ranked : List Scored}

theorem ranksBefore_iff : ranksBefore a b = true ↔
    b.score < a.score ∨ a.score = b.score ∧ a.docId ≤ b.docId := by
  simp [ranksBefore]

theorem ranksBefore_trans (first : ranksBefore a b = true) (second : ranksBefore b c = true) :
    ranksBefore a c = true := by
  rw [ranksBefore_iff] at *
  omega

theorem ranksBefore_total (a b : Scored) : (ranksBefore a b || ranksBefore b a) = true := by
  rw [Bool.or_eq_true, ranksBefore_iff, ranksBefore_iff]
  omega

theorem docId_eq_of_ranksBefore (before : ranksBefore a b = true) (after : ranksBefore b a = true) :
    a.docId = b.docId := by
  rw [ranksBefore_iff] at *
  omega

theorem sorted_rank (scored : List Scored) :
    (scored.mergeSort ranksBefore).Pairwise fun a b => ranksBefore a b = true :=
  @List.pairwise_mergeSort _ ranksBefore (fun _ _ _ => ranksBefore_trans) ranksBefore_total scored

theorem rank_eq_ok : rank α s snapshot ⟨ids, variants⟩ words query = .ok ranked ↔
    ∃ scored, ids.mapM (fun id => scoreDocument α s snapshot id words
      (Text.trim (Text.lower query)) variants) = .ok scored ∧
        (scored.filter fun d => 0 < d.score).mergeSort ranksBefore = ranked := by
  simp only [rank, Outcome.bind_eq_ok, pure, Except.pure, Except.ok.injEq]

theorem eq_of_sorted (all : ids.mapM (fun id =>
      scoreDocument α s snapshot id words query variants) = .ok scored)
    (perm : ranked.Perm further) (inside : ranked ⊆ scored)
    (sorted : ranked.Pairwise fun a b => ranksBefore a b = true)
    (other : further.Pairwise fun a b => ranksBefore a b = true) : ranked = further := by
  refine List.Perm.eq_of_pairwise ?_ sorted other perm
  intro a b first second before after
  have own (d : Scored) (member : d ∈ ranked) :
      scoreDocument α s snapshot d.docId words query variants = .ok d := by
    obtain ⟨id, _, made⟩ := (Outcome.mem_mapM all).mp (inside member)
    rwa [scoreDocument_docId made]
  have again := own b (perm.mem_iff.mpr second)
  rw [← docId_eq_of_ranksBefore before after, own a first] at again
  exact Except.ok.inj again

/-- The order of the candidates does not matter to the ranking. -/
theorem rank_perm (perm : ids.Perm others) :
    rank α s snapshot ⟨ids, variants⟩ words query = .ok ranked ↔
      rank α s snapshot ⟨others, variants⟩ words query = .ok ranked := by
  have one_way {ids others : List Nat} (perm : ids.Perm others)
      (ok : rank α s snapshot ⟨ids, variants⟩ words query = .ok ranked) :
      rank α s snapshot ⟨others, variants⟩ words query = .ok ranked := by
    obtain ⟨scored, all, rfl⟩ := rank_eq_ok.mp ok
    obtain ⟨further, more, same⟩ := Outcome.mapM_perm perm all
    refine rank_eq_ok.mpr ⟨further, more, eq_of_sorted more ?_ ?_ (sorted_rank _) (sorted_rank _)⟩
    · exact ((List.mergeSort_perm _ _).trans (same.symm.filter _)).trans
        (List.mergeSort_perm _ _).symm
    · intro d member
      exact List.mem_of_mem_filter ((List.mergeSort_perm _ _).mem_iff.mp member)
  exact ⟨one_way perm, one_way perm.symm⟩

/-- A ranking fails for the reason of some candidate. -/
theorem exists_of_rank_eq_error {f : Failure}
    (failed : rank α s snapshot ⟨ids, variants⟩ words query = .error f) :
    ∃ id ∈ ids, scoreDocument α s snapshot id words (Text.trim (Text.lower query)) variants =
      .error f := by
  rcases Outcome.bind_eq_error.mp failed with failed | ⟨_, _, ⟨⟩⟩
  exact Outcome.exists_of_mapM_eq_error failed

/-- Ranking some of the candidates is ranking all of them and passing over the others. -/
theorem rank_filter (ok : rank α s snapshot ⟨ids, variants⟩ words query = .ok ranked)
    (keep : Nat → Bool) : rank α s snapshot ⟨ids.filter keep, variants⟩ words query =
      .ok (ranked.filter fun d => keep d.docId) := by
  obtain ⟨scored, all, rfl⟩ := rank_eq_ok.mp ok
  have fewer := Outcome.mapM_filter (q := fun d : Scored => keep d.docId) all
    fun id d made => congrArg keep (scoreDocument_docId made)
  refine rank_eq_ok.mpr ⟨_, fewer, eq_of_sorted all ?_ ?_ (sorted_rank _)
    ((sorted_rank _).filter _)⟩
  · refine (List.mergeSort_perm _ _).trans ?_
    rw [List.filter_comm]
    exact ((List.mergeSort_perm _ _).filter _).symm
  · intro d member
    exact List.mem_of_mem_filter (List.mem_of_mem_filter
      ((List.mergeSort_perm _ _).mem_iff.mp member))

end Scoring
end Concordance
