import Concordance.Proofs.NormalizedWords

/-! Words between separators. Whatever is no letter, number, apostrophe or hyphen separates words:
no word reaches across it, and what stands on one side changes nothing on the other, not even how a
sigma is put into lower case. The words of a text are what its maximal runs of other characters
leave when each is put into lower case and its edges are taken off. -/
namespace Concordance

/-- The maximal runs of elements with a property: the list goes on from one to the next with
elements that do not have it, and no run is empty or stops before another one that has it. -/
inductive MaximalRuns {α : Type} (P : α → Prop) : List α → List (List α) → Prop
  | gap {items : List α} (outside : ∀ x ∈ items, ¬P x) : MaximalRuns P items []
  | run {gap run rest : List α} {others : List (List α)} (outside : ∀ x ∈ gap, ¬P x)
    (nonempty : run ≠ []) (inside : ∀ x ∈ run, P x) (ends : ∀ x ∈ rest.head?, ¬P x)
    (further : MaximalRuns P rest others) : MaximalRuns P (gap ++ (run ++ rest)) (run :: others)

section Runs
variable {α : Type} {P : α → Prop} {p : α → Bool} {x : α} {items rest : List α}
  {found : List (List α)}

theorem MaximalRuns.skip (fails : ¬P x) (further : MaximalRuns P rest found) :
    MaximalRuns P (x :: rest) found := by
  cases further with
  | gap outside => exact .gap (List.forall_mem_cons.mpr ⟨fails, outside⟩)
  | run outside nonempty inside ends further =>
    rw [← List.cons_append]
    exact .run (List.forall_mem_cons.mpr ⟨fails, outside⟩) nonempty inside ends further

theorem maximalRuns_iff (same : ∀ x, P x ↔ p x = true) :
    MaximalRuns P items found ↔ found = runs p items := by
  have fails {x : α} (other : ¬P x) : p x = false := by simpa [same] using other
  constructor
  · intro maximal
    induction maximal with
    | gap outside => exact (runs_of_none fun x member => fails (outside x member)).symm
    | run outside nonempty inside ends _ ih =>
      rw [runs_append_of_none fun x member => fails (outside x member),
        runs_cons_run nonempty (fun x member => (same x).mp (inside x member))
          fun x first => fails (ends x first), ih]
  · rintro rfl
    induction items using runs_induction (p := p) with
    | nil => exact .gap (List.forall_mem_nil _)
    | skip x rest other ih =>
      rw [runs_cons_of_neg other]
      exact ih.skip (by simp [same, other])
    | take x rest holds ih =>
      have run : MaximalRuns P ([] ++ ((x :: rest.takeWhile p) ++ rest.dropWhile p)) _ :=
        .run (List.forall_mem_nil _) (List.cons_ne_nil _ _)
          (List.forall_mem_cons.mpr ⟨(same x).mpr holds, fun y member =>
            (same y).mpr (List.mem_takeWhile_imp member)⟩)
          (fun y first => by
            have stopped := List.head?_dropWhile_not p rest
            rw [Option.mem_def.mp first] at stopped
            simp [same, stopped]) ih
      rw [List.nil_append, List.cons_append, List.takeWhile_append_dropWhile] at run
      rwa [runs_cons_of_pos holds]

end Runs

namespace Text
open Unicode
variable {c : Char}

def IsSeparator (c : Char) : Prop := isAlphanumeric c = false ∧ c ≠ '\'' ∧ c ≠ '-'

theorem isSeparator_iff : IsSeparator c ↔ isWordPart c = false := by
  simp [IsSeparator, isWordPart, and_assoc]

theorem isSeparator_underscore : IsSeparator '_' := by
  refine ⟨?_, ?_, ?_⟩ <;> decide +kernel

theorem words_append_separator (separates : IsSeparator c) (a b : Text) :
    words (a ++ c :: b) = words a ++ words b := by
  have other := isSeparator_iff.mp separates
  have apart : runs isWordPart (a ++ c :: b) = runs isWordPart a ++ runs isWordPart b := by
    rw [runs_append (by rintro x ⟨⟩; exact other), runs_cons_of_neg other]
  simp only [words_eq, apart, List.map_append, List.filter_append]

/-- No word reaches across a separator, such as an underscore, and the words of a text are its
maximal runs of other characters, each in lower case and without edges, but for those of nothing
else. -/
theorem words_separated : IsSeparator '_' ∧
    (∀ (a b : Text) (c : Char), IsSeparator c → words (a ++ c :: b) = words a ++ words b) ∧
    ∀ t : Text, ∃ found,
      (∀ others, MaximalRuns (fun c => ¬IsSeparator c) t others ↔ others = found) ∧
      words t = ((found.map fun run => trimBy isEdge (lower run)).filter (!·.isEmpty)) := by
  refine ⟨isSeparator_underscore, fun a b c separates => words_append_separator separates a b,
    fun t => ?_⟩
  refine ⟨runs isWordPart t, fun others => maximalRuns_iff fun c => ?_, ?_⟩
  · simp [isSeparator_iff]
  · rw [words_eq, List.map_map]
    rfl

theorem snake_case_separated : IsSeparator '_' ∧
    words ("ΝΙΚΟΣ".toList ++ '_' :: "'Case-'".toList) = ["νικος".toList, "case".toList] := by
  have left : words "ΝΙΚΟΣ".toList = ["νικος".toList] := by decide +kernel
  have right : words "'Case-'".toList = ["case".toList] := by decide +kernel
  refine ⟨isSeparator_underscore, ?_⟩
  rw [words_separated.2.1 _ _ _ words_separated.1, left, right]
  rfl

end Text
end Concordance
