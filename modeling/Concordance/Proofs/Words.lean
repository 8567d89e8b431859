import Concordance.Analysis.Token
import Concordance.Proofs.LowerCase
import Mathlib.Data.List.TakeWhile

/-! The words of a text. A word of lower-case text stands in it, is not empty, consists of word
characters in lower case, has no apostrophe or hyphen at either end, and is its own analysis. -/
namespace Concordance

section Runs
variable {α β : Type} {p : α → Bool} {x : α} {items run : List α}

theorem runs_cons_of_neg (fails : p x = false) (rest : List α) :
    runs p (x :: rest) = runs p rest := by
  simp [runs, fails]

theorem runs_cons_of_pos (holds : p x = true) (rest : List α) :
    runs p (x :: rest) = (x :: rest.takeWhile p) :: runs p (rest.dropWhile p) := by
  induction rest generalizing x with
  | nil => simp [runs, holds]
  | cons y rest ih =>
    cases next : p y with
    | true =>
      have later := ih next
      conv_lhs => unfold runs
      simp [holds, next, later]
    | false =>
      have later := runs_cons_of_neg next rest
      conv_lhs => unfold runs
      rw [List.takeWhile_cons_of_neg (by simp [next]), List.dropWhile_cons_of_neg (by simp [next]),
        later]
      cases runs p rest <;> simp [holds, next]

theorem runs_induction {motive : List α → Prop} (nil : motive [])
    (skip : ∀ x rest, p x = false → motive rest → motive (x :: rest))
    (take : ∀ x rest, p x = true → motive (rest.dropWhile p) → motive (x :: rest)) :
    ∀ items, motive items
  | [] => nil
  | x :: rest => by
    cases test : p x with
    | false => exact skip x rest test (runs_induction nil skip take rest)
    | true =>
      have := (List.dropWhile_suffix p (l := rest)).length_le
      exact take x rest test (runs_induction nil skip take (rest.dropWhile p))
termination_by items => items.length
decreasing_by all_goals (simp only [List.length_cons]; omega)

theorem runs_map (p : β → Bool) (f : α → β) (items : List α) :
    (runs (fun x => p (f x)) items).map (List.map f) = runs p (items.map f) := by
  induction items using runs_induction (p := fun x => p (f x)) with
  | nil => rfl
  | skip x rest fails ih =>
    have source := runs_cons_of_neg (p := fun x => p (f x)) fails rest
    rw [source, ih, List.map_cons, runs_cons_of_neg fails]
  | take x rest holds ih =>
    have source := runs_cons_of_pos (p := fun x => p (f x)) holds rest
    rw [source, List.map_cons, ih, List.map_cons, List.map_cons, runs_cons_of_pos holds,
      List.takeWhile_map, List.dropWhile_map]
    rfl

theorem of_mem_runs (member : run ∈ runs p items) :
    run ≠ [] ∧ (∀ x ∈ run, p x = true) ∧ run <:+: items := by
  induction items using runs_induction (p := p) with
  | nil => cases member
  | skip x rest fails ih =>
    rw [runs_cons_of_neg fails] at member
    obtain ⟨nonempty, all, within⟩ := ih member
    exact ⟨nonempty, all, within.trans (List.suffix_cons x rest).isInfix⟩
  | take x rest holds ih =>
    rw [runs_cons_of_pos holds] at member
    rcases List.mem_cons.mp member with rfl | later
    · refine ⟨List.cons_ne_nil _ _, ?_, ?_⟩
      · exact List.forall_mem_cons.mpr ⟨holds, fun y => List.mem_takeWhile_imp⟩
      · exact (List.prefix_cons_inj x |>.mpr (List.takeWhile_prefix p)).isInfix
    · obtain ⟨nonempty, all, within⟩ := ih later
      refine ⟨nonempty, all, within.trans ?_⟩
      exact ((List.dropWhile_suffix p).trans (List.suffix_cons x rest)).isInfix

theorem runs_apart (member : run ∈ runs p items) :
    ∃ u v, items = u ++ (run ++ v) ∧ (∀ x ∈ u.getLast?, p x = false) ∧
      ∀ x ∈ v.head?, p x = false := by
  induction items using runs_induction (p := p) with
  | nil => cases member
  | skip x rest fails ih =>
    rw [runs_cons_of_neg fails] at member
    obtain ⟨u, v, rfl, before, behind⟩ := ih member
    refine ⟨x :: u, v, rfl, fun y last => ?_, behind⟩
    cases u with
    | nil =>
      cases last
      exact fails
    | cons z u =>
      rw [List.getLast?_cons_cons] at last
      exact before y last
  | take x rest holds ih =>
    rw [runs_cons_of_pos holds] at member
    have stops : ∀ y ∈ (rest.dropWhile p).head?, p y = false := by
      intro y first
      have stopped := List.head?_dropWhile_not p rest
      rwa [Option.mem_def.mp first] at stopped
    rcases List.mem_cons.mp member with rfl | later
    · refine ⟨[], rest.dropWhile p, ?_, nofun, stops⟩
      rw [List.nil_append, List.cons_append, List.takeWhile_append_dropWhile]
    · obtain ⟨nonempty, all, _⟩ := of_mem_runs later
      obtain ⟨u, v, same, before, behind⟩ := ih later
      -- the run is not what is dropped first, which begins with something of another kind
      have more : u ≠ [] := by
        rintro rfl
        obtain ⟨y, run, rfl⟩ := List.exists_cons_of_ne_nil nonempty
        have other := stops y (by rw [same]; rfl)
        rw [all y List.mem_cons_self] at other
        cases other
      refine ⟨x :: rest.takeWhile p ++ u, v, ?_, fun y last => ?_, behind⟩
      · rw [List.append_assoc, ← same, List.cons_append, List.takeWhile_append_dropWhile]
      · rw [List.getLast?_append_of_ne_nil _ more] at last
        exact before y last

theorem runs_of_all (nonempty : items ≠ []) (all : ∀ x ∈ items, p x = true) :
    runs p items = [items] := by
  cases items with
  | nil => exact absurd rfl nonempty
  | cons x rest =>
    obtain ⟨first, others⟩ := List.forall_mem_cons.mp all
    have taken : rest.takeWhile p = rest := List.takeWhile_eq_self_iff.mpr others
    have dropped : rest.dropWhile p = [] := List.dropWhile_eq_nil_iff.mpr others
    rw [runs_cons_of_pos first, taken, dropped, runs]

end Runs

namespace Text
variable {p : Char → Bool} {t w needle : Text}

def Trimmed (p : Char → Bool) (t : Text) : Prop :=
  (∀ c ∈ t.head?, p c = false) ∧ ∀ c ∈ t.getLast?, p c = false

theorem trimBy_begins (p : Char → Bool) (t : Text) : trimBy p t <+: t.dropWhile p := by
  have dropped := List.dropWhile_suffix p (l := (t.dropWhile p).reverse)
  rwa [← List.reverse_prefix, List.reverse_reverse] at dropped

theorem trimBy_within (p : Char → Bool) (t : Text) : trimBy p t <:+: t :=
  (trimBy_begins p t).isInfix.trans (List.dropWhile_suffix p).isInfix

theorem head?_dropWhile {c : Char} (first : c ∈ (t.dropWhile p).head?) : p c = false := by
  have stopped := List.head?_dropWhile_not p t
  rwa [Option.mem_def.mp first] at stopped

theorem trimmed_trimBy (p : Char → Bool) (t : Text) : Trimmed p (trimBy p t) := by
  constructor
  · intro c first
    obtain ⟨rest, whole⟩ := trimBy_begins p t
    apply head?_dropWhile (t := t)
    rw [← whole, List.head?_append, Option.mem_def.mp first]
    rfl
  · intro c last
    rw [trimBy, List.getLast?_reverse] at last
    exact head?_dropWhile last

theorem any_eq_false {o : Option Char} : o.any p = false ↔ ∀ c ∈ o, p c = false := by
  cases o <;> simp

theorem dropWhile_of_head? (first : ∀ c ∈ t.head?, p c = false) : t.dropWhile p = t := by
  cases t with
  | nil => rfl
  | cons c t => simp [first c rfl]

theorem trimBy_split (p : Char → Bool) (t : Text) :
    ∃ a b, t = a ++ (trimBy p t ++ b) ∧ (∀ c ∈ a, p c = true) ∧ ∀ c ∈ b, p c = true := by
  refine ⟨t.takeWhile p, ((t.dropWhile p).reverse.takeWhile p).reverse, ?_,
    fun c => List.mem_takeWhile_imp, fun c member => ?_⟩
  · rw [trimBy, ← List.reverse_append, List.takeWhile_append_dropWhile, List.reverse_reverse,
      List.takeWhile_append_dropWhile]
  · exact List.mem_takeWhile_imp (List.mem_reverse.mp member)

theorem mem_trimBy {c : Char} (member : c ∈ t) (other : p c = false) : c ∈ trimBy p t := by
  obtain ⟨a, b, split, front, back⟩ := trimBy_split p t
  rw [split] at member
  rcases List.mem_append.mp member with here | further
  · cases other.symm.trans (front c here)
  · rcases List.mem_append.mp further with inside | here
    · exact inside
    · cases other.symm.trans (back c here)

theorem mem_join {separator : Text} {ts : List Text} {c : Char} (part : t ∈ ts)
    (member : c ∈ t) : c ∈ join separator ts := by
  cases ts with
  | nil => cases part
  | cons u ts =>
    rw [join_cons]
    rcases List.mem_cons.mp part with rfl | later
    · exact List.mem_append_left _ member
    · exact List.mem_append_right _
        (List.mem_flatMap.mpr ⟨t, later, List.mem_append_right _ member⟩)

theorem trimBy_of_trimmed (trimmed : Trimmed p t) : trimBy p t = t := by
  have back : ∀ c ∈ t.reverse.head?, p c = false := by
    rw [List.head?_reverse]
    exact trimmed.2
  rw [trimBy, dropWhile_of_head? trimmed.1, dropWhile_of_head? back, List.reverse_reverse]

theorem trim_lower_of_trimmed (lowered : Lowered t) (trimmed : Trimmed Unicode.isBlank t) :
    trim (lower t) = t := by
  rw [lower_of_lowered lowered, trim, trimBy_of_trimmed trimmed]

theorem occursIn_iff_within : occursIn needle t = true ↔ needle <:+: t := by
  induction t with
  | nil => simp [occursIn]
  | cons c t ih => simp [occursIn, ih, List.infix_cons_iff]

end Text

namespace Token

theorem map_renumber {β : Type} {f : Token → β}
    (free : ∀ token n, f { token with position := n } = f token) (tokens : List Token) :
    (renumber tokens).map f = tokens.map f := by
  have forget : (renumber tokens).map f = (tokens.zipIdx.map Prod.fst).map f := by
    rw [renumber, List.map_map, List.map_map]
    exact List.map_congr_left fun entry _ => free entry.1 entry.2
  rw [forget, List.zipIdx_map_fst]

theorem map_text_renumber (tokens : List Token) :
    (renumber tokens).map (·.text) = tokens.map (·.text) := map_renumber (fun _ _ => rfl) tokens

theorem map_text_scan (t : Text) : (scan t).map (·.text) = runs isWordPart t := by
  have texts := runs_map isWordPart Prod.fst t.zipIdx
  rw [List.zipIdx_map_fst] at texts
  rw [scan, map_text_renumber, List.map_map, ← texts]
  rfl

end Token

namespace TokenFilter

theorem map_text_lowercase (tokens : List Token) :
    (lowercase.run tokens).map (·.text) = (tokens.map (·.text)).map Text.lower := by
  simp [run]

theorem map_text_edges (characters : Text) (tokens : List Token) :
    ((edges characters).run tokens).map (·.text) =
      ((tokens.map (·.text)).map (Text.trimBy characters.contains)).filter (!·.isEmpty) := by
  induction tokens with
  | nil => rfl
  | cons token tokens ih =>
    have step : (edges characters).run (token :: tokens) =
        (stripEdges characters token).toList ++ (edges characters).run tokens := by
      cases kept : stripEdges characters token <;> simp [run, kept]
    rw [step, List.map_append, ih]
    unfold stripEdges
    dsimp only
    split
    next empty => simp [empty]
    next some =>
      split
      next same =>
        rw [same] at some
        simp [same, some]
      next => simp [some]

end TokenFilter

namespace Text
variable {t w : Text}

def isEdge (c : Char) : Bool := ['\'', '-'].contains c

theorem words_eq (t : Text) :
    words t = (((runs isWordPart t).map lower).map (trimBy isEdge)).filter (!·.isEmpty) := by
  rw [← Token.map_text_scan, ← TokenFilter.map_text_lowercase]
  exact (Token.map_text_renumber _).trans (TokenFilter.map_text_edges ['\'', '-'] _)

structure IsWord (w : Text) : Prop where
  nonempty : w ≠ []
  parts : ∀ c ∈ w, isWordPart c = true
  lowered : Lowered w
  trimmed : Trimmed isEdge w

theorem IsWord.words_eq (word : IsWord w) : words w = [w] := by
  rw [Text.words_eq, runs_of_all word.nonempty word.parts]
  simp [lower_of_lowered word.lowered, trimBy_of_trimmed word.trimmed, word.nonempty]

theorem isWord_of_mem (lowered : Lowered t) (member : w ∈ words t) : IsWord w ∧ w <:+: t := by
  rw [words_eq] at member
  simp only [List.mem_filter, List.mem_map] at member
  obtain ⟨⟨_, ⟨run, found, rfl⟩, rfl⟩, nonempty⟩ := member
  obtain ⟨_, parts, within⟩ := of_mem_runs found
  rw [lower_of_lowered (lowered.part within)] at nonempty ⊢
  have inside := trimBy_within isEdge run
  refine ⟨⟨?_, fun c member => parts c (inside.subset member), ?_, trimmed_trimBy isEdge run⟩, ?_⟩
  · simpa using nonempty
  · exact (lowered.part within).part inside
  · exact inside.trans within

theorem isWord_of_words_eq (own : words w = [w]) : IsWord w := by
  have member : w ∈ words w := own ▸ List.mem_singleton_self w
  have lowered : Lowered w := by
    rw [words_eq] at member
    simp only [List.mem_filter, List.mem_map] at member
    obtain ⟨⟨_, ⟨run, _, rfl⟩, same⟩, _⟩ := member
    rw [← same]
    exact (lowered_lower run).part (trimBy_within isEdge _)
  exact (isWord_of_mem lowered member).1

end Text
end Concordance
