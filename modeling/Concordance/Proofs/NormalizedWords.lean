import Concordance.Proofs.LowerInContext
import Concordance.Proofs.QueryWords

/-! The words of a text and those of the same text in normal form. Words are taken from a text
before each is put into lower case, and what is indexed is put into lower case as a whole before its
words are taken. Both give the same words exactly if the text has no `İ`, whose dot belongs to no
word, and no capital sigma that ends a word in its run of word characters alone and not in the text,
or the other way round. -/
namespace Concordance

section Runs
variable {α : Type} {p : α → Bool} {front rest : List α}

theorem takeWhile_append_of_head? (ends : ∀ x ∈ rest.head?, p x = false) :
    (front ++ rest).takeWhile p = front.takeWhile p := by
  have stops : rest.takeWhile p = [] := by
    cases rest with
    | nil => rfl
    | cons x rest => exact List.takeWhile_cons_of_neg (by simp [ends x rfl])
  rw [List.takeWhile_append, stops, List.append_nil]
  split
  next whole => exact ((List.takeWhile_prefix p).eq_of_length whole).symm
  next => rfl

theorem dropWhile_append_of_head? (ends : ∀ x ∈ rest.head?, p x = false) :
    (front ++ rest).dropWhile p = front.dropWhile p ++ rest := by
  have stays : rest.dropWhile p = rest := by
    cases rest with
    | nil => rfl
    | cons x rest => exact List.dropWhile_cons_of_neg (by simp [ends x rfl])
  rw [List.dropWhile_append, stays]
  split
  next passed => rw [List.isEmpty_iff.mp passed, List.nil_append]
  next => rfl

theorem takeWhile_reverse_append (nonempty : rest ≠ []) (ends : ∀ x ∈ rest.head?, p x = false) :
    (front ++ rest).reverse.takeWhile p = rest.reverse.takeWhile p := by
  obtain ⟨x, rest, rfl⟩ := List.exists_cons_of_ne_nil nonempty
  have stops (items : List α) : ∀ y ∈ (x :: items).head?, p y = false := by
    rintro y ⟨⟩
    exact ends x rfl
  rw [List.reverse_append, List.reverse_cons, List.append_assoc, List.singleton_append,
    takeWhile_append_of_head? (stops _), takeWhile_append_of_head? (stops [])]

theorem takeWhile_inside {x : α} {a b : List α} (all : ∀ y ∈ a ++ x :: b, p y = true)
    (ends : ∀ x ∈ rest.head?, p x = false) :
    a.reverse.takeWhile p = a.reverse ∧ (b ++ rest).takeWhile p = b := by
  obtain ⟨left, right⟩ := List.forall_mem_append.mp all
  have back := (List.forall_mem_cons.mp right).2
  constructor
  · exact List.takeWhile_eq_self_iff.mpr fun y member => left y (List.mem_reverse.mp member)
  · rw [takeWhile_append_of_head? ends, List.takeWhile_eq_self_iff.mpr back]

theorem runs_append (ends : ∀ x ∈ rest.head?, p x = false) :
    runs p (front ++ rest) = runs p front ++ runs p rest := by
  induction front using runs_induction (p := p) with
  | nil => rfl
  | skip x front fails ih =>
    rw [List.cons_append, runs_cons_of_neg fails, ih, runs_cons_of_neg fails]
  | take x front holds ih =>
    rw [List.cons_append, runs_cons_of_pos holds, takeWhile_append_of_head? ends,
      dropWhile_append_of_head? ends, ih, runs_cons_of_pos holds, List.cons_append]

theorem runs_append_of_none (none : ∀ x ∈ front, p x = false) (rest : List α) :
    runs p (front ++ rest) = runs p rest := by
  induction front with
  | nil => rfl
  | cons x front ih =>
    obtain ⟨first, others⟩ := List.forall_mem_cons.mp none
    rw [List.cons_append, runs_cons_of_neg first, ih others]

theorem runs_of_none (none : ∀ x ∈ rest, p x = false) : runs p rest = [] := by
  have nothing := runs_append_of_none none []
  rwa [List.append_nil, runs] at nothing

theorem runs_cons_run {run : List α} (nonempty : run ≠ []) (all : ∀ x ∈ run, p x = true)
    (ends : ∀ x ∈ rest.head?, p x = false) : runs p (run ++ rest) = run :: runs p rest := by
  rw [runs_append ends, runs_of_all nonempty all, List.singleton_append]

theorem exists_mem_runs {x : α} {items : List α} (member : x ∈ items) (holds : p x = true) :
    ∃ run ∈ runs p items, x ∈ run := by
  induction items using runs_induction (p := p) with
  | nil => cases member
  | skip y rest fails ih =>
    rw [runs_cons_of_neg fails]
    rcases List.mem_cons.mp member with rfl | later
    · cases fails.symm.trans holds
    · exact ih later
  | take y rest first ih =>
    rw [runs_cons_of_pos first]
    rw [← List.takeWhile_append_dropWhile (p := p) (l := rest), ← List.cons_append] at member
    rcases List.mem_append.mp member with here | later
    · exact ⟨_, List.mem_cons_self, here⟩
    · obtain ⟨run, known, inside⟩ := ih later
      exact ⟨run, List.mem_cons_of_mem _ known, inside⟩

end Runs

namespace Text
open Unicode
variable {q : Char → Bool} {t a b before : Text} {as bs : List Text} {c : Char}

theorem words_trim (t : Text) : words (trim t) = words t := by
  obtain ⟨a, b, split, front, back⟩ := trimBy_split isBlank t
  have outside (u : Text) (blank : ∀ c ∈ u, isBlank c = true) : ∀ c ∈ u, isWordPart c = false := by
    intro c member
    by_contra part
    have solid := not_isBlank_of_isWordPart (by simpa using part)
    cases solid.symm.trans (blank c member)
  have ends : ∀ c ∈ b.head?, isWordPart c = false := fun c first =>
    outside b back c (List.mem_of_mem_head? first)
  have same : runs isWordPart t = runs isWordPart (trim t) := by
    conv_lhs => rw [split]
    rw [runs_append_of_none (outside a front), runs_append ends, runs_of_none (outside b back),
      List.append_nil]
    rfl
  rw [words_eq, words_eq, same]

def bare (runs : List Text) : List Text := (runs.map (trimBy isEdge)).filter (!·.isEmpty)

theorem words_eq_bare (t : Text) : words t = bare ((runs isWordPart t).map lower) := words_eq t

theorem words_lower (t : Text) : words (lower t) = bare (runs isWordPart (lower t)) := by
  have settled : (runs isWordPart (lower t)).map lower = runs isWordPart (lower t) := by
    refine (List.map_congr_left fun run member => ?_).trans (List.map_id _)
    exact lower_of_lowered ((lowered_lower t).part (of_mem_runs member).2.2)
  rw [words_eq_bare, settled]

def unshape (c : Char) : Char := if c = 'ς' then 'σ' else c

theorem isEdge_unshape (c : Char) : isEdge (unshape c) = isEdge c := by
  unfold unshape
  split
  next final =>
    subst final
    decide
  next => rfl

theorem unshape_of_isEdge (edge : isEdge c = true) : unshape c = c := by
  unfold unshape
  split
  next final =>
    subst final
    exact absurd edge (by decide)
  next => rfl

theorem unshape_lowerAmid (before other t after behind : Text) :
    (lowerAmid before t after).map unshape = (lowerAmid other t behind).map unshape := by
  induction t generalizing before other with
  | nil => rfl
  | cons c t ih =>
    have first : (lowerBetween before c (t ++ after)).map unshape =
        (lowerBetween other c (t ++ behind)).map unshape := by
      by_cases sigma : c = 'Σ'
      · subst sigma
        cases one : endsWord before (t ++ after) <;> cases two : endsWord other (t ++ behind) <;>
          simp [lowerBetween, one, two, unshape]
      · simp [lowerBetween, sigma]
    rw [lowerAmid, lowerAmid, List.map_append, List.map_append, first, ih]

theorem takeWhile_isEdge_eq (alike : a.map unshape = b.map unshape) :
    a.takeWhile isEdge = b.takeWhile isEdge := by
  have kept (t : Text) : t.takeWhile isEdge = (t.map unshape).takeWhile isEdge := by
    rw [List.takeWhile_map]
    have same : isEdge ∘ unshape = isEdge := funext isEdge_unshape
    rw [same]
    refine ((List.map_congr_left fun c member => ?_).trans (List.map_id _)).symm
    exact unshape_of_isEdge (List.mem_takeWhile_imp member)
  rw [kept a, alike, ← kept b]

theorem dropWhile_isEdge_alike (alike : a.map unshape = b.map unshape) :
    (a.dropWhile isEdge).map unshape = (b.dropWhile isEdge).map unshape := by
  have same : isEdge ∘ unshape = isEdge := funext isEdge_unshape
  have moved (t : Text) : (t.dropWhile isEdge).map unshape = (t.map unshape).dropWhile isEdge := by
    rw [List.dropWhile_map, same]
  rw [moved, moved, alike]

theorem trimBy_isEdge_alike (alike : a.map unshape = b.map unshape) :
    (trimBy isEdge a).map unshape = (trimBy isEdge b).map unshape := by
  have back : (a.dropWhile isEdge).reverse.map unshape =
      (b.dropWhile isEdge).reverse.map unshape := by
    rw [List.map_reverse, List.map_reverse, dropWhile_isEdge_alike alike]
  rw [trimBy, trimBy, List.map_reverse, List.map_reverse, dropWhile_isEdge_alike back]

theorem eq_of_trimBy_isEdge_eq (alike : a.map unshape = b.map unshape)
    (same : trimBy isEdge a = trimBy isEdge b) : a = b := by
  have front := takeWhile_isEdge_eq alike
  have back : (a.dropWhile isEdge).reverse = (b.dropWhile isEdge).reverse := by
    have rest : (a.dropWhile isEdge).reverse.map unshape =
        (b.dropWhile isEdge).reverse.map unshape := by
      rw [List.map_reverse, List.map_reverse, dropWhile_isEdge_alike alike]
    rw [← List.takeWhile_append_dropWhile (p := isEdge) (l := (a.dropWhile isEdge).reverse),
      takeWhile_isEdge_eq rest, List.reverse_inj.mp same, List.takeWhile_append_dropWhile]
  rw [← List.takeWhile_append_dropWhile (p := isEdge) (l := a), front, List.reverse_inj.mp back,
    List.takeWhile_append_dropWhile]

theorem bare_cons (a : Text) (as : List Text) :
    bare (a :: as) = if trimBy isEdge a = [] then bare as else trimBy isEdge a :: bare as := by
  unfold bare
  by_cases empty : trimBy isEdge a = [] <;> simp [empty]

theorem bare_cons_eq_iff (alike : a.map unshape = b.map unshape) :
    bare (a :: as) = bare (b :: bs) ↔ a = b ∧ bare as = bare bs := by
  have lengths : (trimBy isEdge a).length = (trimBy isEdge b).length := by
    have same := congrArg List.length (trimBy_isEdge_alike alike)
    rwa [List.length_map, List.length_map] at same
  have together : trimBy isEdge a = [] ↔ trimBy isEdge b = [] := by
    rw [← List.length_eq_zero_iff, lengths, List.length_eq_zero_iff]
  rw [bare_cons, bare_cons]
  by_cases empty : trimBy isEdge a = []
  · have none := together.mp empty
    rw [if_pos empty, if_pos none]
    exact (and_iff_right (eq_of_trimBy_isEdge_eq alike (empty.trans none.symm))).symm
  · rw [if_neg empty, if_neg (mt together.mpr empty), List.cons.injEq]
    exact and_congr_left fun _ => ⟨eq_of_trimBy_isEdge_eq alike, fun same => by rw [same]⟩

/-- Whether the capital sigmas of a text with some characters `before` it end words there exactly if
they do in their runs of word characters. -/
def KeepsRunSigmas (before t : Text) : Prop :=
  ∀ u v, t = u ++ 'Σ' :: v →
    endsWord (u.reverse ++ before) v =
      endsWord (u.reverse.takeWhile isWordPart) (v.takeWhile isWordPart)

theorem isWordPart_sigma : isWordPart 'Σ' = true := by decide +kernel

theorem keepsRunSigmas_skip (fails : isWordPart c = false) :
    KeepsRunSigmas before (c :: t) ↔ KeepsRunSigmas (c :: before) t := by
  have near (u : Text) : (c :: u).reverse.takeWhile isWordPart =
      u.reverse.takeWhile isWordPart := by
    rw [List.reverse_cons]
    exact takeWhile_append_of_head? (by rintro d ⟨⟩; exact fails)
  constructor
  · intro keeps u v split
    have place := keeps (c :: u) v (by rw [split]; rfl)
    rwa [near, List.reverse_cons, List.append_assoc, List.singleton_append] at place
  · intro keeps u v split
    cases u with
    | nil =>
      obtain ⟨rfl, _⟩ := List.cons.inj split
      cases fails.symm.trans isWordPart_sigma
    | cons d u =>
      obtain ⟨rfl, rfl⟩ := List.cons.inj split
      rw [near, List.reverse_cons, List.append_assoc, List.singleton_append]
      exact keeps u v rfl

theorem keepsRunSigmas_take {run rest : Text} (all : ∀ c ∈ run, isWordPart c = true)
    (ends : ∀ c ∈ rest.head?, isWordPart c = false) :
    KeepsRunSigmas before (run ++ rest) ↔
      lowerAmid before run rest = lower run ∧ KeepsRunSigmas (run.reverse ++ before) rest := by
  rw [lower_eq_lowerAmid, lowerAmid_eq_iff]
  simp only [List.append_nil]
  have first : rest.head? ≠ some 'Σ' := fun sigma => by
    cases (ends 'Σ' sigma).symm.trans isWordPart_sigma
  have behind (u v : Text) (split : rest = u ++ 'Σ' :: v) :
      (run ++ u).reverse.takeWhile isWordPart = u.reverse.takeWhile isWordPart := by
    have some : u ≠ [] := by
      rintro rfl
      exact first (by rw [split]; rfl)
    refine takeWhile_reverse_append some fun c front => ends c ?_
    rwa [split, List.head?_append_of_ne_nil _ some]
  constructor
  · intro keeps
    constructor
    · intro a b split
      obtain ⟨front, back⟩ := takeWhile_inside (split ▸ all) ends
      have place := keeps a (b ++ rest) (by rw [split, List.append_assoc]; rfl)
      rwa [front, back] at place
    · intro u v split
      have place := keeps (run ++ u) v (by rw [split, List.append_assoc])
      rwa [behind u v split, List.reverse_append, List.append_assoc] at place
  · rintro ⟨own, others⟩ u v split
    rcases List.append_eq_append_iff.mp split with ⟨further, rfl, later⟩ | ⟨b, here, later⟩
    · have place := others further v later
      rwa [← behind further v later, ← List.append_assoc, ← List.reverse_append] at place
    · cases b with
      | nil => exact absurd (by rw [← List.nil_append rest, ← later]; rfl) first
      | cons d b =>
        rw [List.cons_append] at later
        obtain ⟨rfl, rfl⟩ := List.cons.inj later
        obtain ⟨front, back⟩ := takeWhile_inside (here ▸ all) ends
        rw [front, back]
        exact own u b here

theorem isWordPart_of_mem_lowerAmid (plain : 'İ' ∉ t) (all : ∀ c ∈ t, isWordPart c = true)
    (before after : Text) : ∀ d ∈ lowerAmid before t after, isWordPart d = true := by
  induction t generalizing before with
  | nil => exact List.forall_mem_nil _
  | cons c t ih =>
    obtain ⟨other, others⟩ := not_or.mp (mt List.mem_cons.mpr plain)
    obtain ⟨first, rest⟩ := List.forall_mem_cons.mp all
    refine List.forall_mem_append.mpr ⟨fun d member => ?_, ih others rest _⟩
    exact (isWordPart_of_mem_lowerBetween (Ne.symm other) member).trans first

theorem head?_lowerFrom (ends : ∀ c ∈ t.head?, isWordPart c = false) (before : Text) :
    ∀ c ∈ (lowerFrom before t).head?, isWordPart c = false := by
  intro d first
  cases t with
  | nil => cases first
  | cons c t =>
    have fails := ends c rfl
    have plain : c ≠ 'İ' := by
      rintro rfl
      exact absurd fails (by decide +kernel)
    rw [lowerFrom, List.head?_append_of_ne_nil _ (lowerBetween_ne_nil _ _ _)] at first
    exact (isWordPart_of_mem_lowerBetween plain (List.mem_of_mem_head? first)).trans fails

theorem runs_lowerFrom_run {run rest : Text} (nonempty : run ≠ []) (plain : 'İ' ∉ run)
    (all : ∀ c ∈ run, isWordPart c = true) (ends : ∀ c ∈ rest.head?, isWordPart c = false) :
    runs isWordPart (lowerFrom before (run ++ rest)) =
      lowerAmid before run rest :: runs isWordPart (lowerFrom (run.reverse ++ before) rest) := by
  rw [lowerFrom_append, runs_cons_run (mt lowerAmid_eq_nil.mp nonempty)
    (isWordPart_of_mem_lowerAmid plain all before rest) (head?_lowerFrom ends _)]

theorem bare_runs_eq_iff (plain : 'İ' ∉ t) (before : Text) :
    bare ((runs isWordPart t).map lower) = bare (runs isWordPart (lowerFrom before t)) ↔
      KeepsRunSigmas before t := by
  induction t using runs_induction (p := isWordPart) generalizing before with
  | nil => exact iff_of_true rfl (by rintro u v split; cases u <;> cases split)
  | skip c rest fails ih =>
    obtain ⟨other, others⟩ := not_or.mp (mt List.mem_cons.mpr plain)
    have outside : ∀ d ∈ lowerBetween before c rest, isWordPart d = false := fun d member =>
      (isWordPart_of_mem_lowerBetween (Ne.symm other) member).trans fails
    rw [runs_cons_of_neg fails, lowerFrom, runs_append_of_none outside, ih others,
      keepsRunSigmas_skip fails]
  | take c rest holds ih =>
    have all : ∀ d ∈ c :: rest.takeWhile isWordPart, isWordPart d = true :=
      List.forall_mem_cons.mpr ⟨holds, fun d => List.mem_takeWhile_imp⟩
    have ends : ∀ d ∈ (rest.dropWhile isWordPart).head?, isWordPart d = false :=
      fun d => head?_dropWhile
    have split : c :: rest = (c :: rest.takeWhile isWordPart) ++ rest.dropWhile isWordPart := by
      rw [List.cons_append, List.takeWhile_append_dropWhile]
    rw [split, List.mem_append, not_or] at plain
    have alike : (lower (c :: rest.takeWhile isWordPart)).map unshape =
        (lowerAmid before (c :: rest.takeWhile isWordPart)
          (rest.dropWhile isWordPart)).map unshape := by
      rw [lower_eq_lowerAmid]
      exact unshape_lowerAmid _ _ _ _ _
    rw [runs_cons_of_pos holds, split,
      runs_lowerFrom_run (List.cons_ne_nil _ _) plain.1 all ends, List.map_cons,
      bare_cons_eq_iff alike, ih plain.2, keepsRunSigmas_take all ends, eq_comm]

theorem dot_mem_lower (dotted : 'İ' ∈ t) : '\u0307' ∈ lower t := by
  obtain ⟨u, v, rfl⟩ := List.append_of_mem dotted
  have whole := lower_append u ['İ'] v
  rw [List.singleton_append] at whole
  rw [whole]
  exact List.mem_append_right _ (List.mem_append_left _ (.tail _ (.head _)))

theorem words_ne_of_dotted (dotted : 'İ' ∈ t) : words t ≠ words (lower t) := by
  intro same
  obtain ⟨run, known, inside⟩ := exists_mem_runs (p := isWordPart) dotted (by decide +kernel)
  have dot : '\u0307' ∈ trimBy isEdge (lower run) := mem_trimBy (dot_mem_lower inside) (by decide)
  have word : trimBy isEdge (lower run) ∈ words t := by
    rw [words_eq, List.mem_filter]
    refine ⟨List.mem_map_of_mem (List.mem_map_of_mem known), ?_⟩
    simpa using List.ne_nil_of_mem dot
  rw [same] at word
  have part := (isWord_of_mem (lowered_lower t) word).1.parts _ dot
  exact absurd part (by decide +kernel)

/-- A text and its normal form have the same words exactly if the text has no `İ` and each of its
capital sigmas ends a word in the text exactly if it does in its run of word characters alone. -/
theorem words_normalized_iff (t : Text) :
    words t = words (trim (lower t)) ↔ 'İ' ∉ t ∧ ∀ u v, t = u ++ 'Σ' :: v →
      endsWord u.reverse v =
        endsWord (u.reverse.takeWhile isWordPart) (v.takeWhile isWordPart) := by
  have sigmas : KeepsRunSigmas [] t ↔ ∀ u v, t = u ++ 'Σ' :: v →
      endsWord u.reverse v =
        endsWord (u.reverse.takeWhile isWordPart) (v.takeWhile isWordPart) := by
    simp only [KeepsRunSigmas, List.append_nil]
  rw [words_trim, ← sigmas]
  by_cases dotted : 'İ' ∈ t
  · exact iff_of_false (words_ne_of_dotted dotted) fun keeps => keeps.1 dotted
  · rw [words_lower, words_eq_bare]
    exact (bare_runs_eq_iff dotted []).trans (and_iff_right dotted).symm

theorem words_change_in_normal_form :
    words "İx".toList ≠ words (trim (lower "İx".toList)) ∧
      words "ΑΣ.Α".toList ≠ words (trim (lower "ΑΣ.Α".toList)) := by
  decide +kernel

end Text
end Concordance
