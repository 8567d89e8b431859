import Concordance.Proofs.LeftmostOccurrences
import Concordance.Search.Highlight
import Mathlib.Data.List.Chain
import Mathlib.Data.List.Forall2

/-! What is marked in a text. The first word is marked at its leftmost occurrences, in whatever
case, and each later one in the same way in every stretch that the words before it have left.
Nothing of the text is lost, and no occurrence of a word stays in what is left at the end. -/
namespace Concordance.Highlight
open Unicode

/-- Equality character by character, in disregard of case. -/
def Alike (s t : Text) : Prop := s.map foldCase = t.map foldCase

/-- Whether a word stands somewhere in a text, in whatever case. -/
def Holds (word t : Text) : Prop := ∃ part, part <:+: t ∧ Alike part word

def joined (pieces : List Segment) : Text := pieces.flatMap (·.text)

def markedPlaces (start : Nat) : List Segment → List Nat
  | [] => []
  | s :: rest =>
    (if s.marked then [start] else []) ++ markedPlaces (start + s.text.length) rest

structure MarksWord (word t : Text) (pieces : List Segment) : Prop where
  whole : joined pieces = t
  solid : ∀ s ∈ pieces, s.text ≠ []
  stretches : pieces.IsChain fun s next => s.marked = true ∨ next.marked = true
  alike : ∀ s ∈ pieces, s.marked = true → Alike s.text word
  clean : ∀ s ∈ pieces, s.marked = false → ¬Holds word s.text
  places : ∀ offsets, Text.Leftmost (word.map foldCase) (t.map foldCase) offsets ↔
    offsets = markedPlaces 0 pieces

/-- Whether segments are a text in which words are marked in turn, the later ones only in the
stretches that the first leaves unmarked. -/
def MarksInTurn : List Text → Text → List Segment → Prop
  | [], t, pieces => pieces = plain t
  | word :: later, t, pieces => ∃ first parts, MarksWord word t first ∧
      List.Forall₂ (fun s part => if s.marked then part = [s] else MarksInTurn later s.text part)
        first parts ∧
      pieces = parts.flatten

section OneWord
variable {word t gap hit rest : Text} {s : Segment}

theorem Alike.length_eq {s t : Text} (alike : Alike s t) : s.length = t.length := by
  simpa using congrArg List.length alike

theorem Alike.ne_nil (alike : Alike t word) (nonempty : word ≠ []) : t ≠ [] := by
  rintro rfl
  exact nonempty (List.length_eq_zero_iff.mp alike.length_eq.symm)

theorem holds_iff : Holds word t ↔ word.map foldCase <:+: t.map foldCase := by
  rw [List.infix_map_iff]
  exact exists_congr fun _ => and_congr_right fun _ => eq_comm

theorem not_holds_of_within {part : Text} (within : part <:+: t) (absent : ¬Holds word t) :
    ¬Holds word part :=
  fun ⟨found, inside, alike⟩ => absent ⟨found, inside.trans within, alike⟩

theorem joined_cons (s : Segment) (pieces : List Segment) :
    joined (s :: pieces) = s.text ++ joined pieces :=
  List.flatMap_cons

theorem joined_append (pieces others : List Segment) :
    joined (pieces ++ others) = joined pieces ++ joined others :=
  List.flatMap_append

theorem joined_plain (t : Text) : joined (plain t) = t := by
  cases t <;> simp [plain, joined]

theorem mem_plain : s ∈ plain t ↔ t ≠ [] ∧ s = ⟨t, false⟩ := by
  cases t <;> simp [plain]

theorem markedPlaces_plain (start : Nat) (t : Text) (pieces : List Segment) :
    markedPlaces start (plain t ++ pieces) = markedPlaces (start + t.length) pieces := by
  cases t <;> simp [plain, markedPlaces]

theorem markedPlaces_shift (front start : Nat) (pieces : List Segment) :
    markedPlaces (front + start) pieces = (markedPlaces start pieces).map (front + ·) := by
  induction pieces generalizing start with
  | nil => rfl
  | cons s pieces ih =>
    rw [markedPlaces, markedPlaces, Nat.add_assoc, ih, List.map_append]
    split <;> rfl

theorem cut_shift (length front cursor : Nat) (offsets : List Nat) (t : Text) :
    cut length (front + cursor) (offsets.map (front + ·)) t = cut length cursor offsets t := by
  induction offsets generalizing cursor t with
  | nil => rfl
  | cons offset offsets ih =>
    rw [List.map_cons, cut, cut, Nat.add_sub_add_left, Nat.add_assoc, ih]

theorem mark_first (alike : Alike hit word)
    (found : occurrences word (gap ++ (hit ++ rest)) =
      gap.length :: (occurrences word rest).map (gap.length + word.length + ·)) :
    mark word ⟨gap ++ (hit ++ rest), false⟩ =
      plain gap ++ ⟨hit, true⟩ :: mark word ⟨rest, false⟩ := by
  have length := alike.length_eq
  have shifted := cut_shift word.length (gap.length + word.length) 0 (occurrences word rest) rest
  rw [Nat.add_zero] at shifted
  simp only [mark, Bool.false_eq_true, if_false, found, cut, Nat.sub_zero]
  rw [List.take_left, List.drop_left, ← length, List.take_left, ← List.append_assoc,
    ← List.length_append, List.drop_left, List.length_append, length, shifted]

theorem mark_induction {motive : Text → Prop} (nonempty : word ≠ [])
    (absent : ∀ t, ¬Holds word t → occurrences word t = [] →
      mark word ⟨t, false⟩ = plain t → motive t)
    (first : ∀ gap hit rest, ¬Holds word gap → Alike hit word →
      occurrences word (gap ++ (hit ++ rest)) =
        gap.length :: (occurrences word rest).map (gap.length + word.length + ·) →
      mark word ⟨gap ++ (hit ++ rest), false⟩ =
        plain gap ++ ⟨hit, true⟩ :: mark word ⟨rest, false⟩ →
      motive rest → motive (gap ++ (hit ++ rest))) (t : Text) : motive t := by
  have folded : word.map foldCase ≠ [] := by simpa using nonempty
  generalize same : t.map foldCase = u
  induction u using Text.scan_induction folded generalizing t with
  | absent u missing =>
    subst same
    have none : occurrences word t = [] := (Text.occurrencesFrom_eq_nil folded 0 _).mpr missing
    refine absent t ?_ none ?_
    · rw [holds_iff, ← Text.occursIn_iff_within, missing]
      decide
    · simp [mark, none, cut]
  | first gap rest before ih =>
    obtain ⟨gap, behind, rfl, rfl, agree⟩ := List.map_eq_append_iff.mp same
    obtain ⟨hit, rest, rfl, alike, rfl⟩ := List.map_eq_append_iff.mp agree
    have found : occurrences word (gap ++ (hit ++ rest)) =
        gap.length :: (occurrences word rest).map (gap.length + word.length + ·) := by
      rw [occurrences, same, Text.occurrences_first folded before, List.length_map,
        List.length_map]
      rfl
    refine first gap hit rest ?_ alike found (mark_first alike found) (ih rest rfl)
    rw [holds_iff]
    exact Text.not_within_gap folded before

theorem joined_mark (nonempty : word ≠ []) (t : Text) : joined (mark word ⟨t, false⟩) = t := by
  induction t using mark_induction nonempty with
  | absent t _ _ marked => rw [marked, joined_plain]
  | first gap hit rest _ _ _ marked ih =>
    rw [marked, joined_append, joined_plain, joined_cons, ih]

theorem markedPlaces_mark (nonempty : word ≠ []) (t : Text) :
    markedPlaces 0 (mark word ⟨t, false⟩) = occurrences word t := by
  induction t using mark_induction nonempty with
  | absent t _ none marked =>
    have places := markedPlaces_plain 0 t []
    rw [List.append_nil] at places
    rw [marked, none, places, markedPlaces]
  | first gap hit rest _ alike found marked ih =>
    have further := markedPlaces_shift (gap.length + word.length) 0 (mark word ⟨rest, false⟩)
    rw [marked, markedPlaces_plain, found, markedPlaces, if_pos rfl, alike.length_eq,
      Nat.zero_add, List.singleton_append, ← ih, ← further, Nat.add_zero]

theorem isChain_mark (nonempty : word ≠ []) (t : Text) :
    (mark word ⟨t, false⟩).IsChain fun s next => s.marked = true ∨ next.marked = true := by
  induction t using mark_induction nonempty with
  | absent t _ _ marked =>
    rw [marked]
    cases t <;> simp [plain]
  | first gap hit rest _ _ _ marked ih =>
    have behind : (⟨hit, true⟩ :: mark word ⟨rest, false⟩ : List Segment).IsChain
        fun s next => s.marked = true ∨ next.marked = true :=
      List.isChain_cons.mpr ⟨fun _ _ => .inl rfl, ih⟩
    rw [marked]
    cases gap with
    | nil => exact behind
    | cons c gap => exact List.isChain_cons_cons.mpr ⟨.inr rfl, behind⟩

theorem of_mem_mark (nonempty : word ≠ []) (member : s ∈ mark word ⟨t, false⟩) :
    s.text ≠ [] ∧ (s.marked = true → Alike s.text word) ∧
      (s.marked = false → ¬Holds word s.text) := by
  induction t using mark_induction nonempty with
  | absent t missing _ marked =>
    rw [marked, mem_plain] at member
    obtain ⟨some, rfl⟩ := member
    exact ⟨some, nofun, fun _ => missing⟩
  | first gap hit rest missing alike _ marked ih =>
    rw [marked, List.mem_append, List.mem_cons, mem_plain] at member
    rcases member with ⟨some, rfl⟩ | rfl | later
    · exact ⟨some, nofun, fun _ => missing⟩
    · exact ⟨alike.ne_nil nonempty, fun _ => alike, nofun⟩
    · exact ih later

theorem marksWord_mark (nonempty : word ≠ []) (t : Text) :
    MarksWord word t (mark word ⟨t, false⟩) where
  whole := joined_mark nonempty t
  solid := fun _ member => (of_mem_mark nonempty member).1
  stretches := isChain_mark nonempty t
  alike := fun _ member => (of_mem_mark nonempty member).2.1
  clean := fun _ member => (of_mem_mark nonempty member).2.2
  places := fun offsets => by
    have folded : word.map foldCase ≠ [] := by simpa using nonempty
    rw [Text.leftmost_iff folded, markedPlaces_mark nonempty, occurrences]

end OneWord

section Words
variable {word t : Text} {later words : List Text} {s : Segment}
  {pieces first : List Segment} {parts : List (List Segment)}

def markAll (words : List Text) (pieces : List Segment) : List Segment :=
  words.foldl (fun pieces word => pieces.flatMap (mark word)) pieces

theorem markAll_cons (word : Text) (later : List Text) (pieces : List Segment) :
    markAll (word :: later) pieces = markAll later (pieces.flatMap (mark word)) := rfl

theorem markAll_eq_flatMap (words : List Text) (pieces : List Segment) :
    markAll words pieces = pieces.flatMap fun s => markAll words [s] := by
  induction words generalizing pieces with
  | nil => exact (List.flatMap_singleton' pieces).symm
  | cons word later ih =>
    rw [markAll_cons, ih, List.flatMap_assoc]
    apply List.flatMap_congr
    intro s _
    rw [markAll_cons, List.flatMap_singleton, ← ih]

theorem markAll_marked (marked : s.marked = true) (words : List Text) :
    markAll words [s] = [s] := by
  induction words with
  | nil => rfl
  | cons word later ih =>
    rw [markAll_cons, List.flatMap_singleton, mark, if_pos marked, ih]

theorem plain_of_unmarked (solid : s.text ≠ []) (unmarked : s.marked = false) :
    plain s.text = [s] := by
  obtain ⟨text, marked⟩ := s
  cases unmarked
  simpa [plain] using solid

theorem mark_plain (word t : Text) : (plain t).flatMap (mark word) = mark word ⟨t, false⟩ := by
  cases t with
  | nil => rfl
  | cons c t => simp [plain]

theorem marksInTurn_markAll (nonempty : ∀ word ∈ words, word ≠ []) (t : Text) :
    MarksInTurn words t (markAll words (plain t)) := by
  induction words generalizing t with
  | nil => rfl
  | cons word later ih =>
    obtain ⟨some, others⟩ := List.forall_mem_cons.mp nonempty
    have marks := marksWord_mark some t
    refine ⟨mark word ⟨t, false⟩, (mark word ⟨t, false⟩).map fun s => markAll later [s], marks,
      ?_, ?_⟩
    · rw [List.forall₂_map_right_iff, List.forall₂_same]
      intro s member
      split
      next marked => exact markAll_marked marked later
      next unmarked =>
        rw [← plain_of_unmarked (marks.solid s member) (by simpa using unmarked)]
        exact ih others s.text
    · rw [markAll_cons, mark_plain, markAll_eq_flatMap, List.flatMap_def]

theorem exists_of_mem_right {α β : Type} {R : α → β → Prop} {items : List α} {results : List β}
    {result : β} (each : List.Forall₂ R items results) (member : result ∈ results) :
    ∃ item ∈ items, R item result := by
  induction each with
  | nil => cases member
  | cons here _ ih =>
    rcases List.mem_cons.mp member with rfl | later
    · exact ⟨_, List.mem_cons_self, here⟩
    · obtain ⟨item, known, related⟩ := ih later
      exact ⟨item, List.mem_cons_of_mem _ known, related⟩

theorem joined_flatten (same : List.Forall₂ (fun s part => joined part = s.text) first parts) :
    joined parts.flatten = joined first := by
  induction same with
  | nil => rfl
  | cons here _ ih => rw [List.flatten_cons, joined_append, here, ih, joined_cons]

namespace MarksInTurn

theorem whole (marks : MarksInTurn words t pieces) : joined pieces = t := by
  induction words generalizing t pieces with
  | nil =>
    obtain rfl : pieces = plain t := marks
    exact joined_plain t
  | cons word later ih =>
    obtain ⟨first, parts, marksWord, each, rfl⟩ := marks
    rw [← marksWord.whole]
    refine joined_flatten (each.imp fun s part related => ?_)
    split at related
    next =>
      rw [related, joined_cons]
      exact List.append_nil _
    next => exact ih related

theorem mem_cases (marks : MarksInTurn (word :: later) t pieces) (member : s ∈ pieces) :
    (s.marked = true ∧ Alike s.text word) ∨
      ∃ rest part, ¬Holds word rest ∧ MarksInTurn later rest part ∧ s ∈ part := by
  obtain ⟨first, parts, marksWord, each, rfl⟩ := marks
  obtain ⟨part, known, inside⟩ := List.mem_flatten.mp member
  obtain ⟨stretch, origin, related⟩ := exists_of_mem_right each known
  split at related
  next marked =>
    rw [related, List.mem_singleton] at inside
    rw [inside]
    exact .inl ⟨marked, marksWord.alike stretch origin marked⟩
  next unmarked =>
    have clean := marksWord.clean stretch origin (by simpa using unmarked)
    exact .inr ⟨stretch.text, part, clean, related, inside⟩

theorem alike (marks : MarksInTurn words t pieces) (member : s ∈ pieces)
    (marked : s.marked = true) : ∃ word ∈ words, Alike s.text word := by
  induction words generalizing t pieces with
  | nil =>
    obtain rfl : pieces = plain t := marks
    obtain ⟨_, rfl⟩ := mem_plain.mp member
    cases marked
  | cons word later ih =>
    rcases marks.mem_cases member with ⟨_, alike⟩ | ⟨rest, part, _, further, inside⟩
    · exact ⟨word, List.mem_cons_self, alike⟩
    · obtain ⟨other, known, alike⟩ := ih further inside
      exact ⟨other, List.mem_cons_of_mem _ known, alike⟩

theorem text_within (marks : MarksInTurn words t pieces) (member : s ∈ pieces) :
    s.text <:+: t := by
  rw [← marks.whole, joined, List.flatMap_def]
  exact List.infix_of_mem_flatten (List.mem_map_of_mem member)

theorem clean (marks : MarksInTurn words t pieces) (member : s ∈ pieces)
    (unmarked : s.marked = false) : ∀ word ∈ words, ¬Holds word s.text := by
  induction words generalizing t pieces with
  | nil => exact List.forall_mem_nil _
  | cons word later ih =>
    rcases marks.mem_cases member with ⟨marked, _⟩ | ⟨rest, part, absent, further, inside⟩
    · cases marked.symm.trans unmarked
    · refine List.forall_mem_cons.mpr ⟨?_, ih further inside⟩
      exact not_holds_of_within (further.text_within inside) absent

end MarksInTurn

/-- What is written of segments: the marked ones between markers, the others as they are. -/
theorem render_eq (cssClass : Text) (pieces : List Segment) :
    render cssClass pieces = pieces.flatMap fun s =>
      if s.marked then
        "<mark class=\"".toList ++ cssClass ++ "\">".toList ++ s.text ++ "</mark>".toList
      else s.text := rfl

/-- A text with words marked is written from segments, the marked ones between markers that name the
class and the others as they are; joined without markers they give the text. Each marked segment is
one of the words in some case, no word is left in an unmarked one, and the words have been marked
in turn: the first at its leftmost occurrences, the later ones in what it leaves. -/
theorem apply_marks_in_turn (cssClass t : Text) (words : List Text) :
    ∃ pieces, (apply cssClass t words = pieces.flatMap fun s =>
        if s.marked then
          "<mark class=\"".toList ++ cssClass ++ "\">".toList ++ s.text ++ "</mark>".toList
        else s.text) ∧
      joined pieces = t ∧
      (∀ s ∈ pieces, s.marked = true → s.text ≠ [] ∧ ∃ word ∈ words, Alike s.text word) ∧
      (∀ s ∈ pieces, s.marked = false → ∀ word ∈ words, word ≠ [] → ¬Holds word s.text) ∧
      MarksInTurn (words.filter (!·.isEmpty)) t pieces := by
  have nonempty : ∀ word ∈ words.filter (!·.isEmpty), word ≠ [] := by
    intro word member
    simpa using (List.mem_filter.mp member).2
  have marks := marksInTurn_markAll nonempty t
  refine ⟨segments t words, render_eq cssClass _, marks.whole, ?_, ?_, marks⟩
  · intro s member marked
    obtain ⟨word, known, alike⟩ := marks.alike member marked
    exact ⟨alike.ne_nil (nonempty word known), word, (List.mem_filter.mp known).1, alike⟩
  · intro s member unmarked word known some
    exact marks.clean member unmarked word (List.mem_filter.mpr ⟨known, by simpa using some⟩)

example : apply "hit".toList "Foxes, a fox".toList ["FOX".toList, "".toList, "s, a".toList] =
    ("<mark class=\"hit\">Fox</mark>e<mark class=\"hit\">s, a</mark> " ++
      "<mark class=\"hit\">fox</mark>").toList := by
  decide

end Words
end Concordance.Highlight
