import Concordance.Analysis.Occurrence
import Concordance.Proofs.LeftmostOccurrences
import Concordance.Proofs.QueryWords

/-! Whole words, as they are counted and as they are searched for. Both look for places where a word
stands with no word character on either side. Counting goes from one occurrence to the next behind
it, so it passes over places inside of an occurrence; searching tries every place. The two disagree
about a word only if it begins again inside of itself, behind one of its apostrophes or hyphens. -/
namespace Concordance

theorem Placement.of_eq_whole {t : Text} {offset length : Nat} : of t offset length = whole ↔
    opensAt t offset = true ∧ closesAt t (offset + length) = true := by
  unfold of
  cases opensAt t offset <;> cases closesAt t (offset + length) <;> decide

namespace WordHits

def tally (word t : Text) (offsets : List Nat) : WordHits :=
  let placements := offsets.map fun i => Placement.of t i word.length
  { whole := placements.count .whole, leading := placements.count .leading,
    inner := placements.count .inner, first := offsets.head? }

theorem of_eq_tally {word : Text} (nonempty : word ≠ []) (t : Text) :
    of word t = tally word t (Text.occurrences word t) := by
  have filled : word.isEmpty = false := by simpa using nonempty
  simp only [of, filled, Bool.false_eq_true, if_false, tally]

end WordHits

namespace Text
variable {p : Char → Bool} {w t u v back front : Text} {before : Option Char} {c : Char} {i j : Nat}

def StandsApart (p : Char → Bool) (w t : Text) : Prop :=
  ∃ u v, t = u ++ (w ++ v) ∧ (∀ c ∈ u.getLast?, p c = false) ∧ ∀ c ∈ v.head?, p c = false

theorem getLast?_cons_or (c : Char) (u : Text) (before : Option Char) :
    (c :: u).getLast?.or before = u.getLast?.or (some c) := by
  rw [List.getLast?_cons]
  cases u.getLast? <;> rfl

theorem opensWithWord_iff : opensWithWord w before t = true ↔
    (∀ c ∈ before, Unicode.isWordChar c = false) ∧
      ∃ v, t = w ++ v ∧ ∀ c ∈ v.head?, Unicode.isWordChar c = false := by
  simp only [opensWithWord, Bool.and_eq_true, Bool.not_eq_true', any_eq_false, and_assoc]
  refine and_congr_right fun _ => ?_
  constructor
  · rintro ⟨begins, ends⟩
    obtain ⟨v, rfl⟩ := List.isPrefixOf_iff_prefix.mp begins
    rw [List.drop_left] at ends
    exact ⟨v, rfl, ends⟩
  · rintro ⟨v, rfl, ends⟩
    rw [List.drop_left]
    exact ⟨List.isPrefixOf_iff_prefix.mpr (List.prefix_append w v), ends⟩

-- over every text, with any character before it: the recursion goes on behind the first character
theorem hasWholeWordFrom_iff : hasWholeWordFrom w before t = true ↔
    ∃ u v, t = u ++ (w ++ v) ∧ (∀ c ∈ u.getLast?.or before, Unicode.isWordChar c = false) ∧
      ∀ c ∈ v.head?, Unicode.isWordChar c = false := by
  induction t generalizing before with
  | nil =>
    rw [hasWholeWordFrom, opensWithWord_iff]
    constructor
    · rintro ⟨opens, v, same, ends⟩
      exact ⟨[], v, same, opens, ends⟩
    · rintro ⟨u, v, same, opens, ends⟩
      obtain ⟨rfl, rest⟩ := List.append_eq_nil_iff.mp same.symm
      exact ⟨opens, v, rest.symm, ends⟩
  | cons c t ih =>
    rw [hasWholeWordFrom, Bool.or_eq_true, opensWithWord_iff, ih]
    constructor
    · rintro (⟨opens, v, same, ends⟩ | ⟨u, v, rfl, opens, ends⟩)
      · exact ⟨[], v, same, opens, ends⟩
      · exact ⟨c :: u, v, rfl, (getLast?_cons_or c u before).symm ▸ opens, ends⟩
    · rintro ⟨u, v, same, opens, ends⟩
      cases u with
      | nil => exact .inl ⟨opens, v, same, ends⟩
      | cons d u =>
        obtain ⟨rfl, rfl⟩ := List.cons.inj same
        exact .inr ⟨u, v, rfl, getLast?_cons_or c u before ▸ opens, ends⟩

theorem hasWholeWord_iff : hasWholeWord w t = true ↔ StandsApart Unicode.isWordChar w t := by
  simp only [hasWholeWord, hasWholeWordFrom_iff, Option.or_none, StandsApart]

section Places

def WholeAt (w t : Text) (i : Nat) : Prop :=
  StandsAt w t i ∧ Placement.of t i w.length = .whole

theorem standsAt_iff (nonempty : w ≠ []) :
    StandsAt w t i ↔ ∃ u v, t = u ++ (w ++ v) ∧ u.length = i := by
  constructor
  · rintro ⟨v, same⟩
    have inside : i < t.length := by
      by_contra beyond
      rw [List.drop_of_length_le (Nat.le_of_not_lt beyond)] at same
      exact nonempty (List.append_eq_nil_iff.mp same).1
    refine ⟨t.take i, v, ?_, List.length_take_of_le (Nat.le_of_lt inside)⟩
    rw [same, List.take_append_drop]
  · rintro ⟨u, v, rfl, rfl⟩
    rw [StandsAt, List.drop_left]
    exact List.prefix_append w v

theorem opensAt_iff : Placement.opensAt (u ++ v) u.length = true ↔
    ∀ c ∈ u.getLast?, Unicode.isWordChar c = false := by
  rw [← any_eq_false, List.getLast?_eq_getElem?]
  cases u with
  | nil => simp [Placement.opensAt]
  | cons c u =>
    change (!((c :: u) ++ v)[u.length]?.any Unicode.isWordChar) = true ↔
      (c :: u)[u.length]?.any Unicode.isWordChar = false
    rw [List.getElem?_append_left (by simp), Bool.not_eq_true']

theorem closesAt_iff : Placement.closesAt (u ++ (w ++ v)) (u.length + w.length) = true ↔
    ∀ c ∈ v.head?, Unicode.isWordChar c = false := by
  rw [← any_eq_false, List.head?_eq_getElem?, Placement.closesAt, Bool.not_eq_true',
    ← List.append_assoc, ← List.length_append, List.getElem?_append_right (Nat.le_refl _),
    Nat.sub_self]

theorem placement_whole_iff : Placement.of (u ++ (w ++ v)) u.length w.length = .whole ↔
    (∀ c ∈ u.getLast?, Unicode.isWordChar c = false) ∧
      ∀ c ∈ v.head?, Unicode.isWordChar c = false := by
  rw [Placement.of_eq_whole, opensAt_iff, closesAt_iff]

theorem hasWholeWord_iff_wholeAt (nonempty : w ≠ []) :
    hasWholeWord w t = true ↔ ∃ i, WholeAt w t i := by
  rw [hasWholeWord_iff]
  constructor
  · rintro ⟨u, v, rfl, apart⟩
    exact ⟨u.length, (standsAt_iff nonempty).mpr ⟨u, v, rfl, rfl⟩, placement_whole_iff.mpr apart⟩
  · rintro ⟨i, stands, whole⟩
    obtain ⟨u, v, rfl, rfl⟩ := (standsAt_iff nonempty).mp stands
    exact ⟨u, v, rfl, placement_whole_iff.mp whole⟩

theorem whole_pos_iff (nonempty : w ≠ []) :
    0 < (WordHits.of w t).whole ↔ ∃ i ∈ occurrences w t, WholeAt w t i := by
  have stand := (leftmost_occurrences nonempty t).stand
  simp only [WordHits.of_eq_tally nonempty, WordHits.tally, List.count_pos_iff, List.mem_map]
  exact exists_congr fun i => and_congr_right fun member => (and_iff_right (stand i member)).symm

theorem mem_occurrences_iff (nonempty : w ≠ []) (stands : StandsAt w t i) :
    i ∈ occurrences w t ↔ ∀ j ∈ occurrences w t, ¬(j < i ∧ i < j + w.length) := by
  have leftmost := leftmost_occurrences nonempty t
  constructor
  · rintro member j other ⟨less, inside⟩
    have := leftmost.separate other member less
    omega
  · intro free
    obtain ⟨j, member, before, inside⟩ := leftmost.reach i stands
    have := free j member
    obtain rfl : j = i := by omega
    exact member

end Places

section Overlaps

/-- Whether a word begins again inside of itself, behind one of its apostrophes or hyphens. -/
def BeginsAgain (w : Text) : Prop :=
  ∃ x y z, w = x ++ y ∧ w = y ++ z ∧ y ≠ [] ∧ ∃ c ∈ x.getLast?, isEdge c = true

theorem isEdge_of_part (part : isWordPart c = true) (boundary : Unicode.isWordChar c = false) :
    isEdge c = true := by
  obtain ⟨letter, _⟩ : Unicode.isAlphanumeric c = false ∧ (c == '_') = false := by
    simpa [Unicode.isWordChar] using boundary
  simpa [isWordPart, letter, isEdge] using part

theorem not_isWordChar_of_isEdge (edge : isEdge c = true) : Unicode.isWordChar c = false := by
  have either : c = '\'' ∨ c = '-' := by simpa [isEdge] using edge
  rcases either with rfl | rfl <;> decide

/-- A word that stands inside of one of its own occurrences, with no word character before it,
begins again in itself. -/
theorem beginsAgain_of_overlap (parts : ∀ c ∈ w, isWordPart c = true)
    (same : u ++ (w ++ v) = front ++ (w ++ back)) (less : u.length < front.length)
    (inside : front.length < u.length + w.length)
    (opens : ∀ c ∈ front.getLast?, Unicode.isWordChar c = false) : BeginsAgain w := by
  -- the first occurrence begins with x before the second one begins, and ends with the shared y
  obtain ⟨x, rfl, rest⟩ : ∃ x, front = u ++ x ∧ w ++ v = x ++ (w ++ back) := by
    rcases List.append_eq_append_iff.mp same with ⟨x, split, rest⟩ | ⟨x, rfl, _⟩
    · exact ⟨x, split, rest⟩
    · rw [List.length_append] at less
      omega
  rw [List.length_append] at less inside
  obtain ⟨y, rejoined, again⟩ : ∃ y, w = x ++ y ∧ w ++ back = y ++ v := by
    rcases List.append_eq_append_iff.mp rest with ⟨y, rfl, _⟩ | ⟨y, split, rest⟩
    · rw [List.length_append] at inside
      omega
    · exact ⟨y, split, rest⟩
  have lengths : w.length = x.length + y.length := by rw [rejoined, List.length_append]
  obtain ⟨z, recurs⟩ : y <+: w := by
    refine List.prefix_of_prefix_length_le ?_ (List.prefix_append w back) (by omega)
    rw [again]
    exact List.prefix_append y v
  have shifted : x ≠ [] := List.length_pos_iff.mp (by omega)
  refine ⟨x, y, z, rejoined, recurs.symm, List.length_pos_iff.mp (by omega), x.getLast shifted,
    List.getLast?_eq_some_getLast shifted, ?_⟩
  apply isEdge_of_part
  · apply parts
    rw [rejoined]
    exact List.mem_append_left y (List.getLast_mem shifted)
  · apply opens
    rw [List.getLast?_append_of_ne_nil u shifted]
    exact List.getLast?_eq_some_getLast shifted

theorem beginsAgain_of_uncounted (word : IsWord w) (whole : WholeAt w t i)
    (uncounted : i ∉ occurrences w t) : BeginsAgain w := by
  obtain ⟨stands, placement⟩ := whole
  obtain ⟨j, member, less, inside⟩ : ∃ j ∈ occurrences w t, j < i ∧ i < j + w.length := by
    by_contra free
    exact uncounted ((mem_occurrences_iff word.nonempty stands).mpr fun j member overlap =>
      free ⟨j, member, overlap⟩)
  have earlier := (leftmost_occurrences word.nonempty t).stand j member
  obtain ⟨u, v, rfl, rfl⟩ := (standsAt_iff word.nonempty).mp earlier
  obtain ⟨front, back, same, rfl⟩ := (standsAt_iff word.nonempty).mp stands
  rw [same] at placement
  exact beginsAgain_of_overlap word.parts same less inside (placement_whole_iff.mp placement).1

theorem occurrences_hidden {x y z : Text} (split : w = x ++ y) (again : w = y ++ z) (more : y ≠ [])
    (nonempty : w ≠ []) (other : w.head? ≠ some c) : occurrences w (c :: (x ++ w)) = [1] := by
  have rejoined : c :: (x ++ w) = [c] ++ (w ++ z) := by
    conv_lhs => rw [again, ← List.append_assoc, ← split]
    rfl
  have short : occurrences w z = [] := by
    apply (occurrencesFrom_eq_nil nonempty 0 z).mpr
    have positive := List.length_pos_iff.mpr more
    have lengths : w.length = y.length + z.length := by rw [again, List.length_append]
    cases occurs : occursIn w z with
    | false => rfl
    | true =>
      have := (occursIn_iff_within.mp occurs).length_le
      omega
  rw [rejoined, occurrences_first nonempty, short]
  · rfl
  · intro i less stands
    obtain rfl : i = 0 := by simpa using less
    obtain ⟨rest, same⟩ := stands
    obtain ⟨d, w, rfl⟩ := List.exists_cons_of_ne_nil nonempty
    exact other (congrArg some (List.cons.inj same).1)

theorem exists_uncounted (word : IsWord w) (again : BeginsAgain w) :
    ∃ t, trim (lower t) = t ∧ hasWholeWord w t = true ∧ (WordHits.of w t).whole = 0 := by
  obtain ⟨x, y, z, split, recurs, more, d, last, edge⟩ := again
  -- a letter in front of the first occurrence, with which the word does not begin
  obtain ⟨c, other, letter, settled⟩ : ∃ c, w.head? ≠ some c ∧
      isWordPart c = true ∧ Unicode.isWordChar c = true ∧ Settled c := by
    by_cases first : w.head? = some 'a'
    · exact ⟨'b', by simp [first], by decide +kernel⟩
    · exact ⟨'a', first, by decide +kernel⟩
  have part : ∀ c ∈ x ++ w, c ∈ w := by
    intro c member
    rcases List.mem_append.mp member with early | late
    · rw [split]
      exact List.mem_append_left y early
    · exact late
  refine ⟨c :: (x ++ w), trim_lower_of_trimmed ?_ ⟨?_, ?_⟩, hasWholeWord_iff.mpr ?_, ?_⟩
  · exact List.forall_mem_cons.mpr ⟨settled.2, fun c member => word.lowered c (part c member)⟩
  · rintro _ ⟨⟩
    exact not_isBlank_of_isWordPart letter
  · intro c final
    rw [← List.cons_append, List.getLast?_append_of_ne_nil _ word.nonempty] at final
    exact not_isBlank_of_isWordPart (word.parts c (List.mem_of_mem_getLast? final))
  · refine ⟨c :: x, [], by rw [List.append_nil, List.cons_append], ?_, nofun⟩
    intro b final
    rw [List.getLast?_cons, Option.mem_def.mp last] at final
    cases final
    exact not_isWordChar_of_isEdge edge
  · by_contra counted
    obtain ⟨i, member, _, whole⟩ := (whole_pos_iff word.nonempty).mp (Nat.pos_of_ne_zero counted)
    rw [occurrences_hidden split recurs more word.nonempty other] at member
    obtain rfl := List.mem_singleton.mp member
    have opens := (Placement.of_eq_whole.mp whole).1
    simp [Placement.opensAt, settled.1] at opens

/-- A word is counted as a whole word exactly if it stands as one somewhere outside of the
occurrences counted before. So what is counted is found by the search, and the two agree about a
word in all texts exactly if the word does not begin again inside of itself. -/
theorem whole_counted_iff_outside (own : words w = [w]) :
    (∀ t, hasWholeWord w t = true ↔ ∃ i, WholeAt w t i) ∧
    (∀ t, 0 < (WordHits.of w t).whole ↔ ∃ i, WholeAt w t i ∧
      ∀ j ∈ occurrences w t, ¬(j < i ∧ i < j + w.length)) ∧
    ((∀ u, 0 < (WordHits.of w (trim (lower u))).whole ↔
      hasWholeWord w (trim (lower u)) = true) ↔ ¬BeginsAgain w) := by
  have word := isWord_of_words_eq own
  refine ⟨fun t => hasWholeWord_iff_wholeAt word.nonempty, fun t => ?_, ?_⟩
  · rw [whole_pos_iff word.nonempty]
    refine exists_congr fun i => and_comm.trans (and_congr_right fun whole => ?_)
    exact mem_occurrences_iff word.nonempty whole.1
  · constructor
    · intro agree again
      obtain ⟨t, normal, found, uncounted⟩ := exists_uncounted word again
      have counted := (agree t).mpr (normal.symm ▸ found)
      rw [normal] at counted
      omega
    · intro free u
      rw [whole_pos_iff word.nonempty, hasWholeWord_iff_wholeAt word.nonempty]
      constructor
      · rintro ⟨i, _, whole⟩
        exact ⟨i, whole⟩
      · rintro ⟨i, whole⟩
        have counted : i ∈ occurrences w (trim (lower u)) := by
          by_contra uncounted
          exact free (beginsAgain_of_uncounted word whole uncounted)
        exact ⟨i, counted, whole⟩

theorem so_so_found_but_uncounted :
    words "so-so".toList = ["so-so".toList] ∧
    hasWholeWord "so-so".toList "also-so-so".toList = true ∧
    (∃ i, WholeAt "so-so".toList "also-so-so".toList i) ∧
    (¬∃ i, WholeAt "so-so".toList "also-so-so".toList i ∧
      ∀ j ∈ occurrences "so-so".toList "also-so-so".toList, ¬(j < i ∧ i < j + 5)) ∧
    BeginsAgain "so-so".toList ∧
    ¬∀ u, 0 < (WordHits.of "so-so".toList (trim (lower u))).whole ↔
      hasWholeWord "so-so".toList (trim (lower u)) = true := by
  have own : words "so-so".toList = ["so-so".toList] := by decide
  obtain ⟨search, count, agree⟩ := whole_counted_iff_outside own
  have found : hasWholeWord "so-so".toList "also-so-so".toList = true := by decide
  have uncounted : (WordHits.of "so-so".toList "also-so-so".toList).whole = 0 := by decide
  have again : BeginsAgain "so-so".toList :=
    ⟨"so-".toList, "so".toList, "-so".toList, by decide, by decide, by decide, '-', rfl, by decide⟩
  refine ⟨own, found, (search _).mp found, fun outside => ?_, again, fun always =>
    agree.mp always again⟩
  have := (count _).mpr outside
  omega

theorem whole_word_is_not_always_counted :
    ¬∀ w t : Text, words w = [w] → trim (lower t) = t →
      (0 < (WordHits.of w t).whole ↔ hasWholeWord w t = true) := by
  intro all
  have counted := (all "so-so".toList "also-so-so".toList (by decide)
    (by decide)).mpr (by decide)
  exact absurd counted (by decide)

end Overlaps

end Text
end Concordance
