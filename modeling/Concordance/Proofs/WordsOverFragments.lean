import Concordance.Proofs.Consistency
import Concordance.Proofs.ScoredPoints
import Concordance.Proofs.WholeWords

/-! Whole words against fragments of words. A word that a text holds only inside of other words
earns the credit of a fragment for each occurrence there, which is half of what a whole word earns.
A text that holds all words of a query as whole words scores above one that holds them only as
fragments, unless the fragments are many enough, or stand early enough, to make up for it. -/
namespace Concordance

namespace Text
variable {w t : Text} {words : List Text}

/-- Whether a word occurs in a text, but always with a word character in front of it. -/
structure StandsInside (w t : Text) : Prop where
  occurs : occursIn w t = true
  unopened : ∀ i, StandsAt w t i → Placement.opensAt t i = false

theorem standsInside_iff : StandsInside w t ↔ occursIn w t = true ∧
    ∀ i < t.length + 1, w.isPrefixOf (t.drop i) = true → Placement.opensAt t i = false := by
  constructor
  · rintro ⟨occurs, unopened⟩
    exact ⟨occurs, fun i _ stands => unopened i (List.isPrefixOf_iff_prefix.mp stands)⟩
  · rintro ⟨occurs, unopened⟩
    refine ⟨occurs, fun i stands => ?_⟩
    by_cases inside : i < t.length + 1
    · exact unopened i inside (List.isPrefixOf_iff_prefix.mpr stands)
    · rw [StandsAt, List.drop_of_length_le (by omega), List.prefix_nil] at stands
      subst stands
      exact absurd (unopened 0 (Nat.succ_pos _) rfl) Bool.noConfusion

instance (w t : Text) : Decidable (StandsInside w t) := decidable_of_iff _ standsInside_iff.symm

theorem StandsInside.nonempty (inside : StandsInside w t) : w ≠ [] := by
  rintro rfl
  cases inside.unopened 0 List.nil_prefix

theorem StandsInside.not_behind_blank (inside : StandsInside w t) {x y : Text} :
    t ≠ x ++ [' '] ++ (w ++ y) := by
  intro same
  have stands : StandsAt w t (x ++ [' ']).length :=
    (standsAt_iff inside.nonempty).mpr ⟨x ++ [' '], y, same, rfl⟩
  have opened : Placement.opensAt t (x ++ [' ']).length = true := by
    rw [same, opensAt_iff, List.getLast?_concat]
    rintro c ⟨⟩
    decide
  rw [inside.unopened _ stands] at opened
  cases opened

theorem not_occursIn_join (inside : ∀ w ∈ words, StandsInside w t) (several : 1 < words.length) :
    occursIn (join [' '] words) t = false := by
  obtain ⟨v, w, rest, rfl⟩ : ∃ v w rest, words = v :: w :: rest := by
    match words with
    | [] => cases several
    | [_] => exact absurd several (Nat.lt_irrefl 1)
    | v :: w :: rest => exact ⟨v, w, rest, rfl⟩
  rw [Bool.eq_false_iff]
  intro occurs
  obtain ⟨x, y, same⟩ := occursIn_iff_within.mp occurs
  rw [join_cons, List.flatMap_cons] at same
  refine (inside w (by simp)).not_behind_blank (x := x ++ v)
    (y := rest.flatMap ([' '] ++ ·) ++ y) ?_
  rw [← same]
  simp only [List.append_assoc]

end Text

namespace WordHits
variable {w t : Text}

theorem of_inside (inside : Text.StandsInside w t) :
    (of w t).whole = 0 ∧ (of w t).leading = 0 ∧ 0 < (of w t).inner := by
  have stand := (Text.leftmost_occurrences inside.nonempty t).stand
  have within : ∀ placement ∈ (Text.occurrences w t).map fun i => Placement.of t i w.length,
      placement = .inner := by
    intro placement member
    obtain ⟨i, among, rfl⟩ := List.mem_map.mp member
    rw [Placement.of, inside.unopened i (stand i among), if_neg Bool.false_ne_true]
  have found := count_pos_of_found (found_of_occurs inside.nonempty inside.occurs)
  have none (other : Placement) (apart : other ≠ .inner) :
      ((Text.occurrences w t).map fun i => Placement.of t i w.length).count other = 0 :=
    List.count_eq_zero.mpr fun member => apart (within other member)
  have whole : (of w t).whole = 0 := by
    rw [of_eq_tally inside.nonempty]
    exact none .whole (by decide)
  have leading : (of w t).leading = 0 := by
    rw [of_eq_tally inside.nonempty]
    exact none .leading (by decide)
  rw [count, whole, leading] at found
  exact ⟨whole, leading, by omega⟩

end WordHits

namespace Scoring
variable {t u : Text} {words : List Text} {values : List Value} {snapshot : Snapshot}
  {id a b : Nat}

def wholeCount (t : Text) (words : List Text) : Nat :=
  (words.map fun w => (WordHits.of w t).whole).sum

def innerCount (t : Text) (words : List Text) : Nat :=
  (words.map fun w => (WordHits.of w t).inner).sum

theorem wordCredit_standard (hits : WordHits) :
    wordCredit {} hits = hits.whole * 30 + hits.leading * 20 + hits.inner * 15 := rfl

theorem wholeCount_cons (t w : Text) (words : List Text) :
    wholeCount t (w :: words) = (WordHits.of w t).whole + wholeCount t words := rfl

theorem innerCount_cons (t w : Text) (words : List Text) :
    innerCount t (w :: words) = (WordHits.of w t).inner + innerCount t words := rfl

theorem wordPoints_inside (inside : ∀ w ∈ words, Text.StandsInside w t) :
    wordPoints {} t words = 15 * innerCount t words := by
  induction words with
  | nil => rfl
  | cons w words ih =>
    obtain ⟨first, rest⟩ := List.forall_mem_cons.mp inside
    obtain ⟨whole, leading, -⟩ := WordHits.of_inside first
    rw [wordPoints_cons, ih rest, innerCount_cons, wordCredit_standard, whole, leading]
    omega

theorem le_wordPoints (found : ∀ w ∈ words, (WordHits.of w t).found = true) :
    30 * wholeCount t words ≤ wordPoints {} t words ∧
      15 * wholeCount t words + 15 * words.length ≤ wordPoints {} t words := by
  induction words with
  | nil => exact ⟨Nat.le_refl 0, Nat.le_refl 0⟩
  | cons w words ih =>
    obtain ⟨first, rest⟩ := List.forall_mem_cons.mp found
    obtain ⟨twice, more⟩ := ih rest
    have some := WordHits.count_pos_of_found first
    rw [WordHits.count] at some
    rw [wordPoints_cons, wholeCount_cons, wordCredit_standard, List.length_cons]
    constructor <;> omega

def placePoints (s : Settings) (t : Text) (summary : Summary) (words : List Text) : Nat :=
  leadingPoints s summary words + positionPoints s t words

theorem placePoints_le (t : Text) (summary : Summary) (words : List Text) :
    placePoints {} t summary words ≤ 55 := by
  have leading : leadingPoints {} summary words ≤ 30 := by
    unfold leadingPoints
    split
    · exact Nat.le_refl 30
    · exact Nat.zero_le 30
  have position : positionPoints {} t words ≤ 25 := by
    unfold positionPoints positionBonus
    split
    · exact Nat.zero_le 25
    · exact Nat.sub_le _ _
  unfold placePoints
  omega

theorem phrasePoints_le (some : words ≠ []) (inside : ∀ w ∈ words, Text.StandsInside w u)
    (occur : ∀ w ∈ words, Text.occursIn w t = true) :
    phrasePoints {} u (Text.join [' '] words) ≤ phrasePoints {} t (Text.join [' '] words) ∧
      (1 < words.length → phrasePoints {} u (Text.join [' '] words) = 0) := by
  by_cases several : 1 < words.length
  · have absent := Text.not_occursIn_join inside several
    have none : phrasePoints {} u (Text.join [' '] words) = 0 := by
      rw [phrasePoints, absent, Bool.and_false, if_neg Bool.false_ne_true]
    exact ⟨none ▸ Nat.zero_le _, fun _ => none⟩
  · obtain ⟨w, rfl⟩ : ∃ w, words = [w] := List.length_eq_one_iff.mp (by
      have := List.length_pos_iff.mpr some
      omega)
    have query : Text.join [' '] [w] = w := by
      rw [Text.join_cons, List.flatMap_nil, List.append_nil]
    rw [query, phrasePoints, phrasePoints, (inside w List.mem_cons_self).occurs,
      occur w List.mem_cons_self]
    exact ⟨Nat.le_refl _, fun more => absurd more several⟩

theorem phrasePoints_le_fifty (t query : Text) : phrasePoints {} t query ≤ 50 := by
  unfold phrasePoints
  split
  · exact Nat.le_refl 50
  · exact Nat.zero_le 50

theorem settled_le (s : Settings) (summary : Summary) (points : Nat) :
    settled s summary points ≤ points := by
  unfold settled
  split <;> omega

theorem le_settled (s : Settings) (summary : Summary) (points : Nat) :
    (9 * points + 5) / 10 ≤ settled s summary points := by
  unfold settled
  split <;> omega

def standardPoints (id : Nat) (t : Text) (words : List Text) (query : Text) : Nat :=
  points {} t (Snapshot.summarize 5 id t) words.eraseDups query

def standardScore (id : Nat) (t : Text) (words : List Text) (query : Text) : Nat :=
  settled {} (Snapshot.summarize 5 id t) (standardPoints id t words query)

theorem scoreDocument_standard (query : Text) (built : Snapshot.build {} values = .ok snapshot)
    (indexed : Snapshot.IndexedAs {} values id t) (some : words ≠ [])
    (found : ∀ word ∈ words, (WordHits.of word t).found = true)
    (few : standardPoints id t words query ≤ 2 ^ 47) (variants : List (Text × List Text)) :
    scoreDocument Binary64 {} snapshot id words query variants =
      .ok ⟨id, standardScore id t words query, words.eraseDups.length⟩ := by
  obtain ⟨documents, ok, rfl⟩ := Snapshot.build_eq_ok.mp built
  obtain ⟨d, place⟩ := (Snapshot.indexedAs_iff ok).mp indexed
  have summary : (Snapshot.ofTexts {} documents).summaries[id]? =
      .some (Snapshot.summarize 5 id t) := by
    simp [Snapshot.ofTexts, place]
  have distinct : ∀ word ∈ words.eraseDups, (WordHits.of word t).found = true := fun word member =>
    found word (List.mem_eraseDups.mp member)
  have nonempty : words.eraseDups.isEmpty = false := by
    obtain ⟨w, member⟩ := List.exists_mem_of_ne_nil _ some
    exact List.isEmpty_eq_false_iff.mpr (List.ne_nil_of_mem (List.mem_eraseDups.mpr member))
  have penalty : ({} : Settings).longDocumentPenalty = .ofRatio 9 10 := by dsimp only
  have scored := scoreText_points (s := {}) distinct (by decide) penalty few variants
  unfold scoreDocument
  simp only [nonempty, Bool.false_eq_true, if_false]
  refine Outcome.bind_eq_ok.mpr ⟨t, Snapshot.normalizedText_ofTexts ok place, ?_⟩
  simp only [summary]
  exact Outcome.bind_eq_ok.mpr ⟨_, scored, rfl⟩

/-- The points of two texts side by side. Those for several words are the same, and those for the
query are not fewer where its words are whole, so it comes down to occurrences and places; and a
tenth of the points, which a long text loses, is less than what its whole words are ahead. -/
theorem standardScore_lt (some : words ≠ []) (occur : ∀ w ∈ words, Text.occursIn w t = true)
    (inside : ∀ w ∈ words, Text.StandsInside w u)
    (ahead : 15 * innerCount u words.eraseDups +
        placePoints {} u (Snapshot.summarize 5 b u) words.eraseDups ≤
      15 * wholeCount t words.eraseDups +
        placePoints {} t (Snapshot.summarize 5 a t) words.eraseDups) :
    standardScore b u words (Text.join [' '] words) <
      standardScore a t words (Text.join [' '] words) := by
  have hidden : ∀ w ∈ words.eraseDups, Text.StandsInside w u := fun w member =>
    inside w (List.mem_eraseDups.mp member)
  have found : ∀ w ∈ words.eraseDups, (WordHits.of w t).found = true := fun w member =>
    WordHits.found_of_occurs (hidden w member).nonempty (occur w (List.mem_eraseDups.mp member))
  have fragments := wordPoints_inside hidden
  obtain ⟨twice, more⟩ := le_wordPoints found
  obtain ⟨phrase, single⟩ := phrasePoints_le some inside occur
  have places := placePoints_le t (Snapshot.summarize 5 a t) words.eraseDups
  have least : 0 < words.eraseDups.length := by
    obtain ⟨w, member⟩ := List.exists_mem_of_ne_nil _ some
    exact List.length_pos_of_mem (List.mem_eraseDups.mpr member)
  have fewer : words.eraseDups.length ≤ words.length :=
    ((Text.nodup_eraseDups words).subperm fun _ => List.mem_eraseDups.mp).length_le
  refine (settled_le _ _ _).trans_lt (Nat.lt_of_lt_of_le ?_ (le_settled _ _ _))
  unfold standardPoints points
  unfold placePoints at ahead places
  by_cases several : 1 < words.eraseDups.length
  · have bonus : severalPoints {} words.eraseDups = words.eraseDups.length * 10 := if_pos several
    have none := single (several.trans_le fewer)
    omega
  · have bonus : severalPoints {} words.eraseDups = 0 := if_neg several
    have most := phrasePoints_le_fifty t (Text.join [' '] words)
    omega

/-- Of two documents of which one holds all words of a query as whole words and the other holds them
only inside of others, both score their points, and the first one more than the other, provided that
it would not fall behind by occurrences and places if its whole words were credited as fragments. -/
theorem whole_words_outrank_fragments (built : Snapshot.build {} values = .ok snapshot)
    (first : Snapshot.IndexedAs {} values a t) (second : Snapshot.IndexedAs {} values b u)
    (some : words ≠ []) (whole : ∀ w ∈ words, Text.hasWholeWord w t = true)
    (inside : ∀ w ∈ words, Text.StandsInside w u)
    (few : standardPoints a t words (Text.join [' '] words) ≤ 2 ^ 47)
    (fewer : standardPoints b u words (Text.join [' '] words) ≤ 2 ^ 47)
    (variants others : List (Text × List Text)) :
    scoreDocument Binary64 {} snapshot a words (Text.join [' '] words) variants =
        .ok ⟨a, standardScore a t words (Text.join [' '] words), words.eraseDups.length⟩ ∧
      scoreDocument Binary64 {} snapshot b words (Text.join [' '] words) others =
        .ok ⟨b, standardScore b u words (Text.join [' '] words), words.eraseDups.length⟩ ∧
      (15 * innerCount u words.eraseDups +
            placePoints {} u (Snapshot.summarize 5 b u) words.eraseDups ≤
          15 * wholeCount t words.eraseDups +
            placePoints {} t (Snapshot.summarize 5 a t) words.eraseDups →
        standardScore b u words (Text.join [' '] words) <
          standardScore a t words (Text.join [' '] words)) := by
  have occur : ∀ w ∈ words, Text.occursIn w t = true := by
    intro w member
    obtain ⟨x, y, same, -⟩ := Text.hasWholeWord_iff.mp (whole w member)
    exact Text.occursIn_iff_within.mpr ⟨x, y, by rw [same, List.append_assoc]⟩
  have found : ∀ w ∈ words, (WordHits.of w t).found = true := fun w member =>
    WordHits.found_of_occurs (inside w member).nonempty (occur w member)
  have hidden : ∀ w ∈ words, (WordHits.of w u).found = true := fun w member =>
    WordHits.found_of_occurs (inside w member).nonempty (inside w member).occurs
  exact ⟨scoreDocument_standard _ built first some found few variants,
    scoreDocument_standard _ built second some hidden fewer others,
    standardScore_lt some occur inside⟩

def recordOf (t : String) : Value := .map [("text".toList, .text t.toList)]

def catAndDog : List Value := [recordOf "cat dog", recordOf "concatenate hotdogs"]

theorem catAndDog_built : ∃ snapshot, Snapshot.build {} catAndDog = .ok snapshot :=
  ⟨_, Snapshot.build_eq_ok.mpr ⟨_, rfl, rfl⟩⟩

theorem cat_and_dog_outrank_fragments :
    ∃ snapshot, Snapshot.build {} catAndDog = .ok snapshot ∧
      scoreDocument Binary64 {} snapshot 0 ["cat".toList, "dog".toList] "cat dog".toList [] =
        .ok ⟨0, 185, 2⟩ ∧
      scoreDocument Binary64 {} snapshot 1 ["cat".toList, "dog".toList] "cat dog".toList [] =
        .ok ⟨1, 105, 2⟩ ∧
      standardScore 1 "concatenate hotdogs".toList ["cat".toList, "dog".toList] "cat dog".toList <
        standardScore 0 "cat dog".toList ["cat".toList, "dog".toList] "cat dog".toList := by
  obtain ⟨snapshot, built⟩ := catAndDog_built
  have some : ["cat".toList, "dog".toList] ≠ [] := List.cons_ne_nil _ _
  obtain ⟨whole, fragments, less⟩ := whole_words_outrank_fragments (a := 0) (b := 1)
    (t := "cat dog".toList) (u := "concatenate hotdogs".toList) built ⟨_, _, rfl, rfl⟩
    ⟨_, _, rfl, rfl⟩ some (by decide) (by decide +kernel) (by decide +kernel) (by decide +kernel)
    [] []
  have joined : Text.join [' '] ["cat".toList, "dog".toList] = "cat dog".toList := by decide
  have scores :
      standardScore 0 "cat dog".toList ["cat".toList, "dog".toList] "cat dog".toList = 185 ∧
        standardScore 1 "concatenate hotdogs".toList ["cat".toList, "dog".toList]
          "cat dog".toList = 105 := by
    decide +kernel
  rw [joined] at whole fragments less
  rw [scores.1] at whole
  rw [scores.2] at fragments
  exact ⟨snapshot, built, whole, fragments, less (by decide +kernel)⟩

def catAmongFragments : List Value := [recordOf "cat", recordOf "concat concat concat"]

theorem catAmongFragments_built : ∃ snapshot, Snapshot.build {} catAmongFragments = .ok snapshot :=
  ⟨_, Snapshot.build_eq_ok.mpr ⟨_, rfl, rfl⟩⟩

theorem fragments_may_outrank_whole_word :
    ¬∀ values snapshot a b t u words, Snapshot.build {} values = .ok snapshot →
      Snapshot.IndexedAs {} values a t → Snapshot.IndexedAs {} values b u → words ≠ [] →
      (∀ w ∈ words, Text.hasWholeWord w t = true) → (∀ w ∈ words, Text.StandsInside w u) →
      ∃ first second,
        scoreDocument Binary64 {} snapshot a words (Text.join [' '] words) [] = .ok first ∧
        scoreDocument Binary64 {} snapshot b words (Text.join [' '] words) [] = .ok second ∧
        second.score < first.score := by
  intro outrank
  obtain ⟨snapshot, built⟩ := catAmongFragments_built
  have cat : Snapshot.IndexedAs {} catAmongFragments 0 "cat".toList := ⟨_, _, rfl, rfl⟩
  have concat : Snapshot.IndexedAs {} catAmongFragments 1 "concat concat concat".toList :=
    ⟨_, _, rfl, rfl⟩
  have some : ["cat".toList] ≠ [] := List.cons_ne_nil _ _
  obtain ⟨first, second, one, three, less⟩ := outrank _ snapshot 0 1 _ _ ["cat".toList] built cat
    concat some (by decide) (by decide +kernel)
  have whole := scoreDocument_standard (Text.join [' '] ["cat".toList]) built cat some
    (by decide +kernel) (by decide +kernel) []
  have fragments := scoreDocument_standard (Text.join [' '] ["cat".toList]) built concat
    some (by decide +kernel) (by decide +kernel) []
  cases one.symm.trans whole
  cases three.symm.trans fragments
  exact absurd less (by decide +kernel)

end Scoring

end Concordance
