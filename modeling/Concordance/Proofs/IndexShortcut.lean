import Concordance.Proofs.DocumentAlone
import Concordance.Proofs.WholeWords
import Mathlib.Data.List.Sort

/-! The index as a shortcut. A term matches a document if a long enough word of the document is one
of its words, or if one of its words stands in the text as a whole word. Every word of a text stands
there with no letter or number on either side, hence as a whole word, unless an underscore is next
to it. So the least length of indexed words can change what a term matches only where a word of the
term stands next to underscores. -/
namespace Concordance

namespace Text
variable {p q : Char → Bool} {a b w t u v : Text}

theorem StandsApart.inner (apart : StandsApart p (a ++ (w ++ b)) t)
    (wider : ∀ c, p c = false → q c = false) (front : ∀ c ∈ a, q c = false)
    (back : ∀ c ∈ b, q c = false) : StandsApart q w t := by
  obtain ⟨u, v, rfl, opens, ends⟩ := apart
  refine ⟨u ++ a, b ++ v, by simp only [List.append_assoc], fun c last => ?_, fun c first => ?_⟩
  · rw [List.getLast?_append] at last
    rcases Option.or_eq_some_iff.mp last with own | ⟨_, before⟩
    · exact front c (List.mem_of_mem_getLast? own)
    · exact wider c (opens c before)
  · rw [List.head?_append] at first
    rcases Option.or_eq_some_iff.mp first with own | ⟨_, behind⟩
    · exact back c (List.mem_of_mem_head? own)
    · exact wider c (ends c behind)

theorem not_isAlphanumeric_of_isEdge {c : Char} (edge : isEdge c = true) :
    Unicode.isAlphanumeric c = false := by
  have boundary := not_isWordChar_of_isEdge edge
  simp only [Unicode.isWordChar, Bool.or_eq_false_iff] at boundary
  exact boundary.1

theorem standsApart_of_mem_words (lowered : Lowered t) (member : w ∈ words t) :
    StandsApart Unicode.isAlphanumeric w t := by
  rw [words_eq] at member
  simp only [List.mem_filter, List.mem_map] at member
  obtain ⟨⟨_, ⟨run, found, rfl⟩, rfl⟩, _⟩ := member
  obtain ⟨_, _, within⟩ := of_mem_runs found
  rw [lower_of_lowered (lowered.part within)]
  obtain ⟨a, b, split, front, back⟩ := trimBy_split isEdge run
  have apart : StandsApart isWordPart run t := runs_apart found
  rw [split] at apart
  refine apart.inner (fun c other => ?_) (fun c edge => not_isAlphanumeric_of_isEdge (front c edge))
    fun c edge => not_isAlphanumeric_of_isEdge (back c edge)
  simp only [isWordPart, Bool.or_eq_false_iff] at other
  exact other.1.1

/-- Whether a word stands in a text with no letter or number on either side, but only next to
underscores, which are word characters too. -/
structure Tied (w t : Text) : Prop where
  apart : StandsApart Unicode.isAlphanumeric w t
  underscored : ∀ u v, t = u ++ (w ++ v) → (∀ c ∈ u.getLast?, Unicode.isAlphanumeric c = false) →
    (∀ c ∈ v.head?, Unicode.isAlphanumeric c = false) → u.getLast? = some '_' ∨ v.head? = some '_'

theorem not_isWordChar_of_ne {c : Char} (other : c ≠ '_')
    (letter : Unicode.isAlphanumeric c = false) : Unicode.isWordChar c = false := by
  simp [Unicode.isWordChar, letter, other]

theorem whole_or_tied (lowered : Lowered t) (member : w ∈ words t) :
    hasWholeWord w t = true ∨ Tied w t := by
  by_cases whole : hasWholeWord w t = true
  · exact .inl whole
  · refine .inr ⟨standsApart_of_mem_words lowered member, fun u v split opens ends => ?_⟩
    by_contra none
    obtain ⟨before, behind⟩ := not_or.mp none
    refine whole (hasWholeWord_iff.mpr ⟨u, v, split, fun c last => ?_, fun c first => ?_⟩)
    · exact not_isWordChar_of_ne (by rintro rfl; exact before last) (opens c last)
    · exact not_isWordChar_of_ne (by rintro rfl; exact behind first) (ends c first)

theorem Tied.underscore_mem (tied : Tied w t) : '_' ∈ t := by
  obtain ⟨u, v, split, opens, ends⟩ := tied.apart
  rw [split]
  rcases tied.underscored u v split opens ends with before | behind
  · exact List.mem_append_left _ (List.mem_of_mem_getLast? before)
  · exact List.mem_append_right _ (List.mem_append_right _ (List.mem_of_mem_head? behind))

end Text

theorem Snapshot.ofTexts_no_word {s : Settings} {d : Document} {t : Text}
    (none : indexableWords s.minIndexedWordLength t = []) :
    ofTexts s [(d, t)] =
      { plan := s.fieldPlan, documents := [d], summaries := [summarize s.summaryPrefixWords 0 t],
        entries := [] } := by
  simp [ofTexts, invert, none]

namespace QueryToken
variable {s : Settings} {snapshot : Snapshot} {values : List Value}
  {documents : List (Document × Text)} {token : QueryToken} {t : Text} {ids : List Nat} {id : Nat}

theorem matching_ascending (ok : token.matching snapshot = .ok ids) : ids.Pairwise (· < ·) := by
  have ascending : snapshot.docIds.Pairwise (· < ·) := List.pairwise_lt_range
  unfold matching at ok
  split at ok <;> dsimp only at ok <;> split at ok
  · cases ok
    exact .nil
  · obtain ⟨_, rfl⟩ := Outcome.filterM_eq_ok.mp ok
    exact ascending.filter _
  · cases ok
    exact .nil
  · obtain ⟨_, rfl⟩ := Outcome.filterM_eq_ok.mp ok
    exact ascending.filter _

theorem mem_matching_iff (ok : Snapshot.enrollAll s.fieldPlan 0 values = .ok documents)
    (indexed : Snapshot.IndexedAs s values id t) (plain : token.kind ≠ .phrase)
    (matched : token.matching (Snapshot.ofTexts s documents) = .ok ids) :
    id ∈ ids ↔ ∃ w ∈ Text.words token.value, Text.hasWholeWord w t = true ∨
      w ∈ Text.words t ∧ s.minIndexedWordLength ≤ w.length := by
  obtain ⟨d, place⟩ := (Snapshot.indexedAs_iff ok).mp indexed
  rw [← matches_iff matched, matches_iff_mentioned ok place, mentionedIn, if_neg plain,
    Bool.or_eq_true, List.any_eq_true, List.any_eq_true]
  simp only [List.contains_iff_mem, Snapshot.mem_indexableWords, Text.distinctWords,
    List.mem_eraseDups]
  constructor
  · rintro (⟨w, asked, known⟩ | ⟨w, asked, whole⟩)
    · exact ⟨w, asked, .inr known⟩
    · exact ⟨w, asked, .inl whole⟩
  · rintro ⟨w, asked, whole | known⟩
    · exact .inr ⟨w, asked, whole⟩
    · exact .inl ⟨w, asked, known⟩

/-- Two thresholds for the length of indexed words tell a document apart only by a word of the term
that is tied to underscores in the text and long enough for just one of them. In all other cases the
scan for whole words finds what is kept out of the index. -/
theorem threshold_counts_for_tied_words_only (built : Snapshot.build s values = .ok snapshot)
    (n : Nat)
    (kind : token.kind = .term ∨ token.kind = .required ∨ token.kind = .excluded) :
    ∃ other ids others,
      Snapshot.build { s with minIndexedWordLength := n } values = .ok other ∧
      token.matching snapshot = .ok ids ∧ token.matching other = .ok others ∧
      (∀ id t, Snapshot.IndexedAs s values id t →
        (∀ w ∈ Text.words token.value, w ∈ Text.words t → Text.Tied w t →
          (s.minIndexedWordLength ≤ w.length ↔ n ≤ w.length)) → (id ∈ ids ↔ id ∈ others)) ∧
      ((∀ id t, Snapshot.IndexedAs s values id t →
        ∀ w ∈ Text.words token.value, w ∈ Text.words t → Text.Tied w t →
          (s.minIndexedWordLength ≤ w.length ↔ n ≤ w.length)) → ids = others) := by
  obtain ⟨documents, ok, rfl⟩ := Snapshot.build_eq_ok.mp built
  have plain : token.kind ≠ .phrase := by
    rcases kind with same | same | same <;> simp [same]
  let raised : Settings := { s with minIndexedWordLength := n }
  have again : Snapshot.enrollAll raised.fieldPlan 0 values = .ok documents := ok
  obtain ⟨ids, matched⟩ := matching_of_readable (Snapshot.readable_ofTexts ok) token
  obtain ⟨others, rematched⟩ := matching_of_readable (Snapshot.readable_ofTexts again) token
  have agree (id : Nat) (t : Text) (indexed : Snapshot.IndexedAs s values id t)
      (untold : ∀ w ∈ Text.words token.value, w ∈ Text.words t → Text.Tied w t →
        (s.minIndexedWordLength ≤ w.length ↔ n ≤ w.length)) : id ∈ ids ↔ id ∈ others := by
    rw [mem_matching_iff ok indexed plain matched, mem_matching_iff again indexed plain rematched]
    refine exists_congr fun w => and_congr_right fun asked => ?_
    by_cases whole : Text.hasWholeWord w t = true
    · exact iff_of_true (.inl whole) (.inl whole)
    · refine or_congr_right (and_congr_right fun member => ?_)
      exact untold w asked member ((Text.whole_or_tied indexed.lowered member).resolve_left whole)
  -- both answers are ascending lists, so it is enough that they have the same members
  refine ⟨_, ids, others, Snapshot.build_eq_ok.mpr ⟨documents, again, rfl⟩, matched, rematched,
    agree, fun untold => ?_⟩
  apply (matching_ascending matched).eq_of_mem_iff (matching_ascending rematched)
  intro id
  by_cases inside : id ∈ (Snapshot.ofTexts s documents).docIds
  · obtain ⟨d, t, place⟩ := Snapshot.mem_docIds_ofTexts.mp inside
    have indexed := (Snapshot.indexedAs_iff ok).mpr ⟨d, place⟩
    exact agree id t indexed (untold id t indexed)
  · refine iff_of_false (fun member => inside (matching_inside matched member)) fun member => ?_
    have within := matching_inside rematched member
    exact inside within

def requiredCat : QueryToken := ⟨.required, "Cat".toList⟩

theorem short_cat_matched_by_scan :
    Snapshot.build {} Snapshot.dogs = .ok Snapshot.dogIndex ∧
    requiredCat.matching Snapshot.dogIndex = .ok [0, 1] ∧
    ∃ other, Snapshot.build { ({} : Settings) with minIndexedWordLength := 4 } Snapshot.dogs =
        .ok other ∧
      requiredCat.matching other = .ok [0, 1] := by
  have kind : requiredCat.kind = .term ∨ requiredCat.kind = .required ∨
      requiredCat.kind = .excluded := by decide
  obtain ⟨other, ids, others, built, matched, rematched, _, same⟩ :=
    threshold_counts_for_tied_words_only Snapshot.dogs_built 4 kind
  have found : requiredCat.matching Snapshot.dogIndex = .ok [0, 1] := by decide
  have enrolled : Snapshot.enrollAll (Settings.fieldPlan {}) 0 Snapshot.dogs =
      .ok [(.record [("text".toList, .text "-Dog's- a CAT".toList)], "-dog's- a cat".toList),
        (.record [("text".toList, .text "cat".toList)], "cat".toList)] := rfl
  have untied : ∀ id t, Snapshot.IndexedAs {} Snapshot.dogs id t → '_' ∉ t := by
    intro id t indexed
    obtain ⟨d, place⟩ := (Snapshot.indexedAs_iff enrolled).mp indexed
    have listed := List.mem_of_getElem? place
    simp only [List.mem_cons, Prod.mk.injEq, List.not_mem_nil, or_false] at listed
    rcases listed with ⟨_, rfl⟩ | ⟨_, rfl⟩
    · decide
    · decide
  cases found.symm.trans matched
  rw [← same fun id t indexed w _ _ tied => absurd tied.underscore_mem (untied id t indexed)]
    at rematched
  exact ⟨Snapshot.dogs_built, found, other, built, rematched⟩

def underscored : List Value := [.map [("text".toList, .text "_x".toList)]]

def underscoredIndex (s : Settings) (entries : List (Text × List Nat)) : Snapshot :=
  { plan := s.fieldPlan
    documents := [.record [("text".toList, .text "_x".toList)]]
    summaries := [Snapshot.summarize s.summaryPrefixWords 0 "_x".toList]
    entries }

theorem threshold_counts_next_to_underscore :
    ¬∀ (s : Settings) (n : Nat) (values : List Value) (snapshot other : Snapshot)
      (token : QueryToken), Snapshot.build s values = .ok snapshot →
      Snapshot.build { s with minIndexedWordLength := n } values = .ok other →
      (token.kind = .term ∨ token.kind = .required ∨ token.kind = .excluded) →
      token.matching snapshot = token.matching other := by
  intro all
  have scanned : Snapshot.build {} underscored = .ok (underscoredIndex {} []) :=
    Snapshot.build_eq_ok.mpr ⟨[(.record [("text".toList, .text "_x".toList)], "_x".toList)], rfl,
      Snapshot.ofTexts_no_word (by decide)⟩
  have posted : Snapshot.build { ({} : Settings) with minIndexedWordLength := 1 } underscored =
      .ok (underscoredIndex { ({} : Settings) with minIndexedWordLength := 1 }
        [("x".toList, [0])]) :=
    Snapshot.build_eq_ok.mpr ⟨[(.record [("text".toList, .text "_x".toList)], "_x".toList)], rfl,
      Snapshot.ofTexts_one_word (by decide)⟩
  have same := all {} 1 underscored _ _ ⟨.term, "x".toList⟩ scanned posted (.inl rfl)
  exact absurd same (by decide)

end QueryToken
end Concordance
