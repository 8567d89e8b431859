import Concordance.Proofs.QueryNotation

/-! What makes a query boolean, and queries of one or two words. A single word in normal form,
without a hyphen and other than an operator word, is searched for as free text; joined to another by
an operator, or with another one excluded, it makes a boolean query of just these tokens. -/
namespace Concordance

namespace Unicode

theorem blankCodes_not_alphanumeric : ∀ code ∈ blankCodes,
    (if code < 128 then (Char.ofNat code).isAlphanum else covered alphanumericRanges code) =
      false := by
  decide +kernel

theorem not_isBlank_of_isAlphanumeric {c : Char} (alphanumeric : isAlphanumeric c = true) :
    isBlank c = false := by
  by_contra blank
  have member : c.toNat ∈ blankCodes := by simpa [isBlank] using blank
  have other := blankCodes_not_alphanumeric c.toNat member
  rw [Char.ofNat_toNat] at other
  rw [isAlphanumeric, other] at alphanumeric
  cases alphanumeric

theorem toUpper_cases (c : Char) : c.toUpper = c ∨ 65 ≤ c.toUpper.toNat ∧ c.toUpper.toNat ≤ 90 := by
  by_cases small : c.toNat < 128
  · have ascii : ∀ code < 128, (Char.ofNat code).toUpper = Char.ofNat code ∨
        65 ≤ (Char.ofNat code).toUpper.toNat ∧ (Char.ofNat code).toUpper.toNat ≤ 90 := by
      decide
    have cased := ascii c.toNat small
    rwa [Char.ofNat_toNat] at cased
  · left
    apply dif_neg
    intro letter
    have most : c.toNat ≤ 122 := letter.2
    omega

theorem not_isBlank_toUpper {c : Char} (solid : isBlank c = false) : isBlank c.toUpper = false := by
  rcases toUpper_cases c with same | ⟨low, high⟩
  · rw [same, solid]
  · by_contra blank
    have member : c.toUpper.toNat ∈ blankCodes := by simpa [isBlank] using blank
    have apart : ∀ code ∈ blankCodes, code < 65 ∨ 90 < code := by decide
    have := apart _ member
    omega

theorem toUpper_of_isBlank (blank : isBlank c = true) : c.toUpper = c := by
  apply dif_neg
  intro letter
  have least : 97 ≤ c.toNat := letter.1
  have most : c.toNat ≤ 122 := letter.2
  have apart : ∀ code ∈ blankCodes, code < 97 ∨ 122 < code := by decide
  have := apart c.toNat (List.contains_iff_mem.mp blank)
  omega

theorem isBlank_toUpper (c : Char) : isBlank c.toUpper = isBlank c := by
  cases blank : isBlank c with
  | true => rw [toUpper_of_isBlank blank, blank]
  | false => exact not_isBlank_toUpper blank

theorem toUpper_eq_space : c.toUpper = ' ' ↔ c = ' ' := by
  constructor
  · intro upper
    have blank : isBlank c = true := by
      rw [← isBlank_toUpper, upper]
      decide
    rwa [toUpper_of_isBlank blank] at upper
  · rintro rfl
    rfl

end Unicode

theorem not_isBlank_of_isWordPart {c : Char} (part : isWordPart c = true) :
    Unicode.isBlank c = false := by
  simp only [isWordPart, Bool.or_eq_true, beq_iff_eq] at part
  rcases part with (alphanumeric | rfl) | rfl
  · exact Unicode.not_isBlank_of_isAlphanumeric alphanumeric
  · decide
  · decide

namespace Text

structure IsQueryWord (w : Text) : Prop where
  own : words w = [w]
  unhyphenated : '-' ∉ w
  free : Connective.ofAnyCase? w = none

namespace IsQueryWord
variable {w : Text} {c : Char}

theorem isWord (word : IsQueryWord w) : IsWord w := isWord_of_words_eq word.own

theorem not_isBlank (word : IsQueryWord w) (member : c ∈ w) : Unicode.isBlank c = false :=
  not_isBlank_of_isWordPart (word.isWord.parts c member)

theorem ne_sign (word : IsQueryWord w) (member : c ∈ w) : c ≠ '+' ∧ c ≠ '-' ∧ c ≠ '"' := by
  have part := word.isWord.parts c member
  refine ⟨?_, ?_, ?_⟩
  · rintro rfl
    exact absurd part (by decide)
  · rintro rfl
    exact word.unhyphenated member
  · rintro rfl
    exact absurd part (by decide)

theorem isTerm (word : IsQueryWord w) : QueryToken.IsTerm w where
  nonempty := word.isWord.nonempty
  unbroken := fun _ => word.not_isBlank
  unquoted := fun member => (word.ne_sign member).2.2 rfl
  unsigned := ⟨fun first => (word.ne_sign (List.mem_of_mem_head? first)).1 rfl,
    fun first => (word.ne_sign (List.mem_of_mem_head? first)).2.1 rfl⟩
  free := Connective.ofAnyCase?_eq_none.mp word.free

theorem isModified (word : IsQueryWord w) : QueryToken.IsModified w where
  nonempty := word.isWord.nonempty
  unbroken := fun _ => word.not_isBlank
  trimmed := by
    constructor <;> intro c member
    · simpa [QueryToken.isQuote] using (word.ne_sign (List.mem_of_mem_head? member)).2.2
    · simpa [QueryToken.isQuote] using (word.ne_sign (List.mem_of_mem_getLast? member)).2.2

theorem normalized (word : IsQueryWord w) : trim (lower w) = w := by
  apply trim_lower_of_trimmed word.isWord.lowered
  constructor
  · exact fun c member => word.not_isBlank (List.mem_of_mem_head? member)
  · exact fun c member => word.not_isBlank (List.mem_of_mem_getLast? member)

end IsQueryWord
end Text

namespace QueryToken
open Unicode
variable {a b t w upper : Text}

theorem parse_conjunction (first : Text.IsQueryWord a) (second : Text.IsQueryWord b) :
    parse (a ++ (" AND ".toList ++ b)) =
      [⟨.term, a⟩, ⟨.operator, Connective.and.word⟩, ⟨.term, b⟩] := by
  have joined : write [⟨.term, a⟩, ⟨.operator, Connective.and.word⟩, ⟨.term, b⟩] =
      a ++ (" AND ".toList ++ b) := by
    simp [write_cons, writeFurther, written, Connective.word]
  rw [← joined]
  apply parse_write
  simp only [List.forall_mem_cons]
  exact ⟨first.isTerm, ⟨.and, by decide, rfl⟩, second.isTerm, List.forall_mem_nil _⟩

theorem parse_exclusion (first : Text.IsQueryWord a) (second : Text.IsQueryWord b) :
    parse (a ++ (" -".toList ++ b)) = [⟨.term, a⟩, ⟨.excluded, b⟩] := by
  have joined : write [⟨.term, a⟩, ⟨.excluded, b⟩] = a ++ (" -".toList ++ b) := by
    simp [write_cons, writeFurther, written]
  rw [← joined]
  apply parse_write
  simp only [List.forall_mem_cons]
  exact ⟨first.isTerm, second.isModified, List.forall_mem_nil _⟩

def HasMark (t : Text) : Prop := ∃ c ∈ t, c = '+' ∨ c = '-' ∨ c = '"'

theorem HasMark.mono {u : Text} (marked : HasMark t) (inside : t ⊆ u) : HasMark u := by
  obtain ⟨c, member, mark⟩ := marked
  exact ⟨c, inside member, mark⟩

def HasSpacedOperator (t : Text) : Prop :=
  ∃ u w v, t = u ++ ' ' :: (w ++ ' ' :: v) ∧ Connective.ofAnyCase? w ≠ none

def OpensWithOperator (t : Text) : Prop :=
  ∃ w c v, t = w ++ c :: v ∧ isBlank c = true ∧ Connective.ofAnyCase? w ≠ none

theorem occursIn_spaced_iff :
    Text.occursIn (' ' :: (upper ++ [' '])) (t.map Char.toUpper) = true ↔
      ∃ u w v, t = u ++ ' ' :: (w ++ ' ' :: v) ∧ w.map Char.toUpper = upper := by
  rw [Text.occursIn_iff_within]
  constructor
  · rintro ⟨front, back, whole⟩
    rw [List.append_assoc, List.cons_append, List.append_assoc, List.singleton_append] at whole
    obtain ⟨u, rest, rfl, _, inner⟩ := List.map_eq_append_iff.mp whole.symm
    obtain ⟨c, rest, rfl, space, inner⟩ := List.map_eq_cons_iff.mp inner
    obtain ⟨w, rest, rfl, word, inner⟩ := List.map_eq_append_iff.mp inner
    obtain ⟨d, v, rfl, further, _⟩ := List.map_eq_cons_iff.mp inner
    obtain rfl := toUpper_eq_space.mp space
    obtain rfl := toUpper_eq_space.mp further
    exact ⟨u, w, v, rfl, word⟩
  · rintro ⟨u, w, v, rfl, rfl⟩
    exact ⟨u.map Char.toUpper, v.map Char.toUpper, by simp [toUpper_eq_space.mpr rfl]⟩

theorem opensWith_iff : opensWith upper (t.map Char.toUpper) = true ↔
    ∃ w c v, t = w ++ c :: v ∧ isBlank c = true ∧ w.map Char.toUpper = upper := by
  rw [opensWith, Bool.and_eq_true, List.isPrefixOf_iff_prefix, Option.any_eq_true]
  constructor
  · rintro ⟨⟨back, whole⟩, d, next, blank⟩
    rw [← whole, List.drop_left] at next
    obtain ⟨w, rest, rfl, word, inner⟩ := List.map_eq_append_iff.mp whole.symm
    cases rest with
    | nil =>
      rw [← inner] at next
      cases next
    | cons c v =>
      rw [← inner] at next
      obtain rfl := Option.some.inj next
      rw [isBlank_toUpper] at blank
      exact ⟨w, c, v, rfl, blank, word⟩
  · rintro ⟨w, c, v, rfl, blank, rfl⟩
    rw [List.map_append]
    refine ⟨List.prefix_append _ _, c.toUpper, ?_, ?_⟩
    · rw [List.drop_left]
      rfl
    · rwa [isBlank_toUpper]

theorem isBoolean_iff (t : Text) :
    isBoolean t = true ↔ HasMark t ∨ HasSpacedOperator t ∨ OpensWithOperator t := by
  have marks : (t.any fun c => c == '+' || c == '-' || isQuote c) = true ↔ HasMark t := by
    simp [HasMark, isQuote, or_assoc]
  have spaced : (Connective.all.any fun c =>
      Text.occursIn (' ' :: (c.word ++ [' '])) (t.map Char.toUpper)) = true ↔
      HasSpacedOperator t := by
    simp only [List.any_eq_true, occursIn_spaced_iff, HasSpacedOperator,
      Connective.ofAnyCase?_ne_none]
    constructor
    · rintro ⟨connective, known, u, w, v, split, word⟩
      exact ⟨u, w, v, split, connective, known, word⟩
    · rintro ⟨u, w, v, split, connective, known, word⟩
      exact ⟨connective, known, u, w, v, split, word⟩
  have opens : (Connective.all.any fun c => opensWith c.word (t.map Char.toUpper)) = true ↔
      OpensWithOperator t := by
    simp only [List.any_eq_true, opensWith_iff, OpensWithOperator, Connective.ofAnyCase?_ne_none]
    constructor
    · rintro ⟨connective, known, w, c, v, split, blank, word⟩
      exact ⟨w, c, v, split, blank, connective, known, word⟩
    · rintro ⟨w, c, v, split, blank, connective, known, word⟩
      exact ⟨connective, known, w, c, v, split, blank, word⟩
  rw [isBoolean, Bool.or_eq_true, Bool.or_eq_true, marks, spaced, opens, or_assoc]

theorem isBoolean_exclusion (a b : Text) : isBoolean (a ++ (" -".toList ++ b)) = true := by
  have member : '-' ∈ a ++ (" -".toList ++ b) :=
    List.mem_append_right a (List.mem_append_left b (by decide))
  exact (isBoolean_iff _).mpr (.inl ⟨'-', member, .inr (.inl rfl)⟩)

theorem isBoolean_conjunction (a b : Text) : isBoolean (a ++ (" AND ".toList ++ b)) = true :=
  (isBoolean_iff _).mpr (.inr (.inl ⟨a, "AND".toList, b, by simp, by decide⟩))

theorem isBoolean_word (word : Text.IsQueryWord w) : isBoolean w = false := by
  apply Bool.eq_false_iff.mpr
  intro boolean
  rcases (isBoolean_iff w).mp boolean with ⟨c, member, mark⟩ | ⟨u, v, rest, rfl, _⟩ |
    ⟨u, c, rest, rfl, blank, _⟩
  · obtain ⟨plus, minus, quote⟩ := word.ne_sign member
    rcases mark with rfl | rfl | rfl
    · exact plus rfl
    · exact minus rfl
    · exact quote rfl
  · have solid := word.not_isBlank (c := ' ') (by simp)
    exact absurd solid (by decide)
  · have solid := word.not_isBlank (c := c) (by simp)
    cases solid.symm.trans blank

end QueryToken
end Concordance
