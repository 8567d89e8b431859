import Concordance.Proofs.QueryWords
import Concordance.Proofs.QuotedStretches

/-! Operators between the parts of a query. Without a sign or a quote, an operator that is read
between other tokens is a word between two blanks, whichever these are. Whether a query is meant as
boolean is told from operator words between plain spaces and from one at the beginning in front of a
blank. The two agree on queries in which every blank is a plain space. -/
namespace Concordance.QueryToken
open Unicode
variable {t w : Text} {before after : List QueryToken} {operator token : QueryToken}

/-- Where a token of a query without marks is read from: a word with a blank or an end of the query
on either side, the other tokens being read from what is in front of it and behind it. -/
structure ReadFrom (t : Text) (before : List QueryToken) (token : QueryToken)
    (after : List QueryToken) (u w v : Text) : Prop where
  split : t = u ++ (w ++ v)
  word : ofWord w = token
  solid : w ≠ [] ∧ Text.Unbroken w
  front : parse u = before ∧ ∀ c ∈ u.getLast?, isBlank c = true
  back : parse v = after ∧ ∀ c ∈ v.head?, isBlank c = true

namespace ReadFrom
variable {c : Char} {first rest u v : Text}

theorem after_blank (blank : isBlank c = true) (read : ReadFrom rest before token after u w v) :
    ReadFrom (c :: rest) before token after (c :: u) w v := by
  refine ⟨by rw [read.split, List.cons_append], read.word, read.solid, ⟨?_, ?_⟩, read.back⟩
  · rw [parse_blank blank, read.front.1]
  · intro d last
    cases u with
    | nil =>
      cases last
      exact blank
    | cons e u =>
      rw [List.getLast?_cons_cons] at last
      exact read.front.2 d last

theorem front_ne_nil (blanks : ∀ c ∈ rest.head?, isBlank c = true)
    (read : ReadFrom rest before token after u w v) : u ≠ [] := by
  rintro rfl
  obtain ⟨c, w, rfl⟩ := List.exists_cons_of_ne_nil read.solid.1
  exact absurd (blanks c (by rw [read.split]; rfl))
    (by simp [read.solid.2 c List.mem_cons_self])

theorem after_word (nonempty : first ≠ []) (continues : ∀ c ∈ first, continuesWord c = true)
    (unsigned : ∀ c ∈ first.head?, modifier? c = none)
    (ends : ∀ c ∈ rest.head?, continuesWord c = false)
    (blanks : ∀ c ∈ rest.head?, isBlank c = true)
    (read : ReadFrom rest before token after u w v) :
    ReadFrom (first ++ rest) (ofWord first :: before) token after (first ++ u) w v := by
  have apart : u ≠ [] := read.front_ne_nil blanks
  have stops : ∀ c ∈ u.head?, continuesWord c = false := fun c next =>
    ends c (by rwa [read.split, List.head?_append_of_ne_nil _ apart])
  refine ⟨by rw [read.split, List.append_assoc], read.word, read.solid, ⟨?_, ?_⟩, read.back⟩
  · rw [parse_word nonempty continues unsigned stops, read.front.1]
  · rw [List.getLast?_append_of_ne_nil _ apart]
    exact read.front.2

end ReadFrom

theorem readFrom_of_unmarked (unmarked : ¬HasMark t) (read : parse t = before ++ token :: after) :
    ∃ u w v, ReadFrom t before token after u w v := by
  induction t using written_induction generalizing before with
  | nil =>
    rw [parse_nil] at read
    cases List.append_ne_nil_of_right_ne_nil before (List.cons_ne_nil _ _) read.symm
  | quoted v rest unquoted ih => exact absurd ⟨'"', List.mem_cons_self, by decide⟩ unmarked
  | opened v unquoted => exact absurd ⟨'"', List.mem_cons_self, by decide⟩ unmarked
  | signed c kind run rest sign unbroken ends ih =>
    have mark : c = '+' ∨ c = '-' ∨ c = '"' :=
      (modifier?_cases sign).imp And.left fun minus => .inl minus.1
    exact absurd ⟨c, List.mem_cons_self, mark⟩ unmarked
  | blank c rest blank ih =>
    have others : ¬HasMark rest := fun marked =>
      unmarked (marked.mono (List.subset_cons_self c rest))
    rw [parse_blank blank] at read
    obtain ⟨u, w, v, found⟩ := ih others read
    exact ⟨c :: u, w, v, found.after_blank blank⟩
  | word first rest nonempty continues unsigned ends ih =>
    have others : ¬HasMark rest := fun marked =>
      unmarked (marked.mono (List.subset_append_right first rest))
    have blanks : ∀ c ∈ rest.head?, isBlank c = true := by
      intro c next
      have plain : c ≠ '"' := fun quote =>
        others ⟨c, List.mem_of_mem_head? next, .inr (.inr quote)⟩
      simpa [continuesWord, isQuote, plain] using ends c next
    rw [parse_word nonempty continues unsigned ends] at read
    cases before with
    | nil =>
      obtain ⟨here, behind⟩ := List.cons.inj read
      have unbroken : Text.Unbroken first := fun c member => by
        have solid : isBlank c = false ∧ isQuote c = false := by
          simpa [continuesWord] using continues c member
        exact solid.1
      refine ⟨[], first, rest, rfl, here, ⟨nonempty, unbroken⟩, ⟨parse_nil, ?_⟩, behind, blanks⟩
      rintro c ⟨⟩
    | cons other before =>
      obtain ⟨rfl, behind⟩ := List.cons.inj read
      obtain ⟨u, w, v, found⟩ := ih others behind
      exact ⟨first ++ u, w, v, found.after_word nonempty continues unsigned ends blanks⟩

theorem ofAnyCase?_of_ofWord (word : ofWord w = operator) (kind : operator.kind = .operator) :
    Connective.ofAnyCase? w ≠ none := by
  intro none
  rw [ofWord, none] at word
  rw [← word] at kind
  cases kind

/-- An operator that is read between other tokens is a word between two blanks, if the query has no
sign and no quote. -/
theorem between_blanks (unmarked : ¬HasMark t) (read : parse t = before ++ operator :: after)
    (front : before ≠ []) (back : after ≠ []) :
    ∃ u c w d v, t = u ++ c :: (w ++ d :: v) ∧ isBlank c = true ∧ isBlank d = true ∧
      ofWord w = operator ∧ parse (u ++ [c]) = before ∧ parse (d :: v) = after := by
  obtain ⟨u, w, v, rfl, word, _, ⟨earlier, final⟩, later, first⟩ :=
    readFrom_of_unmarked unmarked read
  rcases List.eq_nil_or_concat u with rfl | ⟨u, c, rfl⟩
  · exact absurd (earlier.symm.trans parse_nil) front
  cases v with
  | nil => exact absurd (later.symm.trans parse_nil) back
  | cons d v =>
    rw [List.concat_eq_append] at earlier final ⊢
    exact ⟨u, c, w, d, v, by simp, final c List.getLast?_concat, first d rfl, word, earlier, later⟩

/-- If an operator is read between tokens that are none, the query is taken as boolean exactly if it
has a sign or a quote, an operator word between plain spaces, or one at the beginning. Without a
sign or a quote the operator stands between two blanks, so it is enough that every blank is a
space. -/
theorem inner_operator_detected_iff (read : parse t = before ++ operator :: after)
    (kind : operator.kind = .operator) (front : ∃ token ∈ before, token.kind ≠ .operator)
    (back : ∃ token ∈ after, token.kind ≠ .operator) :
    (isBoolean t = true ↔ HasMark t ∨ HasSpacedOperator t ∨ OpensWithOperator t) ∧
      (¬HasMark t → ∃ u c w d v, t = u ++ c :: (w ++ d :: v) ∧ isBlank c = true ∧
        isBlank d = true ∧ ofWord w = operator ∧ parse (u ++ [c]) = before ∧
        parse (d :: v) = after) ∧
      ((∀ c ∈ t, isBlank c = true → c = ' ') → isBoolean t = true) := by
  obtain ⟨one, earlier, _⟩ := front
  obtain ⟨other, later, _⟩ := back
  have between (unmarked : ¬HasMark t) := between_blanks unmarked read
    (List.ne_nil_of_mem earlier) (List.ne_nil_of_mem later)
  refine ⟨isBoolean_iff t, between, fun spaces => (isBoolean_iff t).mpr ?_⟩
  by_cases marked : HasMark t
  · exact .inl marked
  · obtain ⟨u, c, w, d, v, split, left, right, word, _⟩ := between marked
    obtain rfl := spaces c (by simp [split]) left
    obtain rfl := spaces d (by simp [split]) right
    exact .inr (.inl ⟨u, w, v, split, ofAnyCase?_of_ofWord word kind⟩)

theorem cat_and_dog_detected :
    parse "cat and dog".toList =
        [⟨.term, "cat".toList⟩] ++ ⟨.operator, "AND".toList⟩ :: [⟨.term, "dog".toList⟩] ∧
      isBoolean "cat and dog".toList = true := by
  have read : parse "cat and dog".toList =
      [⟨.term, "cat".toList⟩] ++ ⟨.operator, "AND".toList⟩ :: [⟨.term, "dog".toList⟩] := by
    decide +kernel
  have detected := inner_operator_detected_iff read rfl ⟨_, List.mem_cons_self, by decide⟩
    ⟨_, List.mem_cons_self, by decide⟩
  have spaces : ("cat and dog".toList.all fun c => !isBlank c || c == ' ') = true := by decide
  refine ⟨read, detected.2.2 fun c member blank => ?_⟩
  simpa [blank] using List.all_eq_true.mp spaces c member

theorem operator_between_tabs_not_detected :
    ¬∀ (t : Text) (before after : List QueryToken) (operator : QueryToken),
      parse t = before ++ operator :: after → operator.kind = .operator →
      (∃ token ∈ before, token.kind ≠ .operator) → (∃ token ∈ after, token.kind ≠ .operator) →
      isBoolean t = true := by
  intro all
  have read : parse "cat\tAND\tdog".toList =
      [⟨.term, "cat".toList⟩] ++ ⟨.operator, "AND".toList⟩ :: [⟨.term, "dog".toList⟩] := by
    decide +kernel
  have detected := all _ _ _ _ read rfl ⟨_, List.mem_cons_self, by decide⟩
    ⟨_, List.mem_cons_self, by decide⟩
  exact absurd detected (by decide)

end Concordance.QueryToken
