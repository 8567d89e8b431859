import Concordance.Proofs.Words
import Concordance.Query.Token
import Mathlib.Tactic.MkIffOfInductiveProp

/-! Queries as they are written. A token is written as its value, a phrase between quotes and a
token with a modifier behind its sign, with a blank between two tokens. Reading yields well-formed
tokens only, and of well-formed tokens what is written is read as the same tokens again. -/
namespace Concordance

namespace Connective
variable {w : Text} {connective : Connective}

theorem mem_all (connective : Connective) : connective ∈ all := by
  cases connective <;> decide

theorem ofWord?_eq_some : ofWord? w = some connective ↔ w = connective.word := by
  constructor
  · intro found
    have same := List.find?_some found
    exact (beq_iff_eq.mp same).symm
  · rintro rfl
    cases connective <;> rfl

theorem ofAnyCase?_word (connective : Connective) :
    ofAnyCase? connective.word = some connective := by
  cases connective <;> decide

theorem ofAnyCase?_eq_none :
    ofAnyCase? w = none ↔ ∀ connective ∈ all, w.map Char.toUpper ≠ connective.word := by
  simp only [ofAnyCase?, ofWord?, List.find?_eq_none, beq_iff_eq]
  exact forall₂_congr fun _ _ => ne_comm

theorem ofAnyCase?_ne_none :
    ofAnyCase? w ≠ none ↔ ∃ connective ∈ all, w.map Char.toUpper = connective.word := by
  simp only [ne_eq, ofAnyCase?_eq_none, not_forall, not_not, exists_prop]

end Connective

namespace Text

def Unbroken (t : Text) : Prop := ∀ c ∈ t, Unicode.isBlank c = false

-- decided on the characters of the text alone, although there are finitely many characters at all
instance (t : Text) : Decidable (Unbroken t) :=
  decidable_of_iff (t.all (!Unicode.isBlank ·) = true) (by simp [Unbroken])

instance (p : Char → Bool) (t : Text) : Decidable (Trimmed p t) :=
  decidable_of_iff (t.head?.all (!p ·) = true ∧ t.getLast?.all (!p ·) = true)
    (by simp [Trimmed, Option.all_eq_true])

end Text

namespace QueryToken
open Unicode

/-- The values of plain terms: unbroken, without a quote or a sign in front, and no operator word
in whatever case. -/
@[mk_iff]
structure IsTerm (value : Text) : Prop where
  nonempty : value ≠ []
  unbroken : Text.Unbroken value
  unquoted : '"' ∉ value
  unsigned : value.head? ≠ some '+' ∧ value.head? ≠ some '-'
  free : ∀ connective ∈ Connective.all, value.map Char.toUpper ≠ connective.word

@[mk_iff]
structure IsPhrase (value : Text) : Prop where
  nonempty : value ≠ []
  trimmed : Text.Trimmed isBlank value
  unquoted : '"' ∉ value

/-- The values of tokens with a modifier, which may have a quote inside but at neither end. -/
@[mk_iff]
structure IsModified (value : Text) : Prop where
  nonempty : value ≠ []
  unbroken : Text.Unbroken value
  trimmed : Text.Trimmed isQuote value

def WellFormed (token : QueryToken) : Prop :=
  match token.kind with
  | .term => IsTerm token.value
  | .phrase => IsPhrase token.value
  | .required | .excluded => IsModified token.value
  | .operator => ∃ connective ∈ Connective.all, token.value = connective.word

instance : DecidablePred IsTerm := fun value => decidable_of_iff' _ (isTerm_iff value)

instance : DecidablePred IsPhrase := fun value => decidable_of_iff' _ (isPhrase_iff value)

instance : DecidablePred IsModified := fun value => decidable_of_iff' _ (isModified_iff value)

instance : DecidablePred WellFormed
  | ⟨.term, value⟩ => inferInstanceAs (Decidable (IsTerm value))
  | ⟨.phrase, value⟩ => inferInstanceAs (Decidable (IsPhrase value))
  | ⟨.required, value⟩ => inferInstanceAs (Decidable (IsModified value))
  | ⟨.excluded, value⟩ => inferInstanceAs (Decidable (IsModified value))
  | ⟨.operator, value⟩ =>
    inferInstanceAs (Decidable (∃ connective ∈ Connective.all, value = connective.word))

def written (token : QueryToken) : Text :=
  match token.kind with
  | .term | .operator => token.value
  | .phrase => '"' :: (token.value ++ ['"'])
  | .required => '+' :: token.value
  | .excluded => '-' :: token.value

def write (tokens : List QueryToken) : Text := Text.join [' '] (tokens.map written)

def writeFurther (tokens : List QueryToken) : Text :=
  tokens.flatMap fun token => ' ' :: token.written

example : write [⟨.term, "cat".toList⟩, ⟨.operator, "OR".toList⟩, ⟨.phrase, "quick fox".toList⟩,
    ⟨.excluded, "dog".toList⟩] = "cat OR \"quick fox\" -dog".toList := by
  decide

section Reading
variable {c : Char} {v w rest : Text} {kind : TokenKind} {token : QueryToken}
  {tokens : List QueryToken}

theorem parse_nil : parse [] = [] := by rw [parse]

theorem not_isQuote_of_isBlank (blank : isBlank c = true) : isQuote c = false := by
  by_contra quote
  have same : c = '"' := by simpa [isQuote] using quote
  rw [same] at blank
  exact absurd blank (by decide)

theorem not_isQuote_of_not_mem (unquoted : '"' ∉ v) : ∀ c ∈ v, (!isQuote c) = true := by
  intro c member
  have other : c ≠ '"' := fun same => unquoted (same ▸ member)
  simp [isQuote, other]

theorem parse_blank (blank : isBlank c = true) (rest : Text) : parse (c :: rest) = parse rest := by
  rw [parse]
  simp [not_isQuote_of_isBlank blank, blank]

theorem parse_quoted (closed : '"' ∉ v) (rest : Text) :
    parse ('"' :: (v ++ '"' :: rest)) = unlessEmpty .phrase (Text.trim v) ++ parse rest := by
  obtain ⟨taken, left⟩ : (v ++ '"' :: rest).takeWhile (!isQuote ·) = v ∧
      (v ++ '"' :: rest).dropWhile (!isQuote ·) = '"' :: rest :=
    Text.span_exact (not_isQuote_of_not_mem closed) (by rintro c ⟨⟩; rfl)
  rw [parse]
  simp only [taken, left]
  rfl

theorem modifier?_cases (sign : modifier? c = some kind) :
    c = '+' ∧ kind = .required ∨ c = '-' ∧ kind = .excluded := by
  unfold modifier? at sign
  split at sign
  next plus => exact .inl ⟨plus, (Option.some.inj sign).symm⟩
  next =>
    split at sign
    next minus => exact .inr ⟨minus, (Option.some.inj sign).symm⟩
    next => cases sign

theorem plain_of_modifier? (sign : modifier? c = some kind) :
    isQuote c = false ∧ isBlank c = false := by
  obtain ⟨rfl, _⟩ | ⟨rfl, _⟩ := modifier?_cases sign <;> decide

theorem parse_signed (sign : modifier? c = some kind) (unbroken : Text.Unbroken v)
    (ends : ∀ d ∈ rest.head?, isBlank d = true) :
    parse (c :: (v ++ rest)) = unlessEmpty kind (Text.trimBy isQuote v) ++ parse rest := by
  have plain := plain_of_modifier? sign
  obtain ⟨taken, left⟩ : (v ++ rest).takeWhile (!isBlank ·) = v ∧
      (v ++ rest).dropWhile (!isBlank ·) = rest :=
    Text.span_exact (by simpa [Text.Unbroken] using unbroken) (by simpa using ends)
  rw [parse]
  simp [plain, sign, taken, left]

theorem parse_word (nonempty : w ≠ []) (continues : ∀ c ∈ w, continuesWord c = true)
    (unsigned : ∀ c ∈ w.head?, modifier? c = none)
    (ends : ∀ c ∈ rest.head?, continuesWord c = false) :
    parse (w ++ rest) = ofWord w :: parse rest := by
  cases w with
  | nil => exact absurd rfl nonempty
  | cons c w =>
    obtain ⟨first, further⟩ := List.forall_mem_cons.mp continues
    have plain : isBlank c = false ∧ isQuote c = false := by simpa [continuesWord] using first
    obtain ⟨taken, left⟩ := Text.span_exact further ends
    rw [List.cons_append, parse]
    simp [plain, unsigned c rfl, taken, left]

theorem unlessEmpty_of_ne (nonempty : v ≠ []) : unlessEmpty kind v = [⟨kind, v⟩] := by
  simp [unlessEmpty, nonempty]

theorem IsTerm.continues (term : IsTerm w) (member : c ∈ w) : continuesWord c = true := by
  have other : c ≠ '"' := fun same => term.unquoted (same ▸ member)
  simp [continuesWord, term.unbroken c member, isQuote, other]

theorem IsTerm.modifier?_eq_none (term : IsTerm w) (first : c ∈ w.head?) :
    modifier? c = none := by
  have begins : w.head? = some c := first
  have plus : c ≠ '+' := fun same => term.unsigned.1 (same ▸ begins)
  have minus : c ≠ '-' := fun same => term.unsigned.2 (same ▸ begins)
  rw [modifier?, if_neg plus, if_neg minus]

theorem parse_term (term : IsTerm w) (ends : ∀ c ∈ rest.head?, continuesWord c = false) :
    parse (w ++ rest) = ⟨.term, w⟩ :: parse rest := by
  rw [parse_word term.nonempty (fun _ => term.continues) (fun _ => term.modifier?_eq_none) ends,
    ofWord, Connective.ofAnyCase?_eq_none.mpr term.free]

theorem ofWord_word (connective : Connective) :
    ofWord connective.word = ⟨.operator, connective.word⟩ := by
  rw [ofWord, Connective.ofAnyCase?_word]

theorem parse_modified (sign : modifier? c = some kind) (modified : IsModified v)
    (ends : ∀ d ∈ rest.head?, isBlank d = true) :
    parse (c :: (v ++ rest)) = ⟨kind, v⟩ :: parse rest := by
  rw [parse_signed sign modified.unbroken ends, Text.trimBy_of_trimmed modified.trimmed,
    unlessEmpty_of_ne modified.nonempty]
  rfl

theorem parse_written (wellFormed : token.WellFormed)
    (ends : ∀ c ∈ rest.head?, isBlank c = true) :
    parse (token.written ++ rest) = token :: parse rest := by
  have stops : ∀ c ∈ rest.head?, continuesWord c = false := by
    intro c first
    simp [continuesWord, ends c first]
  obtain ⟨kind, value⟩ := token
  cases kind with
  | term => exact parse_term wellFormed stops
  | phrase =>
    have phrase : IsPhrase value := wellFormed
    change parse ('"' :: (value ++ ['"'] ++ rest)) = _
    rw [List.append_assoc, List.singleton_append, parse_quoted phrase.unquoted, Text.trim,
      Text.trimBy_of_trimmed phrase.trimmed, unlessEmpty_of_ne phrase.nonempty]
    rfl
  | required => exact parse_modified (c := '+') rfl wellFormed ends
  | excluded => exact parse_modified (c := '-') rfl wellFormed ends
  | operator =>
    obtain ⟨connective, _, word⟩ := wellFormed
    change value = connective.word at word
    subst word
    change parse (connective.word ++ rest) = _
    have nonempty : connective.word ≠ [] := by cases connective <;> decide
    have continues : ∀ c ∈ connective.word, continuesWord c = true :=
      List.all_eq_true.mp (by cases connective <;> decide)
    have unsigned : ∀ c ∈ connective.word.head?, modifier? c = none := by
      cases connective <;> (rintro c ⟨⟩; rfl)
    rw [parse_word nonempty continues unsigned stops, ofWord_word]

theorem further_ends (tokens : List QueryToken) :
    ∀ c ∈ (writeFurther tokens).head?, isBlank c = true := by
  intro c first
  cases tokens with
  | nil => cases first
  | cons token tokens =>
    cases first
    decide

theorem parse_further (wellFormed : ∀ token ∈ tokens, token.WellFormed) :
    parse (writeFurther tokens) = tokens := by
  induction tokens with
  | nil => exact parse_nil
  | cons token tokens ih =>
    obtain ⟨first, others⟩ := List.forall_mem_cons.mp wellFormed
    rw [writeFurther, List.flatMap_cons, List.cons_append, parse_blank (by decide)]
    change parse (token.written ++ writeFurther tokens) = _
    rw [parse_written first (further_ends tokens), ih others]

theorem write_cons (token : QueryToken) (tokens : List QueryToken) :
    write (token :: tokens) = token.written ++ writeFurther tokens := by
  rw [write, List.map_cons, Text.join_cons, List.flatMap_map]
  rfl

theorem parse_write (wellFormed : ∀ token ∈ tokens, token.WellFormed) :
    parse (write tokens) = tokens := by
  cases tokens with
  | nil => exact parse_nil
  | cons token tokens =>
    obtain ⟨first, others⟩ := List.forall_mem_cons.mp wellFormed
    rw [write_cons, parse_written first (further_ends tokens), parse_further others]

theorem mem_unlessEmpty : token ∈ unlessEmpty kind v ↔ v ≠ [] ∧ token = ⟨kind, v⟩ := by
  cases v <;> simp [unlessEmpty]

theorem wellFormed_of_mem_unlessEmpty (each : v ≠ [] → WellFormed ⟨kind, v⟩)
    (member : token ∈ unlessEmpty kind v) : token.WellFormed := by
  obtain ⟨nonempty, rfl⟩ := mem_unlessEmpty.mp member
  exact each nonempty

theorem isPhrase_trim (closed : '"' ∉ v) (nonempty : Text.trim v ≠ []) :
    IsPhrase (Text.trim v) where
  nonempty := nonempty
  trimmed := Text.trimmed_trimBy isBlank v
  unquoted := fun quote => closed ((Text.trimBy_within isBlank v).subset quote)

theorem isModified_trimBy (unbroken : Text.Unbroken v)
    (nonempty : Text.trimBy isQuote v ≠ []) : IsModified (Text.trimBy isQuote v) where
  nonempty := nonempty
  unbroken := fun c member => unbroken c ((Text.trimBy_within isQuote v).subset member)
  trimmed := Text.trimmed_trimBy isQuote v

theorem wellFormed_ofWord (nonempty : w ≠ []) (continues : ∀ c ∈ w, continuesWord c = true)
    (unsigned : ∀ c ∈ w.head?, modifier? c = none) : (ofWord w).WellFormed := by
  unfold ofWord
  split
  next connective _ => exact ⟨connective, Connective.mem_all connective, rfl⟩
  next free =>
    refine ⟨nonempty, ?_, ?_, ?_, Connective.ofAnyCase?_eq_none.mp free⟩
    · intro c member
      have solid : isBlank c = false ∧ isQuote c = false := by
        simpa [continuesWord] using continues c member
      exact solid.1
    · intro quote
      exact absurd (continues _ quote) (by decide)
    · constructor
      · intro plus
        exact absurd (unsigned _ plus) (by decide)
      · intro minus
        exact absurd (unsigned _ minus) (by decide)

theorem parse_induction {motive : Text → Prop} (nil : motive [])
    (phrase : ∀ c rest, isQuote c = true → motive ((rest.dropWhile (!isQuote ·)).drop 1) →
      motive (c :: rest))
    (blank : ∀ c rest, ¬isQuote c = true → isBlank c = true → motive rest → motive (c :: rest))
    (modified : ∀ c rest, ¬isQuote c = true → ¬isBlank c = true → ∀ kind,
      modifier? c = some kind → motive (rest.dropWhile (!isBlank ·)) → motive (c :: rest))
    (word : ∀ c rest, ¬isQuote c = true → ¬isBlank c = true → modifier? c = none →
      motive (rest.dropWhile continuesWord) → motive (c :: rest)) (t : Text) : motive t :=
  parse.induct motive nil phrase blank modified word t

theorem wellFormed_of_mem_parse {t : Text} (member : token ∈ parse t) : token.WellFormed := by
  induction t using parse_induction with
  | nil =>
    rw [parse_nil] at member
    cases member
  | phrase c rest quote ih =>
    rw [parse, if_pos quote] at member
    rcases List.mem_append.mp member with here | later
    · apply wellFormed_of_mem_unlessEmpty _ here
      apply isPhrase_trim
      intro inside
      exact absurd (List.mem_takeWhile_imp inside) (by decide)
    · exact ih later
  | blank c rest quote blank ih =>
    rw [parse, if_neg quote, if_pos blank] at member
    exact ih member
  | modified c rest quote blank kind sign ih =>
    rw [parse, if_neg quote, if_neg blank, sign] at member
    rcases List.mem_append.mp member with here | later
    · apply wellFormed_of_mem_unlessEmpty _ here
      intro nonempty
      have unbroken : Text.Unbroken (rest.takeWhile (!isBlank ·)) := by
        intro d inside
        simpa using List.mem_takeWhile_imp inside
      obtain ⟨_, rfl⟩ | ⟨_, rfl⟩ := modifier?_cases sign
      · exact isModified_trimBy unbroken nonempty
      · exact isModified_trimBy unbroken nonempty
    · exact ih later
  | word c rest quote blank sign ih =>
    rw [parse, if_neg quote, if_neg blank, sign] at member
    rcases List.mem_cons.mp member with rfl | later
    · apply wellFormed_ofWord (List.cons_ne_nil _ _)
      · refine List.forall_mem_cons.mpr ⟨?_, fun d => List.mem_takeWhile_imp⟩
        simp [continuesWord, quote, blank]
      · rintro d ⟨⟩
        exact sign
    · exact ih later

/-- A list of tokens is read back from what is written for it, one by one and none leaving a trace
in what is read behind it, exactly if the tokens are well formed. -/
theorem parse_write_iff (tokens : List QueryToken) :
    parse (write tokens) = tokens ↔ ∀ token ∈ tokens, token.WellFormed := by
  constructor
  · intro same token member
    rw [← same] at member
    exact wellFormed_of_mem_parse member
  · exact parse_write

def mixedQuery : List QueryToken :=
  [⟨.term, "state-of-art".toList⟩, ⟨.operator, "NOT".toList⟩, ⟨.phrase, "not +a  -b".toList⟩,
    ⟨.required, "+o\"neil".toList⟩, ⟨.excluded, "or".toList⟩, ⟨.term, "android".toList⟩]

theorem mixed_query_read_back :
    (∀ token ∈ mixedQuery, token.WellFormed) ∧ parse (write mixedQuery) = mixedQuery :=
  have wellFormed : ∀ token ∈ mixedQuery, token.WellFormed := by decide +kernel
  ⟨wellFormed, (parse_write_iff mixedQuery).mpr wellFormed⟩

end Reading
end QueryToken
end Concordance
