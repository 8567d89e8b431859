import Concordance.Proofs.QueryNotation
import Mathlib.Data.List.Forall2

/-! Reading loses nothing of a query. Blanks, quotes and signs may only divide a query into tokens;
all other characters of it stand in the values of its tokens, each once and in its order. Only the
letters of operator words are put into capitals. -/
namespace Concordance.QueryToken
open Unicode

def isSubstance (c : Char) : Bool := !isBlank c && !isQuote c && c != '+' && c != '-'

def substance (t : Text) : Text := t.filter isSubstance

/-- Whether a text is how a token's value stands in a query: an operator in letters of any case,
every other value as it is. -/
def SpelledAs (token : QueryToken) (spelling : Text) : Prop :=
  match token.kind with
  | .operator => spelling.map Char.toUpper = token.value
  | _ => spelling = token.value

def Conveys (tokens : List QueryToken) (t : Text) : Prop :=
  ∃ spellings, List.Forall₂ SpelledAs tokens spellings ∧
    substance t = substance spellings.flatten

section Substance
variable {c : Char} {p : Char → Bool} {t : Text}

theorem substance_append (t u : Text) : substance (t ++ u) = substance t ++ substance u :=
  List.filter_append t u

theorem substance_cons_of_void (void : isSubstance c = false) (t : Text) :
    substance (c :: t) = substance t :=
  List.filter_cons_of_neg (by simp [void])

theorem substance_dropWhile (void : ∀ c, p c = true → isSubstance c = false) (t : Text) :
    substance (t.dropWhile p) = substance t := by
  induction t with
  | nil => rfl
  | cons c t ih =>
    cases test : p c with
    | true => rw [List.dropWhile_cons_of_pos test, ih, substance_cons_of_void (void c test)]
    | false => rw [List.dropWhile_cons_of_neg (by simp [test])]

theorem substance_trimBy (void : ∀ c, p c = true → isSubstance c = false) (t : Text) :
    substance (Text.trimBy p t) = substance t := by
  have back : substance ((t.dropWhile p).reverse.dropWhile p) = (substance t).reverse := by
    rw [substance_dropWhile void, substance, List.filter_reverse, ← substance,
      substance_dropWhile void]
  rw [Text.trimBy, substance, List.filter_reverse, ← substance, back, List.reverse_reverse]

theorem substance_split (p : Char → Bool) (t : Text) :
    substance t = substance (t.takeWhile p) ++ substance (t.dropWhile p) := by
  rw [← substance_append, List.takeWhile_append_dropWhile]

theorem void_of_isQuote (quote : isQuote c = true) : isSubstance c = false := by
  simp [isSubstance, quote]

theorem void_of_isBlank (blank : isBlank c = true) : isSubstance c = false := by
  simp [isSubstance, blank]

theorem void_of_modifier {kind : TokenKind} (sign : modifier? c = some kind) :
    isSubstance c = false := by
  obtain ⟨rfl, _⟩ | ⟨rfl, _⟩ := modifier?_cases sign <;> decide

theorem substance_behind_phrase (t : Text) :
    substance ((t.dropWhile (!isQuote ·)).drop 1) = substance (t.dropWhile (!isQuote ·)) := by
  cases left : t.dropWhile (!isQuote ·) with
  | nil => rfl
  | cons c rest =>
    have first : c ∈ (t.dropWhile (!isQuote ·)).head? := by simp [left]
    have quote : isQuote c = true := by simpa using Text.head?_dropWhile first
    rw [List.drop_one, List.tail_cons, substance_cons_of_void (void_of_isQuote quote)]

end Substance

section Conveyed
variable {tokens others : List QueryToken} {t u : Text}

theorem Conveys.append (first : Conveys tokens t) (second : Conveys others u) :
    Conveys (tokens ++ others) (t ++ u) := by
  obtain ⟨spellings, spelled, same⟩ := first
  obtain ⟨further, respelled, agree⟩ := second
  refine ⟨spellings ++ further, List.rel_append spelled respelled, ?_⟩
  rw [substance_append, same, agree, List.flatten_append, substance_append]

theorem Conveys.congr (conveys : Conveys tokens t) (same : substance u = substance t) :
    Conveys tokens u := by
  obtain ⟨spellings, spelled, agree⟩ := conveys
  exact ⟨spellings, spelled, same.trans agree⟩

theorem conveys_nil : Conveys [] [] := ⟨[], .nil, rfl⟩

theorem conveys_unlessEmpty {kind : TokenKind} (other : kind ≠ .operator) (value : Text) :
    Conveys (unlessEmpty kind value) value := by
  unfold unlessEmpty
  split
  next empty =>
    rw [List.isEmpty_iff.mp empty]
    exact conveys_nil
  next =>
    have spelled : SpelledAs ⟨kind, value⟩ value := by
      cases kind with
      | operator => exact absurd rfl other
      | _ => rfl
    exact ⟨[value], .cons spelled .nil, by simp⟩

theorem conveys_ofWord (w : Text) : Conveys [ofWord w] w := by
  have spelled : SpelledAs (ofWord w) w := by
    unfold ofWord
    split
    next connective found => exact Connective.ofWord?_eq_some.mp found
    next => rfl
  exact ⟨[w], .cons spelled .nil, by simp⟩

end Conveyed

/-- Every query is conveyed by the tokens it is read as: nothing but blanks, quotes and signs is
lost, nothing is read twice or out of its order. -/
theorem parse_conveys (query : Text) : Conveys (parse query) query := by
  induction query using parse_induction with
  | nil =>
    rw [parse_nil]
    exact conveys_nil
  | phrase c rest quote ih =>
    rw [parse, if_pos quote]
    have value (v : Text) : Conveys (unlessEmpty .phrase v) v := conveys_unlessEmpty (by decide) v
    apply ((value _).append ih).congr
    rw [substance_cons_of_void (void_of_isQuote quote), substance_append, Text.trim,
      substance_trimBy fun _ => void_of_isBlank, substance_behind_phrase, ← substance_split]
  | blank c rest quote blank ih =>
    rw [parse, if_neg quote, if_pos blank]
    exact ih.congr (substance_cons_of_void (void_of_isBlank blank) rest)
  | modified c rest quote blank kind sign ih =>
    rw [parse, if_neg quote, if_neg blank, sign]
    have other : kind ≠ .operator := by
      obtain ⟨_, rfl⟩ | ⟨_, rfl⟩ := modifier?_cases sign <;> decide
    apply ((conveys_unlessEmpty other _).append ih).congr
    rw [substance_cons_of_void (void_of_modifier sign), substance_append,
      substance_trimBy fun _ => void_of_isQuote, ← substance_split]
  | word c rest quote blank sign ih =>
    rw [parse, if_neg quote, if_neg blank, sign]
    apply ((conveys_ofWord _).append ih).congr
    rw [List.cons_append, List.takeWhile_append_dropWhile]

end Concordance.QueryToken
