import Concordance.Proofs.Numeral

/-! Quoted texts can be told apart. A character inside quotes is read back from what it is written
as, and none begins with the quote that ends the text, so what stands before the end and what
follows it are known. -/
namespace Concordance.Text
variable {quote c : Char} {a b r s : Text}

def unquoteChar : Text → Option (Char × Text)
  | [] => none
  | '\\' :: mark :: rest =>
    if mark = 't' then some ('\t', rest)
    else if mark = 'n' then some ('\n', rest)
    else if mark = 'r' then some ('\r', rest)
    else if mark = 'x' then some (Char.ofNat (hexValue (rest.take 2)), rest.drop 2)
    else if mark = 'u' then some (Char.ofNat (hexValue (rest.take 4)), rest.drop 4)
    else if mark = 'U' then some (Char.ofNat (hexValue (rest.take 8)), rest.drop 8)
    else some (mark, rest)
  | c :: rest => some (c, rest)

def isQuote (c : Char) : Bool := c = '\'' || c = '"'

theorem isQuote_quoteFor (t : Text) : isQuote (quoteFor t) = true := by
  unfold quoteFor
  split <;> rfl

theorem hexDigits_append (width : Nat) {n : Nat} (positive : 0 < width) (bound : n < 16 ^ width)
    (r : Text) : (hexDigits width n ++ r).take width = hexDigits width n ∧
      (hexDigits width n ++ r).drop width = r := by
  have exact := length_hexDigits positive bound
  exact ⟨List.take_left' exact, List.drop_left' exact⟩

theorem ofNat_hexValue_hexDigits (c : Char) (width : Nat) :
    Char.ofNat (hexValue (hexDigits width c.toNat)) = c := by
  rw [hexValue_hexDigits, Char.ofNat_toNat]

theorem unquoteChar_quoteChar (ends : isQuote quote = true) (c : Char) (r : Text) :
    unquoteChar (quoteChar quote c ++ r) = some (c, r) := by
  simp only [isQuote, Bool.or_eq_true, decide_eq_true_eq] at ends
  unfold quoteChar
  split
  next escaped =>
    simp only [Bool.or_eq_true, decide_eq_true_eq] at escaped
    rcases escaped with rfl | rfl
    · rcases ends with rfl | rfl <;> rfl
    · rfl
  next plain =>
    simp only [Bool.or_eq_true, decide_eq_true_eq, not_or] at plain
    split
    next tab => subst tab; rfl
    split
    next newline => subst newline; rfl
    split
    next feed => subst feed; rfl
    split
    · simp [unquoteChar, plain.2]
    split
    next narrow =>
      obtain ⟨digits, rest⟩ := hexDigits_append 2 (by decide) narrow r
      simp [unquoteChar, digits, rest, ofNat_hexValue_hexDigits]
    split
    next medium =>
      obtain ⟨digits, rest⟩ := hexDigits_append 4 (by decide) medium r
      simp [unquoteChar, digits, rest, ofNat_hexValue_hexDigits]
    · have wide : c.toNat < 16 ^ 8 := Nat.lt_of_lt_of_le c.val.toNat_lt (by decide)
      obtain ⟨digits, rest⟩ := hexDigits_append 8 (by decide) wide r
      simp [unquoteChar, digits, rest, ofNat_hexValue_hexDigits]

theorem quoteChar_head (ends : isQuote quote = true) (c : Char) (r : Text) :
    (quoteChar quote c ++ r).head? ≠ some quote := by
  have apart : '\\' ≠ quote := by
    rintro rfl
    exact absurd ends (by decide)
  unfold quoteChar
  split
  · simpa using apart
  next plain =>
    simp only [Bool.or_eq_true, decide_eq_true_eq, not_or] at plain
    repeat' split
    all_goals simp [apart, plain.1]

theorem quoteChars_append_inj (ends : isQuote quote = true)
    (same : a.flatMap (quoteChar quote) ++ quote :: r =
      b.flatMap (quoteChar quote) ++ quote :: s) : a = b ∧ r = s := by
  induction a generalizing b with
  | nil =>
    cases b with
    | nil => exact ⟨rfl, (List.cons.inj same).2⟩
    | cons d b =>
      rw [List.flatMap_cons, List.append_assoc] at same
      exact absurd (congrArg List.head? same.symm) (quoteChar_head ends d _)
  | cons c a ih =>
    cases b with
    | nil =>
      rw [List.flatMap_cons, List.append_assoc] at same
      exact absurd (congrArg List.head? same) (quoteChar_head ends c _)
    | cons d b =>
      simp only [List.flatMap_cons, List.append_assoc] at same
      have read := unquoteChar_quoteChar ends c (a.flatMap (quoteChar quote) ++ quote :: r)
      rw [same, unquoteChar_quoteChar ends d] at read
      obtain ⟨rfl, rest⟩ := Prod.mk.inj (Option.some.inj read)
      obtain ⟨rfl, rfl⟩ := ih rest.symm
      exact ⟨rfl, rfl⟩

theorem quoted_append_inj (same : quoted a ++ r = quoted b ++ s) : a = b ∧ r = s := by
  simp only [quoted, List.cons_append, List.append_assoc, List.cons.injEq] at same
  obtain ⟨quotes, same⟩ := same
  rw [← quotes] at same
  exact quoteChars_append_inj (isQuote_quoteFor a) same

end Concordance.Text
