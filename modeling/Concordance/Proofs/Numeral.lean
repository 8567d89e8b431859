import Concordance.Number.Reading
import Concordance.Number.Text
import Concordance.Text.Quoted
import Mathlib.Algebra.Group.Nat.Defs

/-! Digits and what they stand for. Numerals are read back by adding up their digits, so different
numbers have different numerals, decimal or hexadecimal. -/
namespace Concordance.Text

theorem digitsValue_eq_ofDigitChars (digits : Text) :
    digitsValue digits = Nat.ofDigitChars 10 digits 0 := rfl

theorem digitsValue_ofNat (n : Nat) : digitsValue (ofNat n) = n := Nat.ofDigitChars_ten_toDigits

theorem digitsValue_append (s t : Text) :
    digitsValue (s ++ t) = digitsValue s * 10 ^ t.length + digitsValue t := by
  rw [digitsValue_eq_ofDigitChars, Nat.ofDigitChars_append, Nat.ofDigitChars_eq_ofDigitChars_zero,
    Nat.mul_comm]
  rfl

theorem digitsValue_zeros (n : Nat) : digitsValue (NumberLayout.zeros n) = 0 := by
  simp [digitsValue_eq_ofDigitChars, NumberLayout.zeros]

theorem isDigit_of_mem_ofNat {c : Char} {n : Nat} (member : c ∈ ofNat n) : c.isDigit = true :=
  Nat.isDigit_of_mem_toDigits (by decide) (by decide) member

theorem isDigit_of_mem_zeros {c : Char} {n : Nat} (member : c ∈ NumberLayout.zeros n) :
    c.isDigit = true := by
  obtain ⟨_, rfl⟩ := List.mem_replicate.mp member
  rfl

theorem ofNat_ne_nil (n : Nat) : ofNat n ≠ [] := Nat.toDigits_ne_nil

theorem ofNat_injective {m n : Nat} (same : ofNat m = ofNat n) : m = n := by
  rw [← digitsValue_ofNat m, same, digitsValue_ofNat]

theorem lt_pow_length_ofNat (n : Nat) : n < 10 ^ (ofNat n).length :=
  (Nat.length_toDigits_le_iff (by decide) Nat.length_toDigits_pos).mp (Nat.le_refl _)

theorem pow_length_ofNat_le {n : Nat} (positive : 0 < n) : 10 ^ ((ofNat n).length - 1) ≤ n := by
  rcases Nat.eq_zero_or_pos ((ofNat n).length - 1) with single | several
  · rw [single]
    exact positive
  · refine Nat.le_of_not_lt fun less => ?_
    have short := (Nat.length_toDigits_le_iff (by decide) several).mpr less
    simp only [ofNat] at short several
    omega

theorem ofInt_injective {m n : Int} (same : ofInt m = ofInt n) : m = n := by
  have unsigned {k : Nat} : '-' ∉ ofNat k := fun member => by
    simpa using isDigit_of_mem_ofNat member
  cases m with
  | ofNat m =>
    cases n with
    | ofNat n => exact congrArg Int.ofNat (ofNat_injective same)
    | negSucc n =>
      simp only [ofInt] at same
      exact absurd (same ▸ List.mem_cons_self) unsigned
  | negSucc m =>
    cases n with
    | ofNat n =>
      simp only [ofInt] at same
      exact absurd (same ▸ List.mem_cons_self) unsigned
    | negSucc n =>
      simp only [ofInt, List.cons.injEq, true_and] at same
      rw [Nat.succ.inj (ofNat_injective same)]

def hexDigitValue (c : Char) : Nat := if c.isDigit then c.toNat - 48 else c.toNat - 87

def hexValue (digits : Text) : Nat :=
  digits.foldl (fun value c => 16 * value + hexDigitValue c) 0

theorem hexDigitValue_digitChar {n : Nat} (bound : n < 16) :
    hexDigitValue (Nat.digitChar n) = n := by
  decide +revert

theorem hexValue_toDigits (n : Nat) : hexValue (Nat.toDigits 16 n) = n := by
  induction n using Nat.base_induction 16 (by decide) with
  | single m bound =>
    rw [Nat.toDigits_of_lt_base bound]
    simp [hexValue, hexDigitValue_digitChar bound]
  | digit m k bound positive ih =>
    rw [← Nat.toDigits_append_toDigits (by decide) positive bound, Nat.toDigits_of_lt_base bound]
    simp only [hexValue, List.foldl_append, List.foldl_cons, List.foldl_nil,
      hexDigitValue_digitChar bound] at ih ⊢
    rw [ih]

theorem hexValue_hexDigits (width n : Nat) : hexValue (hexDigits width n) = n := by
  have leading (k : Nat) : (List.replicate k '0').foldl
      (fun value c => 16 * value + hexDigitValue c) 0 = 0 := by
    induction k with
    | zero => rfl
    | succ k ih => simpa [List.replicate_succ, hexDigitValue] using ih
  simp only [hexDigits, hexValue, List.foldl_append, leading]
  exact hexValue_toDigits n

theorem length_hexDigits {width n : Nat} (positive : 0 < width) (bound : n < 16 ^ width) :
    (hexDigits width n).length = width := by
  have short := (Nat.length_toDigits_le_iff (by decide) positive).mpr bound
  simp only [hexDigits, List.length_append, List.length_replicate]
  omega

end Concordance.Text
