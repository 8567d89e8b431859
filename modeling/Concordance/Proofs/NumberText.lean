import Concordance.Proofs.ShortestDecimal

/-! Written numbers are read back. Wherever a layout puts the point and whether it writes an
exponent, the digits it writes stand for the decimal it was given, and the shortest decimal of a
number is read as the number. -/
namespace Concordance
variable {whole places power : Text}

namespace Text

theorem takeWhile_digits (rest : Text) (digits : ∀ c ∈ whole, c.isDigit = true)
    (ends : rest.head?.all (!·.isDigit) = true) :
    (whole ++ rest).takeWhile Char.isDigit = whole ∧
      (whole ++ rest).dropWhile Char.isDigit = rest :=
  span_exact digits (by simpa [Option.all_eq_true] using ends)

end Text

namespace Binary64

inductive Numeral (layout : NumberLayout) (v : ℚ) : Text → Prop
  | point (whole places : Text) (some : whole ≠ [])
    (digits : ∀ c ∈ whole ++ places, c.isDigit = true)
    (value : decimalQuanta (Text.digitsValue (whole ++ places)) (-(places.length : Int)) = v) :
    Numeral layout v (whole ++ '.' :: places)
  | exponent (whole places : Text) (exponent : Int) (some : whole ≠ [])
    (digits : ∀ c ∈ whole ++ places, c.isDigit = true)
    (value : decimalQuanta (Text.digitsValue (whole ++ places)) (exponent - places.length) = v) :
    Numeral layout v (whole ++ '.' :: (places ++ layout.writeExponent exponent))
  | bareExponent (whole : Text) (exponent : Int) (some : whole ≠ [])
    (digits : ∀ c ∈ whole, c.isDigit = true)
    (value : decimalQuanta (Text.digitsValue whole) exponent = v) :
    Numeral layout v (whole ++ layout.writeExponent exponent)

theorem readDigits?_point (negative : Bool) (some : whole ≠ [])
    (digits : ∀ c ∈ whole ++ places, c.isDigit = true) :
    readDigits? negative (whole ++ '.' :: places) =
      .some (ofDecimal negative (Text.digitsValue (whole ++ places)) (-(places.length : Int))) := by
  obtain ⟨first, second⟩ := List.forall_mem_append.mp digits
  obtain ⟨taken, dropped⟩ := Text.takeWhile_digits ('.' :: places) first rfl
  obtain ⟨behind, rest⟩ := Text.takeWhile_digits [] second rfl
  rw [List.append_nil] at behind rest
  unfold readDigits?
  simp [taken, dropped, behind, rest, some]

theorem writeExponent_eq (layout : NumberLayout) (exponent : Int) :
    ∃ power, layout.writeExponent exponent = 'e' :: (if exponent < 0 then '-' else '+') :: power ∧
      power ≠ [] ∧ (∀ c ∈ power, c.isDigit = true) ∧
      Text.digitsValue power = exponent.natAbs := by
  refine ⟨_, rfl, ?_, ?_, ?_⟩
  · simp [Text.ofNat_ne_nil]
  · exact List.forall_mem_append.mpr
      ⟨fun _ => Text.isDigit_of_mem_zeros, fun _ => Text.isDigit_of_mem_ofNat⟩
  · rw [Text.digitsValue_append, Text.digitsValue_zeros, Nat.zero_mul, Nat.zero_add,
      Text.digitsValue_ofNat]

theorem takeSign_sign (exponent : Int) (power : Text) :
    Text.takeSign ((if exponent < 0 then '-' else '+') :: power) =
      (decide (exponent < 0), power) := by
  split <;> simp [Text.takeSign, *]

theorem readDigits?_exponent (negative : Bool) (layout : NumberLayout) (exponent : Int)
    (some : whole ≠ []) (digits : ∀ c ∈ whole ++ places, c.isDigit = true) :
    readDigits? negative (whole ++ '.' :: (places ++ layout.writeExponent exponent)) =
      .some (ofDecimal negative (Text.digitsValue (whole ++ places))
        (exponent - places.length)) := by
  obtain ⟨power, written, nonempty, digital, value⟩ := writeExponent_eq layout exponent
  obtain ⟨first, second⟩ := List.forall_mem_append.mp digits
  obtain ⟨taken, dropped⟩ := Text.takeWhile_digits
    ('.' :: (places ++ layout.writeExponent exponent)) first rfl
  obtain ⟨behind, rest⟩ := Text.takeWhile_digits (layout.writeExponent exponent) second rfl
  have all : power.all Char.isDigit = true := List.all_eq_true.mpr digital
  unfold readDigits?
  simp only [taken, dropped, behind, rest]
  rw [written]
  simp [takeSign_sign, some, nonempty, all, value, signed_natAbs]

theorem readDigits?_bareExponent (negative : Bool) (layout : NumberLayout) (exponent : Int)
    (some : whole ≠ []) (digits : ∀ c ∈ whole, c.isDigit = true) :
    readDigits? negative (whole ++ layout.writeExponent exponent) =
      .some (ofDecimal negative (Text.digitsValue whole) exponent) := by
  obtain ⟨power, written, nonempty, digital, value⟩ := writeExponent_eq layout exponent
  obtain ⟨taken, dropped⟩ := Text.takeWhile_digits
    (layout.writeExponent exponent) digits rfl
  have all : power.all Char.isDigit = true := List.all_eq_true.mpr digital
  unfold readDigits?
  simp only [taken, dropped]
  rw [written]
  simp [takeSign_sign, some, nonempty, all, value, signed_natAbs]

section Layout
variable {layout : NumberLayout} {written : Text} {exponent : Int} {m : Nat}

theorem numeral_scientific : (∀ c ∈ written, c.isDigit = true) → written ≠ [] →
    Numeral layout (decimalQuanta (Text.digitsValue written) exponent)
      ((match written with
        | first :: second :: rest => first :: '.' :: second :: rest
        | one => one) ++ layout.writeExponent (exponent + written.length - 1)) := by
  intro digital nonempty
  obtain ⟨first, rest, rfl⟩ := List.exists_cons_of_ne_nil nonempty
  cases rest with
  | nil =>
    refine .bareExponent [first] _ (by simp) digital ?_
    rw [List.length_singleton, Nat.cast_one, add_sub_cancel_right]
  | cons second rest =>
    refine .exponent [first] (second :: rest) _ (by simp) digital ?_
    rw [List.singleton_append]
    congr 1
    simp only [List.length_cons]
    omega

theorem numeral_below (digital : ∀ c ∈ written, c.isDigit = true)
    (below : exponent + written.length - 1 < 0) :
    Numeral layout (decimalQuanta (Text.digitsValue written) exponent)
      ('0' :: '.' ::
        (NumberLayout.zeros (-(exponent + written.length - 1) - 1).toNat ++ written)) := by
  refine .point ['0'] _ (by simp) ?_ ?_
  · intro c member
    simp only [List.mem_append, List.mem_singleton] at member
    rcases member with rfl | member | member
    · rfl
    · exact Text.isDigit_of_mem_zeros member
    · exact digital c member
  · have zero : Text.digitsValue ['0'] = 0 := rfl
    rw [Text.digitsValue_append, Text.digitsValue_append, Text.digitsValue_zeros, zero,
      Nat.zero_mul, Nat.zero_mul, Nat.zero_add, Nat.zero_add]
    congr 1
    simp only [List.length_append, NumberLayout.zeros, List.length_replicate]
    omega

theorem numeral_inside (digital : ∀ c ∈ written, c.isDigit = true)
    (place : (m : Int) = exponent + written.length) (positive : 0 < m)
    (inside : m < written.length) :
    Numeral layout (decimalQuanta (Text.digitsValue written) exponent)
      (written.take m ++ '.' :: written.drop m) := by
  have some : written.take m ≠ [] := by
    intro none
    have empty := congrArg List.length none
    rw [List.length_take, List.length_nil] at empty
    omega
  refine .point (written.take m) (written.drop m) some ?_ ?_
  · rwa [List.take_append_drop]
  · rw [List.take_append_drop]
    congr 1
    rw [List.length_drop]
    omega

theorem numeral_behind (digital : ∀ c ∈ written, c.isDigit = true) (nonempty : written ≠ [])
    (place : (m : Int) = exponent + written.length) (behind : written.length ≤ m) :
    Numeral layout (decimalQuanta (Text.digitsValue written) exponent)
      (written ++ NumberLayout.zeros (m - written.length) ++ '.' :: ['0']) := by
  refine .point _ ['0'] (List.append_ne_nil_of_left_ne_nil nonempty _) ?_ ?_
  · intro c member
    simp only [List.mem_append, List.mem_singleton] at member
    rcases member with (member | member) | rfl
    · exact digital c member
    · exact Text.isDigit_of_mem_zeros member
    · rfl
  · have zero : Text.digitsValue ['0'] = 0 := rfl
    rw [Text.digitsValue_append, Text.digitsValue_append, Text.digitsValue_zeros, zero,
      Nat.add_zero, Nat.add_zero, Nat.mul_assoc, ← Nat.pow_add, decimalQuanta_shift]
    congr 1
    simp only [NumberLayout.zeros, List.length_replicate, List.length_singleton]
    omega

theorem write_numeral (layout : NumberLayout) (d : Decimal) :
    Numeral layout (decimalQuanta d.digits d.exponent) (layout.write d) := by
  have digital : ∀ c ∈ Text.ofNat d.digits, c.isDigit = true := fun _ => Text.isDigit_of_mem_ofNat
  have value := Text.digitsValue_ofNat d.digits
  have nonempty := Text.ofNat_ne_nil d.digits
  unfold NumberLayout.write
  dsimp only
  generalize Text.ofNat d.digits = written at *
  rw [← value]
  split
  next => exact numeral_scientific digital nonempty
  split
  next below =>
    exact numeral_below digital below
  next above =>
    have place : ((d.exponent + written.length - 1 + 1).toNat : Int) =
        d.exponent + written.length := by omega
    generalize (d.exponent + written.length - 1 + 1).toNat = m at place
    rcases Nat.lt_or_ge m written.length with inside | behind
    · have places : (written.drop m).isEmpty = false := by simpa using inside
      rw [places, Nat.sub_eq_zero_of_le (Nat.le_of_lt inside)]
      simpa [NumberLayout.zeros] using numeral_inside digital place (by omega) inside
    · have places : (written.drop m).isEmpty = true := by simpa using behind
      rw [places, List.take_of_length_le behind, if_pos rfl]
      exact numeral_behind digital nonempty place behind

end Layout

namespace Numeral
variable {layout : NumberLayout} {v : ℚ} {t : Text}

theorem read (numeral : Numeral layout v t) (negative : Bool) :
    ∃ digits exponent, readDigits? negative t = some (ofDecimal negative digits exponent) ∧
      decimalQuanta digits exponent = v := by
  cases numeral with
  | point whole places some digits value =>
    exact ⟨_, _, readDigits?_point negative some digits, value⟩
  | exponent whole places exponent some digits value =>
    exact ⟨_, _, readDigits?_exponent negative layout exponent some digits, value⟩
  | bareExponent whole exponent some digits value =>
    exact ⟨_, _, readDigits?_bareExponent negative layout exponent some digits, value⟩

theorem head (numeral : Numeral layout v t) : ∃ c rest, t = c :: rest ∧ c.isDigit = true := by
  have first {whole : Text} (some : whole ≠ []) (digits : ∀ c ∈ whole, c.isDigit = true)
      (tail : Text) : ∃ c rest, whole ++ tail = c :: rest ∧ c.isDigit = true := by
    obtain ⟨c, rest, rfl⟩ := List.exists_cons_of_ne_nil some
    exact ⟨c, rest ++ tail, rfl, digits c List.mem_cons_self⟩
  cases numeral with
  | point whole places some digits => exact first some (List.forall_mem_append.mp digits).1 _
  | exponent whole places _ some digits => exact first some (List.forall_mem_append.mp digits).1 _
  | bareExponent whole _ some digits => exact first some digits _

end Numeral

theorem readDigits?_shortest {quanta : Nat} (negative : Bool) (layout : NumberLayout)
    (representable : Representable quanta) (positive : 0 < quanta) :
    readDigits? negative (layout.write (shortest quanta)) = some (finite negative quanta) := by
  obtain ⟨digits, exponent, read, same⟩ := (write_numeral layout (shortest quanta)).read negative
  rw [read, ofDecimal_of_rounds negative representable positive]
  rw [same]
  exact shortest_rounds positive representable.1

def IsDouble : Binary64 → Prop
  | finite _ quanta => Representable quanta
  | _ => True

def isNumeric (c : Char) : Bool := c.isDigit || ".e+-infa".toList.contains c

theorem isNumeric_of_isDigit {c : Char} (digit : c.isDigit = true) : isNumeric c = true := by
  simp [isNumeric, digit]

theorem mem_writeExponent {layout : NumberLayout} {c : Char} {exponent : Int}
    (member : c ∈ layout.writeExponent exponent) : isNumeric c = true := by
  obtain ⟨power, written, _, digital, _⟩ := writeExponent_eq layout exponent
  rw [written, List.mem_cons, List.mem_cons] at member
  rcases member with rfl | rfl | member
  · rfl
  · split <;> rfl
  · exact isNumeric_of_isDigit (digital c member)

theorem Numeral.characters {layout : NumberLayout} {v : ℚ} {t : Text}
    (numeral : Numeral layout v t) :
    (∀ c ∈ t, isNumeric c = true) ∧ ('.' ∈ t ∨ 'e' ∈ t) := by
  cases numeral with
  | point whole places _ digits =>
    refine ⟨fun c member => ?_, .inl (by simp)⟩
    simp only [List.mem_append, List.mem_cons] at member digits
    rcases member with member | rfl | member
    · exact isNumeric_of_isDigit (digits c (.inl member))
    · rfl
    · exact isNumeric_of_isDigit (digits c (.inr member))
  | exponent whole places exponent _ digits =>
    refine ⟨fun c member => ?_, .inl (by simp)⟩
    simp only [List.mem_append, List.mem_cons] at member digits
    rcases member with member | rfl | member | member
    · exact isNumeric_of_isDigit (digits c (.inl member))
    · rfl
    · exact isNumeric_of_isDigit (digits c (.inr member))
    · exact mem_writeExponent member
  | bareExponent whole exponent _ digits =>
    refine ⟨fun c member => ?_, .inr (by simp [NumberLayout.writeExponent])⟩
    rcases List.mem_append.mp member with member | member
    · exact isNumeric_of_isDigit (digits c member)
    · exact mem_writeExponent member

theorem writeFinite_eq (layout : NumberLayout) (negative : Bool) (quanta : Nat) :
    ∃ v body, layout.writeFinite negative quanta = (if negative then '-' :: body else body) ∧
      Numeral layout v body ∧ (Representable quanta →
        readDigits? negative body = some (finite negative quanta)) := by
  rcases Nat.eq_zero_or_pos quanta with rfl | positive
  · have digits : ∀ c ∈ ['0'] ++ ['0'], c.isDigit = true := List.all_eq_true.mp (by decide)
    refine ⟨_, ['0', '.', '0'], rfl, .point ['0'] ['0'] (by simp) digits rfl, fun _ => ?_⟩
    cases negative <;> decide
  · refine ⟨_, layout.write (shortest quanta), ?_, write_numeral _ _,
      fun representable => readDigits?_shortest negative layout representable positive⟩
    rw [NumberLayout.writeFinite, if_neg (Nat.ne_of_gt positive)]

theorem text_characters (x : Binary64) :
    (∀ c ∈ x.text, isNumeric c = true) ∧ ('.' ∈ x.text ∨ 'e' ∈ x.text ∨ 'n' ∈ x.text) := by
  cases x with
  | nan => exact ⟨List.all_eq_true.mp rfl, by decide⟩
  | infinite negative => cases negative <;> exact ⟨List.all_eq_true.mp rfl, by decide⟩
  | finite negative quanta =>
    obtain ⟨v, body, written, numeral, _⟩ := writeFinite_eq .literal negative quanta
    obtain ⟨numeric, marked⟩ := numeral.characters
    rw [text, written]
    cases negative with
    | false => exact ⟨numeric, marked.imp_right .inl⟩
    | true =>
      refine ⟨List.forall_mem_cons.mpr ⟨rfl, numeric⟩, ?_⟩
      exact marked.imp (List.mem_cons_of_mem _) fun mark => .inl (List.mem_cons_of_mem _ mark)

theorem toLower_of_isDigit {c : Char} (digit : c.isDigit = true) : c.toLower = c := by
  obtain ⟨_, most⟩ := Char.isDigit_iff_toNat.mp digit
  refine dif_neg fun upper => ?_
  have least := UInt32.le_iff_toNat_le.mp upper.1
  exact absurd (Nat.le_trans least most) (by decide)

theorem readNumeral?_signed {negative : Bool} {body : Text} {c : Char} {rest : Text}
    (head : body = c :: rest) (digit : c.isDigit = true) :
    readNumeral? (if negative then '-' :: body else body) = readDigits? negative body := by
  subst head
  have sign : Text.takeSign (if negative then '-' :: c :: rest else c :: rest) =
      (negative, c :: rest) := by
    cases negative with
    | true => rfl
    | false =>
      have apart : c ≠ '-' ∧ c ≠ '+' := by
        constructor <;> rintro rfl <;> exact absurd digit (by decide)
      simp [Text.takeSign, apart]
  have apart : c ≠ 'i' ∧ c ≠ 'n' := by
    constructor <;> rintro rfl <;> exact absurd digit (by decide)
  unfold readNumeral?
  rw [sign]
  simp [Text.lowerAscii, toLower_of_isDigit digit, apart]

theorem readNumeral?_text {x : Binary64} (double : x.IsDouble) :
    readNumeral? x.text = some x := by
  cases x with
  | nan => rfl
  | infinite negative => cases negative <;> rfl
  | finite negative quanta =>
    obtain ⟨v, body, written, numeral, read⟩ := writeFinite_eq .literal negative quanta
    obtain ⟨c, rest, head, digit⟩ := numeral.head
    rw [text, written, readNumeral?_signed head digit, read double]

theorem text_injective {x y : Binary64} (first : x.IsDouble) (second : y.IsDouble)
    (same : x.text = y.text) : x = y := by
  have read := readNumeral?_text first
  rw [same, readNumeral?_text second] at read
  exact (Option.some.inj read).symm

end Binary64
end Concordance
