import Concordance.Number.Shortest
import Concordance.Proofs.Numeral
import Mathlib.Algebra.Order.Field.Power
import Mathlib.Data.Rat.Floor
import Mathlib.Tactic.FieldSimp
import Mathlib.Tactic.LinearCombination
import Mathlib.Tactic.Linarith
import Mathlib.Tactic.Positivity

/-! What rounds to a floating-point number. The numbers that round to a finite one are those of the
interval halfway to both its neighbours, with its ends if the last binary digit is even, and
rounding takes each of them to it. -/
namespace Concordance.Binary64
variable {quanta num den digits : Nat} {exponent : Int} {v : ℚ}

def Representable (quanta : Nat) : Prop := quanta < bound ∧ spacing quanta ∣ quanta

def gapBelow (quanta : Nat) : Nat :=
  if quanta = 2 ^ quanta.log2 && 1 < spacing quanta then spacing quanta / 2 else spacing quanta

def Rounds (quanta : Nat) (v : ℚ) : Prop :=
  if quanta / spacing quanta % 2 = 0 then
    quanta - (gapBelow quanta : ℚ) / 2 ≤ v ∧ v ≤ quanta + (spacing quanta : ℚ) / 2
  else quanta - (gapBelow quanta : ℚ) / 2 < v ∧ v < quanta + (spacing quanta : ℚ) / 2

def decimalQuanta (digits : Nat) (exponent : Int) : ℚ := digits * 10 ^ exponent * unit

theorem unit_pos : 0 < unit := by decide +kernel

theorem signed_natAbs (n : Int) : signed (decide (n < 0)) n.natAbs = n := by
  unfold signed
  split <;> rename_i below <;> rw [decide_eq_true_iff] at below <;> omega

theorem spacing_eq (quanta : Nat) : spacing quanta = 2 ^ (quanta.log2 - 52) := rfl

theorem spacing_pos (quanta : Nat) : 0 < spacing quanta := Nat.two_pow_pos _

theorem spacing_le (positive : 0 < quanta) : spacing quanta ≤ quanta :=
  Nat.le_trans (Nat.pow_le_pow_right (by decide) (Nat.sub_le _ _))
    (Nat.log2_self_le (Nat.ne_of_gt positive))

theorem gapBelow_le_spacing (quanta : Nat) : gapBelow quanta ≤ spacing quanta := by
  unfold gapBelow
  split
  · exact Nat.div_le_self _ _
  · exact Nat.le_refl _

theorem pow_exponent_of_nonneg (nonneg : 0 ≤ exponent) :
    (10 : ℚ) ^ exponent = 10 ^ exponent.toNat := by
  conv_lhs => rw [← Int.toNat_of_nonneg nonneg]
  exact zpow_natCast _ _

theorem pow_exponent_of_neg (negative : ¬0 ≤ exponent) :
    (10 : ℚ) ^ exponent * 10 ^ (-exponent).toNat = 1 := by
  rw [← zpow_natCast, Int.toNat_of_nonneg (by omega), ← zpow_add₀ (by norm_num)]
  simp

theorem doubledQuotient_eq (digits : Nat) (exponent : Int) :
    0 < (doubledQuotient digits exponent).2 ∧
      ((doubledQuotient digits exponent).1 : ℚ) =
        2 * decimalQuanta digits exponent * (doubledQuotient digits exponent).2 := by
  unfold doubledQuotient decimalQuanta
  simp only [Nat.pow_eq]
  split
  next nonneg =>
    rw [pow_exponent_of_nonneg nonneg]
    exact ⟨Nat.one_pos, by push_cast; ring⟩
  next negative =>
    refine ⟨Nat.pow_pos (by decide), ?_⟩
    have cancel := pow_exponent_of_neg negative
    push_cast
    linear_combination (-2 * (digits : ℚ) * unit) * cancel

theorem le_quotient_iff {low : Nat} (positive : 0 < den) (same : (num : ℚ) = 2 * v * den) :
    low * den ≤ num ↔ (low : ℚ) / 2 ≤ v := by
  have scale : (0 : ℚ) < den := by exact_mod_cast positive
  rw [← Nat.cast_le (α := ℚ), same, Nat.cast_mul, mul_le_mul_iff_of_pos_right scale,
    div_le_iff₀' two_pos]

theorem quotient_le_iff {high : Nat} (positive : 0 < den) (same : (num : ℚ) = 2 * v * den) :
    num ≤ high * den ↔ v ≤ (high : ℚ) / 2 := by
  have scale : (0 : ℚ) < den := by exact_mod_cast positive
  rw [← Nat.cast_le (α := ℚ), same, Nat.cast_mul, mul_le_mul_iff_of_pos_right scale,
    le_div_iff₀' two_pos]

theorem roundsTo_iff (positive : 0 < quanta) :
    roundsTo quanta digits exponent = true ↔ Rounds quanta (decimalQuanta digits exponent) := by
  obtain ⟨den, same⟩ := doubledQuotient_eq digits exponent
  have gap : gapBelow quanta ≤ 2 * quanta := by
    have := gapBelow_le_spacing quanta
    have := spacing_le positive
    omega
  have low : ((2 * quanta - gapBelow quanta : Nat) : ℚ) / 2 =
      quanta - (gapBelow quanta : ℚ) / 2 := by
    rw [Nat.cast_sub gap]
    push_cast
    ring
  have high : ((2 * quanta + spacing quanta : Nat) : ℚ) / 2 =
      quanta + (spacing quanta : ℚ) / 2 := by
    push_cast
    ring
  rw [Rounds, ← low, ← high]
  simp only [← le_quotient_iff den same, ← quotient_le_iff den same, ← not_le]
  unfold roundsTo gapBelow
  simp

theorem roundHalfEven_eq {n : Nat} (positive : 0 < den) (low : 2 * (n * den) ≤ 2 * num + den)
    (high : 2 * num ≤ 2 * (n * den) + den)
    (even : n % 2 = 0 ∨ 2 * (n * den) < 2 * num + den ∧ 2 * num < 2 * (n * den) + den) :
    roundHalfEven num den = n := by
  have parts := Nat.div_add_mod num den
  have rest := Nat.mod_lt num positive
  have near : n = num / den ∨ n = num / den + 1 := by
    have least : num / den ≤ n := by
      refine Nat.le_of_lt_succ ((Nat.mul_lt_mul_right positive).mp ?_)
      rw [Nat.succ_mul, Nat.mul_comm]
      omega
    have most : n ≤ num / den + 1 := by
      refine Nat.le_of_lt_succ ((Nat.mul_lt_mul_right positive).mp ?_)
      rw [Nat.succ_mul, Nat.succ_mul, Nat.mul_comm (num / den)]
      omega
    omega
  unfold roundHalfEven
  dsimp only
  rcases near with same | above
  · rw [← same, Nat.mul_comm] at parts
    rw [← same]
    split
    · rfl
    split <;> omega
  · have product : n * den = den * (num / den) + den := by
      rw [above, Nat.succ_mul, Nat.mul_comm]
    split
    · omega
    split <;> omega

theorem Rounds.cross (positive : 0 < den) (rounds : Rounds quanta ((num : ℚ) / den)) :
    2 * (quanta * den) ≤ 2 * num + gapBelow quanta * den ∧
      2 * num ≤ 2 * (quanta * den) + spacing quanta * den ∧
      (quanta / spacing quanta % 2 = 0 ∨ 2 * (quanta * den) < 2 * num + gapBelow quanta * den ∧
        2 * num < 2 * (quanta * den) + spacing quanta * den) := by
  have scale : (0 : ℚ) < den := by exact_mod_cast positive
  unfold Rounds at rounds
  split at rounds
  next even =>
    obtain ⟨low, high⟩ := rounds
    rw [le_div_iff₀ scale] at low
    rw [div_le_iff₀ scale] at high
    have low : 2 * ((quanta : ℚ) * den) ≤ 2 * num + gapBelow quanta * den := by linarith
    have high : 2 * (num : ℚ) ≤ 2 * (quanta * den) + spacing quanta * den := by linarith
    exact ⟨by exact_mod_cast low, by exact_mod_cast high, .inl even⟩
  next =>
    obtain ⟨low, high⟩ := rounds
    rw [lt_div_iff₀ scale] at low
    rw [div_lt_iff₀ scale] at high
    have low : 2 * ((quanta : ℚ) * den) < 2 * num + gapBelow quanta * den := by linarith
    have high : 2 * (num : ℚ) < 2 * (quanta * den) + spacing quanta * den := by linarith
    have low : 2 * (quanta * den) < 2 * num + gapBelow quanta * den := by exact_mod_cast low
    have high : 2 * num < 2 * (quanta * den) + spacing quanta * den := by exact_mod_cast high
    exact ⟨Nat.le_of_lt low, Nat.le_of_lt high, .inr ⟨low, high⟩⟩

theorem lt_of_log2_le (small : quanta.log2 ≤ 52) : quanta < 2 ^ 53 :=
  Nat.lt_of_lt_of_le Nat.lt_log2_self (Nat.pow_le_pow_right (by decide) (Nat.succ_le_succ small))

theorem spacing_of_lt (few : quanta < 2 ^ 53) : spacing quanta = 1 := by
  have small : quanta.log2 ≤ 52 := by
    rcases Nat.eq_zero_or_pos quanta with rfl | positive
    · simp
    · exact Nat.le_of_lt_succ ((Nat.log2_lt (Nat.ne_of_gt positive)).mpr few)
  rw [spacing_eq, Nat.sub_eq_zero_of_le small, Nat.pow_zero]

theorem spacing_of_between {k : Nat} (least : 2 ^ 52 * 2 ^ k ≤ quanta)
    (most : quanta < 2 ^ 53 * 2 ^ k) : spacing quanta = 2 ^ k := by
  have step : 0 < 2 ^ k := Nat.two_pow_pos k
  have lower : 2 ^ (k + 52) = 2 ^ 52 * 2 ^ k := by rw [Nat.pow_add, Nat.mul_comm]
  have upper : 2 ^ (k + 52 + 1) = 2 ^ 53 * 2 ^ k := by
    rw [Nat.pow_succ, lower]
    omega
  have binary : quanta.log2 = k + 52 := by
    rw [Nat.log2_eq_iff (by omega), lower, upper]
    exact ⟨least, most⟩
  rw [spacing_eq, binary, Nat.add_sub_cancel]

theorem gapBelow_of_top {k : Nat} (spaced : spacing quanta = 2 * 2 ^ k)
    (top : quanta = 2 ^ quanta.log2) : gapBelow quanta = 2 ^ k := by
  have step : 0 < 2 ^ k := Nat.two_pow_pos k
  have due : (quanta = 2 ^ quanta.log2 && 1 < 2 * 2 ^ k) = true := by
    simp only [Bool.and_eq_true, decide_eq_true_eq]
    exact ⟨top, by omega⟩
  rw [gapBelow, spaced, if_pos due, Nat.mul_div_cancel_left _ two_pos]

theorem spacing_floor (floor : Nat) (positive : 0 < quanta) (exact : spacing quanta ∣ quanta)
    (low : 2 * quanta < 2 * floor + 2 + gapBelow quanta)
    (high : 2 * floor ≤ 2 * quanta + spacing quanta) :
    spacing floor = spacing quanta ∨ quanta = 2 ^ quanta.log2 ∧ floor < quanta ∧
      gapBelow quanta = spacing floor ∧ spacing quanta = 2 * spacing floor := by
  have least := Nat.log2_self_le (Nat.ne_of_gt positive)
  have most := Nat.lt_log2_self (n := quanta)
  have gap := gapBelow_le_spacing quanta
  rcases Nat.lt_or_ge 52 quanta.log2 with great | small
  · obtain ⟨k, exponent⟩ : ∃ k, quanta.log2 = k + 53 := ⟨quanta.log2 - 53, by omega⟩
    have half : spacing quanta = 2 * 2 ^ k := by
      rw [spacing_eq, exponent, show k + 53 - 52 = k + 1 by omega, Nat.pow_succ, Nat.mul_comm]
    have power : 2 ^ quanta.log2 = 2 ^ 53 * 2 ^ k := by rw [exponent, Nat.pow_add, Nat.mul_comm]
    have next : 2 ^ (quanta.log2 + 1) = 2 ^ 54 * 2 ^ k := by
      rw [Nat.pow_succ, power]
      omega
    have step : 0 < 2 ^ k := Nat.two_pow_pos k
    -- as many steps as binary digits are kept make up the number
    obtain ⟨m, multiple⟩ := exact
    rw [half, Nat.mul_assoc, Nat.mul_comm _ m] at multiple
    have fewest : 2 ^ 52 ≤ m := Nat.le_of_mul_le_mul_right (by omega) step
    have more : m < 2 ^ 53 := Nat.lt_of_mul_lt_mul_right (a := 2 ^ k) (by omega)
    have above : (m + 1) * 2 ^ k ≤ 2 ^ 53 * 2 ^ k := Nat.mul_le_mul_right _ more
    rw [Nat.succ_mul] at above
    rcases Nat.lt_or_ge floor (2 ^ quanta.log2) with less | reached
    · right
      have lowest : m = 2 ^ 52 := by
        by_contra other
        have further : (2 ^ 52 + 1) * 2 ^ k ≤ m * 2 ^ k := Nat.mul_le_mul_right _ (by omega)
        omega
      subst lowest
      have top : quanta = 2 ^ quanta.log2 := by omega
      have below := gapBelow_of_top half top
      have spaced : spacing floor = 2 ^ k := spacing_of_between (by omega) (by omega)
      exact ⟨top, by omega, below.trans spaced.symm, by rw [half, spaced]⟩
    · left
      have binary : floor.log2 = quanta.log2 :=
        (Nat.log2_eq_iff (by omega)).mpr ⟨reached, by omega⟩
      rw [spacing, binary, spacing]
  · left
    have few := lt_of_log2_le small
    have one := spacing_of_lt few
    rw [one, spacing_of_lt]
    omega

theorem roundHalfEven_grid {step : Nat} (positive : 0 < step) (proper : 0 < den)
    (grid : step ∣ quanta) (low : 2 * (quanta * den) ≤ 2 * num + step * den)
    (high : 2 * num ≤ 2 * (quanta * den) + step * den)
    (even : quanta / step % 2 = 0 ∨ 2 * (quanta * den) < 2 * num + step * den ∧
      2 * num < 2 * (quanta * den) + step * den) :
    roundHalfEven num (den * step) * step = quanta := by
  have whole := Nat.div_mul_cancel grid
  have scaled : quanta / step * (den * step) = quanta * den := by
    rw [Nat.mul_comm den, ← Nat.mul_assoc, whole]
  rw [roundHalfEven_eq (n := quanta / step) (Nat.mul_pos proper positive), whole] <;>
    rw [scaled, Nat.mul_comm den] <;> assumption

theorem nearest_of_rounds (negative : Bool) (representable : Representable quanta)
    (positive : 0 < quanta) (proper : 0 < den) (rounds : Rounds quanta ((num : ℚ) / den)) :
    nearest negative num den = finite negative quanta := by
  obtain ⟨below, exact⟩ := representable
  obtain ⟨low, high, even⟩ := rounds.cross proper
  have parts := Nat.div_add_mod' num den
  have rest := Nat.mod_lt num proper
  have spaced := spacing_floor (num / den) positive exact
    (Nat.lt_of_mul_lt_mul_right (a := den) (by simp only [Nat.add_mul, Nat.mul_assoc]; omega))
    (Nat.le_of_mul_le_mul_right (by simp only [Nat.add_mul, Nat.mul_assoc]; omega) proper)
  have rounded : roundHalfEven num (den * spacing (num / den)) * spacing (num / den) = quanta := by
    rcases spaced with same | ⟨top, less, gap, double⟩
    · have narrow := Nat.mul_le_mul_right den (gapBelow_le_spacing quanta)
      rw [same]
      refine roundHalfEven_grid (spacing_pos _) proper exact (by omega) high (even.imp_right ?_)
      exact fun ⟨low, high⟩ => ⟨by omega, high⟩
    · rw [gap] at low
      have under : num < quanta * den := by
        have := Nat.mul_le_mul_right den (Nat.succ_le_of_lt less)
        rw [Nat.succ_mul] at this
        omega
      obtain ⟨n, multiple⟩ := exact
      rw [double, Nat.mul_assoc, Nat.mul_left_comm] at multiple
      refine roundHalfEven_grid (spacing_pos _) proper ⟨2 * n, ?_⟩ low (by omega) (.inl ?_)
      · exact multiple
      · rw [multiple, Nat.mul_div_cancel_left _ (spacing_pos _), Nat.mul_mod_right]
  unfold nearest
  dsimp only
  rw [rounded, if_pos below]

theorem Rounds.bounds (positive : 0 < quanta) (rounds : Rounds quanta v) :
    (quanta : ℚ) / 2 ≤ v ∧ v ≤ 2 * quanta := by
  have gap : (gapBelow quanta : ℚ) ≤ spacing quanta := by exact_mod_cast gapBelow_le_spacing quanta
  have step : (spacing quanta : ℚ) ≤ quanta := by exact_mod_cast spacing_le positive
  have weak : quanta - (gapBelow quanta : ℚ) / 2 ≤ v ∧ v ≤ quanta + (spacing quanta : ℚ) / 2 := by
    unfold Rounds at rounds
    split at rounds
    · exact rounds
    · exact ⟨rounds.1.le, rounds.2.le⟩
  constructor <;> linarith

theorem decimalQuanta_lt {size : Nat} (few : digits < 10 ^ size) :
    decimalQuanta digits exponent < 10 ^ (size + exponent) * unit := by
  have few : (digits : ℚ) < 10 ^ size := by exact_mod_cast few
  have scale : (0 : ℚ) < unit := by exact_mod_cast unit_pos
  rw [decimalQuanta, zpow_add₀ (by norm_num), zpow_natCast]
  exact mul_lt_mul_of_pos_right (mul_lt_mul_of_pos_right few (by positivity)) scale

theorem le_decimalQuanta {size : Nat} (many : 10 ^ size ≤ digits) :
    10 ^ (size + exponent) * unit ≤ decimalQuanta digits exponent := by
  have many : (10 : ℚ) ^ size ≤ digits := by exact_mod_cast many
  have scale : (0 : ℚ) < unit := by exact_mod_cast unit_pos
  rw [decimalQuanta, zpow_add₀ (by norm_num), zpow_natCast]
  exact mul_le_mul_of_nonneg_right (mul_le_mul_of_nonneg_right many (by positivity)) scale.le

theorem decimalQuanta_lt_half {size : Nat} (few : digits < 10 ^ size)
    (low : size + exponent < -400) : decimalQuanta digits exponent < 1 / 2 := by
  have scale : (0 : ℚ) < unit := by exact_mod_cast unit_pos
  have tiny : 2 * (unit : ℚ) < 10 ^ (400 : Int) := by
    exact_mod_cast (by decide +kernel : 2 * unit < 10 ^ 400)
  have power : (10 : ℚ) ^ (size + exponent) ≤ (10 ^ (400 : Int))⁻¹ := by
    rw [← zpow_neg]
    exact zpow_le_zpow_right₀ (by norm_num) (by omega)
  calc
    decimalQuanta digits exponent < 10 ^ (size + exponent) * unit := decimalQuanta_lt few
    _ ≤ (10 ^ (400 : Int))⁻¹ * unit := mul_le_mul_of_nonneg_right power scale.le
    _ < 1 / 2 := by
      rw [inv_mul_lt_iff₀ (by positivity)]
      linarith

theorem lt_decimalQuanta {size : Nat} (many : 10 ^ size ≤ digits)
    (high : 400 ≤ size + exponent) : 2 * (bound : ℚ) < decimalQuanta digits exponent := by
  have scale : (0 : ℚ) < unit := by exact_mod_cast unit_pos
  have huge : 2 * (bound : ℚ) < 10 ^ (400 : Int) * unit := by
    exact_mod_cast (by decide +kernel : 2 * bound < 10 ^ 400 * unit)
  have power : (10 : ℚ) ^ (400 : Int) ≤ 10 ^ (size + exponent) :=
    zpow_le_zpow_right₀ (by norm_num) high
  calc
    2 * (bound : ℚ) < 10 ^ (400 : Int) * unit := huge
    _ ≤ 10 ^ (size + exponent) * unit := mul_le_mul_of_nonneg_right power scale.le
    _ ≤ decimalQuanta digits exponent := le_decimalQuanta many

theorem ofDecimal_of_rounds (negative : Bool) (representable : Representable quanta)
    (positive : 0 < quanta) (rounds : Rounds quanta (decimalQuanta digits exponent)) :
    ofDecimal negative digits exponent = finite negative quanta := by
  have some : (1 : ℚ) ≤ quanta := by exact_mod_cast positive
  have below : (quanta : ℚ) < bound := by exact_mod_cast representable.1
  obtain ⟨least, most⟩ := rounds.bounds positive
  have nonzero : 0 < digits := by
    refine Nat.pos_of_ne_zero fun zero => ?_
    rw [zero, decimalQuanta, Nat.cast_zero, zero_mul, zero_mul] at least
    linarith
  unfold ofDecimal
  dsimp only [Nat.pow_eq]
  split
  next low =>
    simp only [Bool.or_eq_true, decide_eq_true_eq] at low
    have := decimalQuanta_lt_half (Text.lt_pow_length_ofNat digits)
      (low.resolve_left (Nat.ne_of_gt nonzero))
    linarith
  split
  next high =>
    have nonempty := Nat.length_toDigits_pos (b := 10) (n := digits)
    have large : 2 * (bound : ℚ) < decimalQuanta digits exponent :=
      lt_decimalQuanta (Text.pow_length_ofNat_le nonzero) (by rw [Text.ofNat]; omega)
    linarith
  split
  next nonneg =>
    refine nearest_of_rounds negative representable positive Nat.one_pos ?_
    convert rounds using 1
    rw [decimalQuanta, pow_exponent_of_nonneg nonneg]
    push_cast
    ring
  next below =>
    refine nearest_of_rounds negative representable positive (Nat.pow_pos (by decide)) ?_
    convert rounds using 1
    have cancel := pow_exponent_of_neg below
    rw [decimalQuanta, div_eq_iff (by positivity)]
    push_cast
    linear_combination (-(digits : ℚ) * unit) * cancel

end Concordance.Binary64
