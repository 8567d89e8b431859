import Concordance.Proofs.Rounding

/-! The shortest decimal of a floating-point number reads back as the number. Its first grid has the
number's leading digit on it; on the seventeenth the points lie closer together than the ends of
the interval that rounds to the number, so one of them is found. -/
namespace Concordance.Binary64
variable {quanta grids : Nat} {exponent : Int}

theorem reachesPower_iff :
    reachesPower quanta exponent = true ↔ (10 : ℚ) ^ exponent * unit ≤ quanta := by
  unfold reachesPower
  split
  next nonneg =>
    rw [decide_eq_true_iff, pow_exponent_of_nonneg nonneg]
    exact_mod_cast Iff.rfl
  next negative =>
    have cancel : (10 : ℚ) ^ exponent * unit * 10 ^ (-exponent).toNat = unit := by
      rw [mul_right_comm, pow_exponent_of_neg negative, one_mul]
    have scale : (0 : ℚ) < 10 ^ (-exponent).toNat := by positivity
    rw [decide_eq_true_iff, ← mul_le_mul_iff_of_pos_right scale, cancel]
    exact_mod_cast Iff.rfl

theorem reachesPower_mono {more : Nat} (reaches : reachesPower quanta exponent = true)
    (le : quanta ≤ more) : reachesPower more exponent = true := by
  rw [reachesPower_iff] at *
  exact reaches.trans (by exact_mod_cast le)

theorem estimate_reaches : ∀ binary : Nat, binary < 2098 → reachesPower (2 ^ binary)
    ((((binary : Int) - 1074) * 30103).fdiv 100000 - 1) = true := by
  decide +kernel

theorem leadingExponent_reaches (positive : 0 < quanta) (below : quanta < bound) :
    reachesPower quanta (leadingExponent quanta) = true := by
  have within (k : Nat) (power : bound = 2 ^ k) : quanta.log2 < k :=
    (Nat.log2_lt (Nat.ne_of_gt positive)).mpr (power ▸ below)
  have binary : quanta.log2 < 2098 := within 2098 (by decide +kernel)
  have estimate := reachesPower_mono (estimate_reaches _ binary)
    (Nat.log2_self_le (Nat.ne_of_gt positive))
  unfold leadingExponent
  dsimp only
  split
  · assumption
  split <;> assumption

theorem between_multiples {num den : Nat} {step x : ℚ} (proper : 0 < den) (positive : 0 < step)
    (same : num * step = x * den) :
    (num / den : Nat) * step ≤ x ∧ x < ((num / den : Nat) + 1) * step := by
  have scale : (0 : ℚ) < den := by exact_mod_cast proper
  have low : ((num / den : Nat) : ℚ) * den ≤ num := by exact_mod_cast Nat.div_mul_le_self num den
  have high : (num : ℚ) < ((num / den : Nat) + 1) * den := by
    exact_mod_cast Nat.lt_mul_of_div_lt (Nat.lt_succ_self _) proper
  rw [← mul_le_mul_iff_of_pos_right scale, ← mul_lt_mul_iff_of_pos_right scale, ← same,
    mul_right_comm, mul_right_comm _ step]
  exact ⟨mul_le_mul_of_nonneg_right low positive.le, mul_lt_mul_of_pos_right high positive⟩

def gridQuotient (quanta : Nat) (exponent : Int) : Nat × Nat :=
  if 0 ≤ exponent then (quanta, unit * 10 ^ exponent.toNat)
  else (quanta * 10 ^ (-exponent).toNat, unit)

theorem gridQuotient_eq (quanta : Nat) (exponent : Int) :
    0 < (gridQuotient quanta exponent).2 ∧
      ((gridQuotient quanta exponent).1 : ℚ) * (10 ^ exponent * unit) =
        quanta * (gridQuotient quanta exponent).2 := by
  unfold gridQuotient
  split
  next nonneg =>
    refine ⟨Nat.mul_pos unit_pos (Nat.pow_pos (by decide)), ?_⟩
    rw [pow_exponent_of_nonneg nonneg, Nat.cast_mul, Nat.cast_pow, Nat.cast_ofNat]
    ring
  next negative =>
    have cancel := pow_exponent_of_neg negative
    dsimp only
    refine ⟨unit_pos, ?_⟩
    rw [Nat.cast_mul, Nat.cast_pow, Nat.cast_ofNat]
    linear_combination ((quanta : ℚ) * unit) * cancel

def gridBelow (quanta : Nat) (exponent : Int) : Nat :=
  (gridQuotient quanta exponent).1 / (gridQuotient quanta exponent).2

theorem gridBelow_between (quanta : Nat) (exponent : Int) :
    decimalQuanta (gridBelow quanta exponent) exponent ≤ quanta ∧
      quanta < decimalQuanta (gridBelow quanta exponent + 1) exponent := by
  obtain ⟨proper, same⟩ := gridQuotient_eq quanta exponent
  have positive : (0 : ℚ) < 10 ^ exponent * unit :=
    mul_pos (by positivity) (by exact_mod_cast unit_pos)
  simpa only [decimalQuanta, gridBelow, Nat.cast_add, Nat.cast_one, mul_assoc] using
    between_multiples proper positive same

theorem onGrid?_eq : onGrid? quanta exponent =
    match roundsTo quanta (gridBelow quanta exponent) exponent,
      roundsTo quanta (gridBelow quanta exponent + 1) exponent with
    | true, true => some ⟨roundHalfEven (gridQuotient quanta exponent).1
        (gridQuotient quanta exponent).2, exponent⟩
    | true, false => some ⟨gridBelow quanta exponent, exponent⟩
    | false, true => some ⟨gridBelow quanta exponent + 1, exponent⟩
    | false, false => none := rfl

theorem roundHalfEven_near (num den : Nat) :
    roundHalfEven num den = num / den ∨ roundHalfEven num den = num / den + 1 := by
  unfold roundHalfEven
  dsimp only
  repeat' split
  all_goals omega

theorem onGrid?_rounds {d : Decimal} (positive : 0 < quanta)
    (found : onGrid? quanta exponent = some d) :
    Rounds quanta (decimalQuanta d.digits d.exponent) := by
  rw [onGrid?_eq] at found
  split at found
  next down up =>
    cases found
    rcases roundHalfEven_near (gridQuotient quanta exponent).1 (gridQuotient quanta exponent).2
      with same | same
    · rw [same]
      exact (roundsTo_iff positive).mp down
    · rw [same]
      exact (roundsTo_iff positive).mp up
  next down up =>
    cases found
    exact (roundsTo_iff positive).mp down
  next down up =>
    cases found
    exact (roundsTo_iff positive).mp up
  next => cases found

theorem lt_gaps (positive : 0 < quanta) :
    quanta < 5 * 10 ^ 15 * (gapBelow quanta + spacing quanta) := by
  have most := Nat.lt_log2_self (n := quanta)
  rcases Nat.lt_or_ge 52 quanta.log2 with great | small
  · have power : 2 ^ quanta.log2 = 2 ^ 52 * spacing quanta := by
      rw [spacing_eq, ← Nat.pow_add]
      congr 1
      omega
    rw [Nat.pow_succ, power] at most
    unfold gapBelow
    split
    next top =>
      simp only [Bool.and_eq_true, decide_eq_true_eq] at top
      omega
    next => omega
  · have few := lt_of_log2_le small
    have one := spacing_of_lt few
    have same : gapBelow quanta = 1 := by simp [gapBelow, one]
    omega

theorem rounds_of_between (low : (quanta : ℚ) - (gapBelow quanta : ℚ) / 2 < v)
    (high : v < quanta + (spacing quanta : ℚ) / 2) : Rounds quanta v := by
  unfold Rounds
  split
  · exact ⟨low.le, high.le⟩
  · exact ⟨low, high⟩

theorem onGrid?_of_fine (positive : 0 < quanta)
    (fine : 10 ^ exponent * unit * 2 < (gapBelow quanta : ℚ) + spacing quanta) :
    (onGrid? quanta exponent).isSome = true := by
  obtain ⟨below, above⟩ := gridBelow_between quanta exponent
  have apart : decimalQuanta (gridBelow quanta exponent + 1) exponent =
      decimalQuanta (gridBelow quanta exponent) exponent + 10 ^ exponent * unit := by
    rw [decimalQuanta, decimalQuanta, Nat.cast_add, Nat.cast_one]
    ring
  have gap : (0 : ℚ) < spacing quanta := by exact_mod_cast spacing_pos quanta
  rw [onGrid?_eq]
  by_cases down : (quanta : ℚ) - (gapBelow quanta : ℚ) / 2 <
      decimalQuanta (gridBelow quanta exponent) exponent
  · have lower : roundsTo quanta (gridBelow quanta exponent) exponent = true :=
      (roundsTo_iff positive).mpr (rounds_of_between down (by linarith))
    rw [lower]
    cases roundsTo quanta (gridBelow quanta exponent + 1) exponent <;> rfl
  · have low : (gapBelow quanta : ℚ) ≥ 0 := by positivity
    have upper : roundsTo quanta (gridBelow quanta exponent + 1) exponent = true :=
      (roundsTo_iff positive).mpr (rounds_of_between (by linarith) (by linarith))
    rw [upper]
    cases roundsTo quanta (gridBelow quanta exponent) exponent <;> rfl

theorem search_rounds (positive : 0 < quanta)
    (found : ∃ k : Nat, k < grids ∧ (onGrid? quanta (exponent - k)).isSome = true) :
    Rounds quanta (decimalQuanta (search quanta exponent grids).digits
      (search quanta exponent grids).exponent) := by
  induction grids generalizing exponent with
  | zero =>
    obtain ⟨k, less, _⟩ := found
    exact absurd less (Nat.not_lt_zero k)
  | succ grids ih =>
    rw [search]
    cases here : onGrid? quanta exponent with
    | some d => exact onGrid?_rounds positive here
    | none =>
      refine ih ?_
      obtain ⟨k, less, some⟩ := found
      cases k with
      | zero => simp [here] at some
      | succ k =>
        refine ⟨k, by omega, ?_⟩
        rwa [show exponent - 1 - (k : Int) = exponent - (k + 1 : Nat) by omega]

theorem decimalQuanta_shift (digits k : Nat) (exponent : Int) :
    decimalQuanta (digits * 10 ^ k) exponent = decimalQuanta digits (exponent + k) := by
  rw [decimalQuanta, decimalQuanta, zpow_add₀ (by norm_num), zpow_natCast, Nat.cast_mul,
    Nat.cast_pow, Nat.cast_ofNat]
  ring

theorem normalize_quanta (d : Decimal) (fuel : Nat) :
    decimalQuanta (d.normalize fuel).digits (d.normalize fuel).exponent =
      decimalQuanta d.digits d.exponent := by
  induction fuel generalizing d with
  | zero => rfl
  | succ fuel ih =>
    rw [Decimal.normalize]
    split
    next trailing =>
      have shifted := decimalQuanta_shift (d.digits / 10) 1 d.exponent
      rw [Nat.pow_one, Nat.div_mul_cancel (Nat.dvd_of_mod_eq_zero trailing)] at shifted
      rw [ih, shifted, Nat.cast_one]
    next => rfl

theorem shortest_rounds (positive : 0 < quanta) (below : quanta < bound) :
    Rounds quanta (decimalQuanta (shortest quanta).digits (shortest quanta).exponent) := by
  rw [shortest, normalize_quanta]
  refine search_rounds positive ⟨16, by decide, onGrid?_of_fine positive ?_⟩
  have leading := reachesPower_iff.mp (leadingExponent_reaches positive below)
  have gaps : (quanta : ℚ) < 5 * 10 ^ 15 * (gapBelow quanta + spacing quanta) := by
    exact_mod_cast lt_gaps positive
  have power : (10 : ℚ) ^ (leadingExponent quanta - (16 : Nat)) * 10 ^ 16 =
      10 ^ leadingExponent quanta := by
    rw [← zpow_natCast, ← zpow_add₀ (by norm_num), sub_add_cancel]
  rw [← power] at leading
  linarith

end Concordance.Binary64
