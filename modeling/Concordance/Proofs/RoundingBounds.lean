import Concordance.Proofs.Earning
import Concordance.Proofs.Rounding
import Mathlib.Data.Nat.Log

/-! Bounds on what a quotient rounds to. Rounding keeps to the side of every representable number
that the quotient is on, and errs by at most one part in 2^53 unless the quotient is very small. -/
namespace Concordance.Binary64
variable {m n k num den : Nat} {negative : Bool}

theorem roundHalfEven_cases (num den : Nat) :
    roundHalfEven num den = num / den ∧ 2 * (num % den) ≤ den ∨
      roundHalfEven num den = num / den + 1 ∧ den ≤ 2 * (num % den) := by
  unfold roundHalfEven
  dsimp only
  split
  · omega
  split <;> omega

theorem le_roundHalfEven (positive : 0 < den) (least : m * den ≤ num) :
    m ≤ roundHalfEven num den := by
  have floor : m ≤ num / den := (Nat.le_div_iff_mul_le positive).mpr least
  rcases roundHalfEven_cases num den with ⟨down, _⟩ | ⟨up, _⟩ <;> omega

theorem roundHalfEven_le (positive : 0 < den) (most : num ≤ m * den) :
    roundHalfEven num den ≤ m := by
  have parts := Nat.div_add_mod' num den
  have floor : num / den ≤ m := Nat.div_le_of_le_mul (by rwa [Nat.mul_comm])
  rcases roundHalfEven_cases num den with ⟨down, _⟩ | ⟨up, half⟩
  · omega
  · rcases Nat.eq_or_lt_of_le floor with same | below
    · rw [same] at parts
      omega
    · omega

theorem roundHalfEven_error (num : Nat) (positive : 0 < den) :
    2 * num ≤ 2 * (roundHalfEven num den * den) + den ∧
      2 * (roundHalfEven num den * den) ≤ 2 * num + den := by
  have parts := Nat.div_add_mod' num den
  have rest := Nat.mod_lt num positive
  rcases roundHalfEven_cases num den with ⟨down, half⟩ | ⟨up, half⟩
  · rw [down]
    omega
  · rw [up, Nat.add_mul]
    omega

theorem roundHalfEven_mono (den : Nat) (le : m ≤ n) :
    roundHalfEven m den ≤ roundHalfEven n den := by
  rcases Nat.eq_or_lt_of_le le with rfl | less
  · exact Nat.le_refl _
  have first := Nat.div_add_mod' m den
  have second := Nat.div_add_mod' n den
  have floors : m / den ≤ n / den := Nat.div_le_div_right le
  rcases Nat.eq_or_lt_of_le floors with same | apart
  · rw [same] at first
    rcases roundHalfEven_cases m den with ⟨low, _⟩ | ⟨low, _⟩ <;>
      rcases roundHalfEven_cases n den with ⟨high, _⟩ | ⟨high, _⟩ <;> omega
  · rcases roundHalfEven_cases m den with ⟨low, _⟩ | ⟨low, _⟩ <;>
      rcases roundHalfEven_cases n den with ⟨high, _⟩ | ⟨high, _⟩ <;> omega

theorem log2_mono (le : m ≤ n) : m.log2 ≤ n.log2 := by
  rw [Nat.log2_eq_log_two, Nat.log2_eq_log_two]
  exact Nat.log_mono_right le

theorem spacing_dvd_spacing (le : m ≤ n) : spacing m ∣ spacing n :=
  Nat.pow_dvd_pow 2 (Nat.sub_le_sub_right (log2_mono le) 52)

theorem representable_mul_pow (few : n ≤ 2 ^ 53) (below : n * 2 ^ k < bound) :
    Representable (n * 2 ^ k) := by
  refine ⟨below, ?_⟩
  rcases Nat.eq_zero_or_pos n with rfl | positive
  · rw [Nat.zero_mul]
    exact Nat.dvd_zero _
  rcases Nat.eq_or_lt_of_le few with rfl | less
  · rw [← Nat.pow_add, spacing_eq, Nat.log2_two_pow]
    exact Nat.pow_dvd_pow 2 (Nat.sub_le _ _)
  · have nonzero : n * 2 ^ k ≠ 0 := Nat.ne_of_gt (Nat.mul_pos positive (Nat.two_pow_pos k))
    have digits : (n * 2 ^ k).log2 < 53 + k := by
      rw [Nat.log2_lt nonzero, Nat.pow_add]
      exact Nat.mul_lt_mul_of_pos_right less (Nat.two_pow_pos k)
    exact Nat.dvd_mul_left_of_dvd (Nat.pow_dvd_pow 2 (by omega)) n

theorem representable_multiple {p : Nat} (power : ∃ k, p = 2 ^ k) (few : n ≤ 2 ^ 53)
    (below : n * p < bound) : Representable (n * p) := by
  obtain ⟨k, rfl⟩ := power
  exact representable_mul_pow few below

theorem representable_ofNat (few : n ≤ 2 ^ 53) : Representable (n * unit) :=
  representable_multiple ⟨1074, by decide +kernel⟩ few
    (Nat.lt_of_le_of_lt (Nat.mul_le_mul_right _ few)
      (by decide +kernel : 2 ^ 53 * unit < bound))

def rounded (num den : Nat) : Nat :=
  roundHalfEven num (den * spacing (num / den)) * spacing (num / den)

theorem nearest_eq : nearest negative num den =
    if rounded num den < bound then finite negative (rounded num den) else infinite negative :=
  rfl

theorem exists_grid (exact : spacing m ∣ m) (le : m ≤ n) :
    ∃ p, spacing n ∣ p ∧ m ≤ p ∧ p ≤ n := by
  rcases Nat.eq_or_lt_of_le (log2_mono le) with same | less
  · rw [spacing, same] at exact
    exact ⟨m, exact, Nat.le_refl m, le⟩
  · have nonzero : n ≠ 0 := by
      rintro rfl
      simp at less
    -- the power of two that has as many digits as the greater number lies above the lesser one
    refine ⟨2 ^ n.log2, Nat.pow_dvd_pow 2 (Nat.sub_le _ _), ?_, Nat.log2_self_le nonzero⟩
    exact Nat.le_trans (Nat.le_of_lt Nat.lt_log2_self) (Nat.pow_le_pow_right (by decide) less)

theorem le_rounded (positive : 0 < den) (exact : spacing m ∣ m) (least : m * den ≤ num) :
    m ≤ rounded num den := by
  have floor : m ≤ num / den := (Nat.le_div_iff_mul_le positive).mpr least
  have step : 0 < den * spacing (num / den) := Nat.mul_pos positive (spacing_pos _)
  obtain ⟨p, ⟨c, whole⟩, above, below⟩ := exists_grid exact floor
  have covered : c * (den * spacing (num / den)) ≤ num := by
    calc
      c * (den * spacing (num / den)) = p * den := by rw [whole]; ac_rfl
      _ ≤ num / den * den := Nat.mul_le_mul_right den below
      _ ≤ num := Nat.div_mul_le_self num den
  have counted := Nat.mul_le_mul_right (spacing (num / den)) (le_roundHalfEven step covered)
  rw [whole, Nat.mul_comm] at above
  exact Nat.le_trans above counted

theorem rounded_le (positive : 0 < den) (exact : spacing m ∣ m) (most : num ≤ m * den) :
    rounded num den ≤ m := by
  have floor : num / den ≤ m := Nat.div_le_of_le_mul (by rwa [Nat.mul_comm])
  have step : 0 < den * spacing (num / den) := Nat.mul_pos positive (spacing_pos _)
  obtain ⟨c, whole⟩ := (spacing_dvd_spacing floor).trans exact
  have covered : num ≤ c * (den * spacing (num / den)) := by
    calc
      num ≤ m * den := most
      _ = spacing (num / den) * c * den := by rw [← whole]
      _ = c * (den * spacing (num / den)) := by ac_rfl
  have counted := Nat.mul_le_mul_right (spacing (num / den)) (roundHalfEven_le step covered)
  rwa [Nat.mul_comm c, ← whole] at counted

theorem spacing_dvd_two_pow (k : Nat) : spacing (2 ^ k) ∣ 2 ^ k := by
  rw [spacing_eq, Nat.log2_two_pow]
  exact Nat.pow_dvd_pow 2 (Nat.sub_le k 52)

theorem rounded_mono (positive : 0 < den) (le : m ≤ n) : rounded m den ≤ rounded n den := by
  have floors : m / den ≤ n / den := Nat.div_le_div_right le
  rcases Nat.eq_or_lt_of_le (log2_mono floors) with same | less
  · rw [rounded, spacing, same]
    exact Nat.mul_le_mul_right _ (roundHalfEven_mono _ le)
  · have nonzero : n / den ≠ 0 := by
      intro zero
      simp [zero] at less
    have power := spacing_dvd_two_pow (n / den).log2
    have short : m / den < 2 ^ (n / den).log2 :=
      Nat.lt_of_lt_of_le Nat.lt_log2_self (Nat.pow_le_pow_right (by decide) less)
    have below := Nat.le_of_lt ((Nat.div_lt_iff_lt_mul positive).mp short)
    have above := (Nat.le_div_iff_mul_le positive).mp (Nat.log2_self_le nonzero)
    exact Nat.le_trans (rounded_le positive power below) (le_rounded positive power above)

theorem rounded_error (positive : 0 < den) (normal : 2 ^ 52 ≤ num / den) :
    (2 ^ 53 - 1) * num ≤ 2 ^ 53 * (rounded num den * den) ∧
      2 ^ 53 * (rounded num den * den) ≤ (2 ^ 53 + 1) * num := by
  have nonzero : num / den ≠ 0 := by omega
  have digits : 52 ≤ (num / den).log2 := (Nat.le_log2 nonzero).mpr normal
  have step : 2 ^ 52 * spacing (num / den) ≤ num / den := by
    rw [spacing_eq, ← Nat.pow_add, Nat.add_sub_cancel' digits]
    exact Nat.log2_self_le nonzero
  have small : 2 ^ 52 * (den * spacing (num / den)) ≤ num := by
    calc
      2 ^ 52 * (den * spacing (num / den)) = 2 ^ 52 * spacing (num / den) * den := by ac_rfl
      _ ≤ num / den * den := Nat.mul_le_mul_right den step
      _ ≤ num := Nat.div_mul_le_self num den
  have error := roundHalfEven_error num (Nat.mul_pos positive (spacing_pos (num / den)))
  have same : rounded num den * den =
      roundHalfEven num (den * spacing (num / den)) * (den * spacing (num / den)) := by
    rw [rounded]
    ac_rfl
  rw [same]
  omega

theorem rounded_exact (positive : 0 < den) (below : rounded num den < bound) :
    spacing (rounded num den) ∣ rounded num den := by
  have step : 0 < den * spacing (num / den) := Nat.mul_pos positive (spacing_pos _)
  have few : roundHalfEven num (den * spacing (num / den)) ≤ 2 ^ 53 := by
    apply roundHalfEven_le step
    have digits : num / den < 2 ^ 53 * spacing (num / den) := by
      rw [spacing_eq, ← Nat.pow_add]
      exact Nat.lt_of_lt_of_le Nat.lt_log2_self (Nat.pow_le_pow_right (by decide) (by omega))
    have whole := (Nat.div_lt_iff_lt_mul positive).mp digits
    rw [Nat.mul_comm den, ← Nat.mul_assoc]
    exact Nat.le_of_lt whole
  exact (representable_mul_pow few below).2

/-! The arithmetic of finite numbers that are not negative. -/

theorem nearest_of_le (negative : Bool) (positive : 0 < den) (representable : Representable m)
    (most : num ≤ m * den) :
    nearest negative num den = finite negative (rounded num den) ∧ rounded num den ≤ m := by
  have least := rounded_le positive representable.2 most
  rw [nearest_eq, if_pos (Nat.lt_of_le_of_lt least representable.1)]
  exact ⟨rfl, least⟩

theorem add_finite (m n : Nat) :
    add (finite false m) (finite false n) = nearest false (m + n) 1 := by
  simp only [add, signed, Bool.false_eq_true, if_false]
  split
  next zero =>
    have both : m + n = 0 := by omega
    rw [both, nearest_zero]
    rfl
  next =>
    have sign : decide ((m : Int) + n < 0) = false := by
      rw [decide_eq_false_iff_not]
      omega
    rw [sign]
    congr 1

theorem mul_finite (m n : Nat) :
    mul (finite false m) (finite false n) = nearest false (m * n) unit := rfl

theorem ofInt_natCast (n : Nat) : ofInt n = nearest false (n * unit) 1 := by
  have sign : decide ((n : Int) < 0) = false := by
    rw [decide_eq_false_iff_not]
    omega
  rw [ofInt, sign, Int.natAbs_natCast]

end Concordance.Binary64
