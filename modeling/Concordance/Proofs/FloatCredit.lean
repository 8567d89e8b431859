import Concordance.Proofs.ExactCredit

/-! Scores in binary floating point. Every step rounds, and a sum can be too great; but under
settings that keep hits in exact arithmetic, with weights that are represented exactly, a hit keeps
its worth up to one part in 2^53. That is enough: half a point less one part in 2^53 is rounded to
one point, as the sum with one half lies in the middle between two numbers and goes to the even. -/
namespace Concordance

namespace Binary64
variable {k m p q n : Nat}

def quanta : Binary64 → Nat
  | finite _ q => q
  | _ => 0

def creditBound : Nat := Nat.pow 2 1202

def almostHalf : Nat := (2 ^ 53 - 1) * Nat.pow 2 1020

theorem creditBound_eq : 2 ^ 128 * unit = creditBound := by decide +kernel

theorem almostHalf_eq : 2 ^ 54 * almostHalf = (2 ^ 53 - 1) * unit := by decide +kernel

theorem representable_credits (few : k ≤ 2 ^ 53) : Representable (k * creditBound) :=
  representable_multiple ⟨1202, by decide +kernel⟩ few
    (Nat.lt_of_le_of_lt (Nat.mul_le_mul_right _ few)
      (by decide +kernel : 2 ^ 53 * creditBound < bound))

theorem representable_almostHalf : Representable almostHalf :=
  representable_multiple ⟨1020, by decide +kernel⟩ (Nat.sub_le _ _) (by decide +kernel)

theorem ofInt?_of_le (small : n ≤ 2 ^ 128) :
    ofInt? n = .ok (finite false (rounded (n * unit) 1)) ∧ rounded (n * unit) 1 ≤ creditBound := by
  have representable := representable_credits Nat.one_le_two_pow
  rw [Nat.one_mul] at representable
  have most : n * unit ≤ creditBound * 1 := by
    rw [Nat.mul_one, ← creditBound_eq]
    exact Nat.mul_le_mul_right unit small
  obtain ⟨same, below⟩ := nearest_of_le false Nat.one_pos representable most
  refine ⟨?_, below⟩
  rw [ofInt?, ofInt_natCast, same]
  rfl

theorem half_eq : ∃ h, half = finite false h ∧ 2 * h = unit ∧ h ≤ creditBound :=
  ⟨Nat.pow 2 1073, rfl, by decide +kernel, by decide +kernel⟩

theorem nearest_eq_unit (low : 2 * unit ≤ 2 * q + gapBelow unit) (most : q ≤ unit) :
    nearest false q 1 = finite false unit := by
  have even : unit / spacing unit % 2 = 0 := by decide +kernel
  have representable := representable_ofNat Nat.one_le_two_pow
  rw [Nat.one_mul] at representable
  have low : 2 * (unit : ℚ) ≤ 2 * q + gapBelow unit := by exact_mod_cast low
  have most : (q : ℚ) ≤ unit := by exact_mod_cast most
  have step : (0 : ℚ) ≤ spacing unit := Nat.cast_nonneg _
  refine nearest_of_rounds false representable unit_pos Nat.one_pos ?_
  rw [Rounds, if_pos even, Nat.cast_one, div_one]
  constructor <;> linarith

theorem roundHalfUp_pos (least : almostHalf ≤ q) (most : q ≤ 2 ^ 52 * creditBound) :
    ∃ score, (finite false q).roundHalfUp = .ok score ∧ 0 < score := by
  obtain ⟨h, half, twice, small⟩ := half_eq
  have sum : finite false q + Binary64.half = nearest false (q + h) 1 := by
    rw [half]
    exact add_finite q h
  have whole : ∃ r, nearest false (q + h) 1 = finite false r ∧ unit ≤ r := by
    -- up to one the tie decides; from there on one is representable and cannot be passed
    rcases Nat.le_total (q + h) unit with below | above
    · have gap : 2 * almostHalf + gapBelow unit = unit := by decide +kernel
      exact ⟨unit, nearest_eq_unit (by omega) below, Nat.le_refl unit⟩
    · have bounded : q + h ≤ 2 ^ 53 * creditBound * 1 := by omega
      have exact_unit := (representable_ofNat Nat.one_le_two_pow).2
      rw [Nat.one_mul] at exact_unit
      obtain ⟨same, _⟩ := nearest_of_le false Nat.one_pos (representable_credits (Nat.le_refl _))
        bounded
      exact ⟨_, same, le_rounded Nat.one_pos exact_unit (by omega)⟩
  obtain ⟨r, rounds, enough⟩ := whole
  refine ⟨(r / unit : Nat), ?_, by exact_mod_cast Nat.div_pos enough unit_pos⟩
  rw [roundHalfUp, sum, rounds, floor, signed, if_neg Bool.false_ne_true, ← Int.ofNat_fdiv]

end Binary64

namespace Settings
variable {s : Settings} {m q : Nat}

open Binary64

def discountQuanta (s : Settings) : Nat := s.fuzzyDiscount.quanta

def penaltyQuanta (s : Settings) : Nat := s.longDocumentPenalty.quanta

structure Damping (s : Settings) : Prop where
  discounted : s.fuzzyDiscount = .finite false s.discountQuanta
  damped : s.longDocumentPenalty = .finite false s.penaltyQuanta
  discount_le : s.discountQuanta ≤ unit
  penalty_le : s.penaltyQuanta ≤ unit
  product : unit * unit ≤ 2 * (s.leastWeight * s.discountQuanta * s.penaltyQuanta)

theorem KeepsHits.damping (keeps : s.KeepsHits) (valid : s.Valid) : s.Damping := by
  obtain ⟨discount, discounted, _, discount_le⟩ := valid.fuzzyDiscount.finite
  obtain ⟨penalty, damped, _, penalty_le⟩ := valid.longDocumentPenalty.finite
  have least := keeps.damped
  simp only [discounted, damped, value, signed, Bool.false_eq_true, if_false,
    Int.cast_natCast] at least
  have scale := unit_cast_pos
  have product : (s.leastWeight : ℚ) * (discount / unit) * (penalty / unit) =
      s.leastWeight * discount * penalty / (unit * unit) := by
    field_simp
  rw [product, le_div_iff₀ (mul_pos scale scale)] at least
  have doubled : (unit : ℚ) * unit ≤ 2 * (s.leastWeight * discount * penalty) := by linarith
  have first : s.discountQuanta = discount := by rw [Settings.discountQuanta, discounted, quanta]
  have second : s.penaltyQuanta = penalty := by rw [Settings.penaltyQuanta, damped, quanta]
  have product : unit * unit ≤ 2 * (s.leastWeight * discount * penalty) := by
    exact_mod_cast doubled
  rw [← first] at discounted discount_le product
  rw [← second] at damped penalty_le product
  exact ⟨discounted, damped, discount_le, penalty_le, product⟩

def Enough (s : Settings) (m : Nat) : Prop :=
  spacing m ∣ m ∧ (2 ^ 53 - 1) * (s.leastWeight * s.discountQuanta) ≤ 2 ^ 53 * m

namespace Damping

theorem almostHalf_le (damping : s.Damping) (enough : s.Enough m) :
    almostHalf * unit ≤ m * s.penaltyQuanta := by
  have scaled : 2 ^ 54 * (almostHalf * unit) ≤ 2 ^ 54 * (m * s.penaltyQuanta) := by
    calc
      2 ^ 54 * (almostHalf * unit) = (2 ^ 53 - 1) * (unit * unit) := by
        rw [← Nat.mul_assoc, almostHalf_eq, Nat.mul_assoc]
      _ ≤ (2 ^ 53 - 1) * (2 * (s.leastWeight * s.discountQuanta * s.penaltyQuanta)) :=
        Nat.mul_le_mul_left _ damping.product
      _ = 2 * ((2 ^ 53 - 1) * (s.leastWeight * s.discountQuanta)) * s.penaltyQuanta := by ac_rfl
      _ ≤ 2 * (2 ^ 53 * m) * s.penaltyQuanta :=
        Nat.mul_le_mul_right _ (Nat.mul_le_mul_left _ enough.2)
      _ = 2 ^ 54 * (m * s.penaltyQuanta) := by
        rw [Nat.mul_assoc, Nat.mul_assoc]
        omega
  exact Nat.le_of_mul_le_mul_left scaled (by decide)

theorem almostHalf_le_self (damping : s.Damping) (enough : s.Enough m) : almostHalf ≤ m :=
  Nat.le_of_mul_le_mul_right
    ((damping.almostHalf_le enough).trans (Nat.mul_le_mul_left m damping.penalty_le)) unit_pos

theorem unit_le (damping : s.Damping) : unit ≤ 2 * (s.leastWeight * s.discountQuanta) := by
  have bounded : unit * unit ≤ 2 * (s.leastWeight * s.discountQuanta) * unit := by
    refine damping.product.trans ?_
    rw [← Nat.mul_assoc]
    exact Nat.mul_le_mul_left _ damping.penalty_le
  exact Nat.le_of_mul_le_mul_right bounded unit_pos

theorem enough_full (damping : s.Damping) (few : s.leastWeight ≤ 2 ^ 53) :
    s.Enough (s.leastWeight * unit) :=
  ⟨(representable_ofNat few).2,
    Nat.mul_le_mul (Nat.sub_le _ _) (Nat.mul_le_mul_left _ damping.discount_le)⟩

theorem enough_discounted (damping : s.Damping) (full : s.leastWeight * unit ≤ q)
    (below : rounded (q * s.discountQuanta) unit < bound) :
    s.Enough (rounded (q * s.discountQuanta) unit) := by
  refine ⟨rounded_exact unit_pos below, ?_⟩
  have covered : s.leastWeight * s.discountQuanta * unit ≤ q * s.discountQuanta := by
    rw [Nat.mul_right_comm]
    exact Nat.mul_le_mul_right _ full
  have normal : 2 ^ 52 ≤ q * s.discountQuanta / unit := by
    have great : 2 ^ 53 ≤ unit := by decide +kernel
    have product := damping.unit_le
    have quotient := (Nat.le_div_iff_mul_le unit_pos).mpr covered
    omega
  have scaled : (2 ^ 53 - 1) * (s.leastWeight * s.discountQuanta) * unit ≤
      2 ^ 53 * rounded (q * s.discountQuanta) unit * unit := by
    rw [Nat.mul_assoc, Nat.mul_assoc (2 ^ 53)]
    exact (Nat.mul_le_mul_left _ covered).trans (rounded_error unit_pos normal).1
  exact Nat.le_of_mul_le_mul_right scaled unit_pos

end Damping
end Settings

namespace Binary64
variable {s : Settings} {k n : Nat} {x y : Binary64}

def IsSum (k : Nat) (x : Binary64) : Prop := ∃ q, x = finite false q ∧ q ≤ k * creditBound

def IsFull (s : Settings) (x : Binary64) : Prop :=
  ∃ q, x = finite false q ∧ s.leastWeight * unit ≤ q

def IsWorth (s : Settings) (x : Binary64) : Prop :=
  ∃ q m, x = finite false q ∧ m ≤ q ∧ s.Enough m

theorem IsSum.succ (sum : IsSum k x) : IsSum (k + 1) x := by
  obtain ⟨q, same, most⟩ := sum
  exact ⟨q, same, most.trans (Nat.mul_le_mul_right _ (Nat.le_succ k))⟩

theorem ofInt?_isSum (few : s.leastWeight ≤ 2 ^ 53) (small : n ≤ 2 ^ 128) :
    ∃ x, ofInt? n = .ok x ∧ IsSum 1 x ∧ (s.leastWeight ≤ n → IsFull s x) := by
  obtain ⟨given, most⟩ := ofInt?_of_le small
  rw [← Nat.one_mul creditBound] at most
  refine ⟨_, given, ⟨_, rfl, most⟩, fun least => ⟨_, rfl, ?_⟩⟩
  apply le_rounded Nat.one_pos (representable_ofNat few).2
  rw [Nat.mul_one]
  exact Nat.mul_le_mul_right unit least

theorem mul_fraction {fraction q : Nat} (few : k ≤ 2 ^ 53) (most : fraction ≤ unit)
    (sum : q ≤ k * creditBound) :
    mul (finite false q) (finite false fraction) = finite false (rounded (q * fraction) unit) ∧
      rounded (q * fraction) unit ≤ k * creditBound := by
  rw [mul_finite]
  exact nearest_of_le false unit_pos (representable_credits few) (Nat.mul_le_mul sum most)

theorem isWorth_of_isFull (damping : s.Damping) (few : s.leastWeight ≤ 2 ^ 53)
    (full : IsFull s x) : IsWorth s x := by
  obtain ⟨q, same, least⟩ := full
  exact ⟨q, _, same, least, damping.enough_full few⟩

theorem not_isWorth_zero (damping : s.Damping) : ¬IsWorth s .zero := by
  rintro ⟨q, m, same, below, enough⟩
  cases same
  have some : 0 < almostHalf := by decide +kernel
  have least := damping.almostHalf_le_self enough
  omega

theorem isSum_discounted (damping : s.Damping) (sum : IsSum 1 x) :
    IsSum 1 (mul x s.fuzzyDiscount) ∧ (IsFull s x → IsWorth s (mul x s.fuzzyDiscount)) := by
  obtain ⟨q, rfl, most⟩ := sum
  obtain ⟨same, below⟩ := mul_fraction Nat.one_le_two_pow damping.discount_le most
  rw [damping.discounted, same]
  refine ⟨⟨_, rfl, below⟩, ?_⟩
  rintro ⟨_, given, full⟩
  cases given
  have finite := Nat.lt_of_le_of_lt below (representable_credits Nat.one_le_two_pow).1
  exact ⟨_, _, rfl, Nat.le_refl _, damping.enough_discounted full finite⟩

theorem isWorth_of_not_lt (left : IsSum 1 x) (right : IsSum 1 y) (worth : IsWorth s x)
    (less : lt y x = false) : IsWorth s y := by
  obtain ⟨q, m, rfl, below, enough⟩ := worth
  obtain ⟨r, rfl, _⟩ := right
  simp only [lt, signed, Bool.false_eq_true, if_false, decide_eq_false_iff_not, not_lt,
    Nat.cast_le] at less
  exact ⟨r, m, rfl, below.trans less, enough⟩

theorem isSum_add (few : k + 1 ≤ 2 ^ 53) (left : IsSum k x) (right : IsSum 1 y) :
    IsSum (k + 1) (add x y) ∧ (IsWorth s x ∨ IsWorth s y → IsWorth s (add x y)) := by
  obtain ⟨q, rfl, most⟩ := left
  obtain ⟨r, rfl, more⟩ := right
  have bounded : q + r ≤ (k + 1) * creditBound * 1 := by
    rw [Nat.mul_one, Nat.succ_mul]
    omega
  obtain ⟨same, below⟩ := nearest_of_le false Nat.one_pos (representable_credits few) bounded
  rw [add_finite, same]
  refine ⟨⟨_, rfl, below⟩, ?_⟩
  have kept {m : Nat} (enough : s.Enough m) (within : m ≤ q + r) :
      IsWorth s (finite false (rounded (q + r) 1)) :=
    ⟨_, m, rfl, le_rounded Nat.one_pos enough.1 (by omega), enough⟩
  rintro (⟨_, m, given, within, enough⟩ | ⟨_, m, given, within, enough⟩)
  · cases given
    exact kept enough (by omega)
  · cases given
    exact kept enough (by omega)

theorem round_pos (damping : s.Damping) (few : k ≤ 2 ^ 52) (sum : IsSum k x)
    (worth : IsWorth s x) : ∃ score, roundHalfUp x = .ok score ∧ 0 < score := by
  obtain ⟨q, m, rfl, below, enough⟩ := worth
  obtain ⟨_, given, most⟩ := sum
  cases given
  exact roundHalfUp_pos ((damping.almostHalf_le_self enough).trans below)
    (most.trans (Nat.mul_le_mul_right _ few))

theorem round_damped_pos (damping : s.Damping) (few : k ≤ 2 ^ 52) (sum : IsSum k x)
    (worth : IsWorth s x) :
    ∃ score, roundHalfUp (mul x s.longDocumentPenalty) = .ok score ∧ 0 < score := by
  obtain ⟨q, m, rfl, below, enough⟩ := worth
  obtain ⟨_, given, most⟩ := sum
  cases given
  obtain ⟨same, bounded⟩ := mul_fraction (few.trans (by decide)) damping.penalty_le
    most
  have least : almostHalf ≤ rounded (q * s.penaltyQuanta) unit := by
    apply le_rounded unit_pos representable_almostHalf.2
    exact (damping.almostHalf_le enough).trans (Nat.mul_le_mul_right _ below)
  rw [damping.damped, same]
  exact roundHalfUp_pos least (bounded.trans (Nat.mul_le_mul_right _ few))

end Binary64

def Rewarding.ofBinary64 {s : Settings} (valid : s.Valid) (keeps : s.KeepsHits)
    (few : s.leastWeight ≤ 2 ^ 53) : Rewarding Binary64 s (some (2 ^ 128)) (some (2 ^ 52)) :=
  have damping := keeps.damping valid
  { sumOf := Binary64.IsSum
    full := Binary64.IsFull s
    worth := Binary64.IsWorth s
    none_sum := ⟨0, rfl, Nat.zero_le _⟩
    none_unworthy := Binary64.not_isWorth_zero damping
    sum_succ := Binary64.IsSum.succ
    ofNat := fun within => Binary64.ofInt?_isSum few (within _ rfl)
    worth_of_full := fun _ => Binary64.isWorth_of_isFull damping few
    discount := Binary64.isSum_discounted damping
    worth_of_not_exceeds := Binary64.isWorth_of_not_lt
    add := fun within => Binary64.isSum_add ((within _ rfl).trans (by decide))
    round := fun within => Binary64.round_pos damping (within _ rfl)
    round_damped := fun within => Binary64.round_damped_pos damping (within _ rfl) }

end Concordance
