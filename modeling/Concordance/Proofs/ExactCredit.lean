import Concordance.Proofs.Reward
import Concordance.Proofs.RoundingBounds
import Concordance.Proofs.SettingsBounds

/-! Scores in exact arithmetic. In rational numbers, where nothing is rounded before the end and
nothing overflows, a hit keeps its worth under settings whose least credit, discounted and damped,
is at least one half. -/
namespace Concordance

namespace Binary64

def value : Binary64 → ℚ
  | finite negative quanta => signed negative quanta / unit
  | _ => 0

theorem unit_cast_pos : (0 : ℚ) < unit := by exact_mod_cast (by decide +kernel : 0 < unit)

theorem IsFraction.value {x : Binary64} (fraction : x.IsFraction) : 0 < x.value ∧ x.value ≤ 1 := by
  obtain ⟨quanta, rfl, positive, most⟩ := fraction.finite
  have positive : (0 : ℚ) < quanta := by exact_mod_cast positive
  have most : (quanta : ℚ) ≤ unit := by exact_mod_cast most
  simp only [Binary64.value, signed, Bool.false_eq_true, if_false, Int.cast_natCast]
  exact ⟨div_pos positive unit_cast_pos, (div_le_one unit_cast_pos).mpr most⟩

end Binary64

instance : Credit ℚ where
  none := 0
  ofNat n := .ok n
  ofFraction := Binary64.value
  add x y := x + y
  mul x y := x * y
  exceeds x y := decide (y < x)
  round x := .ok ⌊x + 1 / 2⌋

/-- Settings under which a hit is never rounded away. -/
structure Settings.KeepsHits (s : Settings) : Prop where
  whole : 1 ≤ s.exactWordWeight
  leading : 1 ≤ s.prefixWordWeight
  inner : 1 ≤ s.substringWeight
  damped : 1 / 2 ≤ (s.leastWeight : ℚ) * s.fuzzyDiscount.value * s.longDocumentPenalty.value

namespace Rewarding
variable {s : Settings}

def ofRational (valid : s.Valid) (keeps : s.KeepsHits) : Rewarding ℚ s none none :=
  have discounted := valid.fuzzyDiscount.value
  have penalty := valid.longDocumentPenalty.value
  have least : (0 : ℚ) ≤ s.leastWeight := Nat.cast_nonneg _
  have half : 1 / 2 ≤ (s.leastWeight : ℚ) * s.fuzzyDiscount.value :=
    keeps.damped.trans (mul_le_of_le_one_right (mul_nonneg least discounted.1.le) penalty.2)
  { sumOf := fun _ x => 0 ≤ x
    full := fun x => (s.leastWeight : ℚ) ≤ x
    worth := fun x => (s.leastWeight : ℚ) * s.fuzzyDiscount.value ≤ x
    none_sum := le_refl (0 : ℚ)
    none_unworthy := fun worth => by
      have worth : (s.leastWeight : ℚ) * s.fuzzyDiscount.value ≤ 0 := worth
      linarith
    sum_succ := id
    ofNat := fun {n} _ =>
      ⟨n, rfl, Nat.cast_nonneg (α := ℚ) n, fun le => by exact_mod_cast le⟩
    worth_of_full := fun _ full => (mul_le_of_le_one_right least discounted.2).trans full
    discount := fun nonneg => ⟨mul_nonneg nonneg discounted.1.le,
      fun full => mul_le_mul_of_nonneg_right full discounted.1.le⟩
    worth_of_not_exceeds := fun _ _ worth less =>
      worth.trans (not_lt.mp (of_decide_eq_false less))
    add := fun _ nonneg more => ⟨add_nonneg nonneg more, fun worth =>
      worth.elim (fun worth => le_add_of_le_of_nonneg worth more)
        fun worth => le_add_of_nonneg_of_le nonneg worth⟩
    round := fun {_ x} _ _ worth => ⟨⌊x + 1 / 2⌋, rfl, by
      have worth : (s.leastWeight : ℚ) * s.fuzzyDiscount.value ≤ x := worth
      apply Int.floor_pos.mpr
      linarith⟩
    round_damped := fun {_ x} _ _ worth => ⟨⌊x * s.longDocumentPenalty.value + 1 / 2⌋, rfl, by
      have damped := keeps.damped.trans (mul_le_mul_of_nonneg_right worth penalty.1.le)
      apply Int.floor_pos.mpr
      linarith⟩ }

end Rewarding
end Concordance
