import Concordance.Proofs.RoundingBounds

/-! Integers as floating-point numbers. Rounding keeps the order of integers, but two of them may
go to the same number. Such two differ by little, one part in 2^53 of their sum, and none do up to
2^53. From 2^1024 less half a step on there is no finite number to go to. -/
namespace Concordance.Binary64
variable {m n : Nat} {i j : Int}

def beyond : Nat := Nat.pow 2 1024 - Nat.pow 2 970

def InReach (i : Int) : Prop := i.natAbs < beyond

instance : DecidablePred InReach := fun i => inferInstanceAs (Decidable (i.natAbs < beyond))

def quantaOf (n : Nat) : Nat := rounded (n * unit) 1

theorem quantaOf_mono (le : m ≤ n) : quantaOf m ≤ quantaOf n :=
  rounded_mono Nat.one_pos (Nat.mul_le_mul_right unit le)

theorem quantaOf_zero : quantaOf 0 = 0 := by decide +kernel

theorem quantaOf_of_le (few : n ≤ 2 ^ 53) : quantaOf n = n * unit := by
  have exact_multiple := (representable_ofNat few).2
  have whole : n * unit * 1 = n * unit := Nat.mul_one _
  exact Nat.le_antisymm (rounded_le Nat.one_pos exact_multiple (Nat.le_of_eq whole.symm))
    (le_rounded Nat.one_pos exact_multiple (Nat.le_of_eq whole))

theorem unit_le_quantaOf (positive : 0 < n) : unit ≤ quantaOf n := by
  have one : quantaOf 1 = unit := by rw [quantaOf_of_le (by decide), Nat.one_mul]
  have least := quantaOf_mono (Nat.succ_le_of_lt positive)
  exact one ▸ least

theorem quantaOf_pos (positive : 0 < n) : 0 < quantaOf n :=
  Nat.lt_of_lt_of_le unit_pos (unit_le_quantaOf positive)

theorem quantaOf_error (positive : 0 < n) :
    (2 ^ 53 - 1) * (n * unit) ≤ 2 ^ 53 * quantaOf n ∧
      2 ^ 53 * quantaOf n ≤ (2 ^ 53 + 1) * (n * unit) := by
  have large : 2 ^ 52 ≤ unit := by decide +kernel
  have normal : 2 ^ 52 ≤ n * unit / 1 := by
    rw [Nat.div_one]
    exact Nat.le_trans large (Nat.le_mul_of_pos_left unit positive)
  have error := rounded_error Nat.one_pos normal
  rwa [Nat.mul_one] at error

theorem le_of_quantaOf_eq (same : quantaOf m = quantaOf n) :
    2 ^ 53 * m ≤ 2 ^ 53 * n + (m + n) := by
  rcases Nat.eq_zero_or_pos m with rfl | many
  · omega
  rcases Nat.eq_zero_or_pos n with rfl | more
  · have positive := quantaOf_pos many
    rw [same, quantaOf_zero] at positive
    exact absurd positive (Nat.lt_irrefl 0)
  have low := (quantaOf_error many).1
  have high := (quantaOf_error more).2
  rw [same] at low
  have crossed : (2 ^ 53 - 1) * m * unit ≤ (2 ^ 53 + 1) * n * unit := by
    rw [Nat.mul_assoc, Nat.mul_assoc]
    exact Nat.le_trans low high
  have cancelled := Nat.le_of_mul_le_mul_right crossed unit_pos
  omega

theorem quantaOf_lt_bound_iff : quantaOf n < bound ↔ n < beyond := by
  have last : quantaOf (beyond - 1) < bound := by decide +kernel
  have first : bound ≤ quantaOf beyond := by decide +kernel
  constructor
  · intro finite
    by_contra far
    have above := quantaOf_mono (Nat.not_lt.mp far)
    omega
  · intro near
    have below := quantaOf_mono (Nat.le_sub_one_of_lt near)
    omega

theorem natAbs_signed (negative : Bool) (quanta : Nat) :
    (signed negative quanta).natAbs = quanta := by
  cases negative <;> simp [signed]

def signedQuanta (i : Int) : Int := signed (i < 0) (quantaOf i.natAbs)

theorem signedQuanta_natCast (n : Nat) : signedQuanta n = quantaOf n := by
  simp [signedQuanta, signed]

theorem signedQuanta_neg (n : Nat) : signedQuanta (-n) = -(quantaOf n : Int) := by
  rcases Nat.eq_zero_or_pos n with rfl | positive
  · simp [signedQuanta, signed, quantaOf_zero]
  · simp [signedQuanta, signed, positive]

theorem signedQuanta_mono (le : i ≤ j) : signedQuanta i ≤ signedQuanta j := by
  obtain ⟨m, rfl | rfl⟩ := i.eq_nat_or_neg <;> obtain ⟨n, rfl | rfl⟩ := j.eq_nat_or_neg <;>
    simp only [signedQuanta_natCast, signedQuanta_neg]
  · have := quantaOf_mono (by omega : m ≤ n)
    omega
  · obtain ⟨rfl, rfl⟩ : m = 0 ∧ n = 0 := by omega
    simp [quantaOf_zero]
  · omega
  · have := quantaOf_mono (by omega : n ≤ m)
    omega

theorem signedQuanta_neg_iff : signedQuanta i < 0 ↔ i < 0 := by
  obtain ⟨n, rfl | rfl⟩ := i.eq_nat_or_neg
  · rw [signedQuanta_natCast]
    omega
  · rw [signedQuanta_neg]
    rcases Nat.eq_zero_or_pos n with rfl | positive
    · simp [quantaOf_zero]
    · have := quantaOf_pos positive
      omega

theorem ofInt_of_inReach (reach : InReach i) :
    ofInt i = finite (signedQuanta i < 0) (signedQuanta i).natAbs := by
  have size : (signedQuanta i).natAbs = quantaOf i.natAbs := natAbs_signed _ _
  have sign : decide (signedQuanta i < 0) = decide (i < 0) :=
    decide_eq_decide.mpr signedQuanta_neg_iff
  rw [ofInt, nearest_eq, ← quantaOf, if_pos (quantaOf_lt_bound_iff.mpr reach), size, sign]

theorem ofInt?_of_inReach (reach : InReach i) : ofInt? i = .ok (ofInt i) := by
  rw [ofInt?, ofInt_of_inReach reach]
  rfl

theorem ofInt?_of_not_inReach (far : ¬InReach i) : ofInt? i = .error .integerTooLarge := by
  have infinite : ofInt i = infinite (i < 0) := by
    rw [ofInt, nearest_eq, ← quantaOf, if_neg]
    exact fun below => far (quantaOf_lt_bound_iff.mp below)
  rw [ofInt?, infinite]
  rfl

theorem ofInt?_eq_ok {x : Binary64} : ofInt? i = .ok x ↔ InReach i ∧ ofInt i = x := by
  by_cases reach : InReach i
  · rw [ofInt?_of_inReach reach, Except.ok.injEq, and_iff_right reach]
  · rw [ofInt?_of_not_inReach reach]
    exact iff_of_false (fun same => by cases same) fun near => reach near.1

theorem ofInt?_eq_error {f : Failure} :
    ofInt? i = .error f ↔ f = .integerTooLarge ∧ ¬InReach i := by
  by_cases reach : InReach i
  · rw [ofInt?_of_inReach reach]
    exact iff_of_false (fun same => by cases same) fun far => far.2 reach
  · rw [ofInt?_of_not_inReach reach, Except.error.injEq, and_iff_left reach]
    exact ⟨Eq.symm, Eq.symm⟩

theorem ofInt_eq_iff (first : InReach i) (second : InReach j) :
    ofInt i = ofInt j ↔ signedQuanta i = signedQuanta j := by
  rw [ofInt_of_inReach first, ofInt_of_inReach second]
  constructor
  · intro same
    obtain ⟨signs, sizes⟩ := Binary64.finite.inj same
    rw [← signed_natAbs (signedQuanta i), signs, sizes, signed_natAbs]
  · intro same
    rw [same]

theorem lt_ofInt_iff (first : InReach i) (second : InReach j) :
    lt (ofInt i) (ofInt j) = true ↔ i < j ∧ ofInt i ≠ ofInt j := by
  have order : lt (ofInt i) (ofInt j) = true ↔ signedQuanta i < signedQuanta j := by
    rw [ofInt_of_inReach first, ofInt_of_inReach second, lt, signed_natAbs, signed_natAbs]
    exact decide_eq_true_iff
  rw [order, Ne, ofInt_eq_iff first second]
  constructor
  · intro less
    refine ⟨?_, Int.ne_of_lt less⟩
    by_contra above
    have := signedQuanta_mono (Int.not_lt.mp above)
    omega
  · rintro ⟨less, apart⟩
    have := signedQuanta_mono (Int.le_of_lt less)
    omega

theorem not_lt_ofInt_iff (first : InReach i) (second : InReach j) :
    lt (ofInt i) (ofInt j) = false ↔ j ≤ i ∨ ofInt i = ofInt j := by
  rw [← Bool.not_eq_true, lt_ofInt_iff first second, not_and_or, Int.not_lt, not_not]

theorem apart_of_ofInt_eq (first : InReach i) (second : InReach j) (same : ofInt i = ofInt j) :
    2 ^ 53 * (i - j).natAbs ≤ i.natAbs + j.natAbs := by
  rw [ofInt_eq_iff first second] at same
  have signs : i < 0 ↔ j < 0 := by rw [← signedQuanta_neg_iff, same, signedQuanta_neg_iff]
  have sizes : quantaOf i.natAbs = quantaOf j.natAbs := by
    unfold signedQuanta signed at same
    simp only [signs] at same
    split at same <;> omega
  have low := le_of_quantaOf_eq sizes
  have high := le_of_quantaOf_eq sizes.symm
  rcases Nat.le_total i.natAbs j.natAbs with le | le <;> omega

theorem inReach_of_le (few : i.natAbs ≤ 2 ^ 53) : InReach i :=
  Nat.lt_of_le_of_lt few (by decide +kernel : 2 ^ 53 < beyond)

theorem signedQuanta_of_le (few : i.natAbs ≤ 2 ^ 53) : signedQuanta i = i * unit := by
  obtain ⟨n, rfl | rfl⟩ := i.eq_nat_or_neg
  · rw [signedQuanta_natCast, quantaOf_of_le (by simpa using few), Int.natCast_mul]
  · rw [signedQuanta_neg, quantaOf_of_le (by simpa using few), Int.natCast_mul, Int.neg_mul]

theorem eq_of_ofInt_eq (first : i.natAbs ≤ 2 ^ 53) (second : j.natAbs ≤ 2 ^ 53)
    (same : ofInt i = ofInt j) : i = j := by
  rw [ofInt_eq_iff (inReach_of_le first) (inReach_of_le second), signedQuanta_of_le first,
    signedQuanta_of_le second] at same
  exact Int.eq_of_mul_eq_mul_right (by exact_mod_cast unit_pos.ne') same

theorem toInt?_ofInt (few : i.natAbs ≤ 2 ^ 53) : (ofInt i).toInt? = some i := by
  have unit_ne : (unit : Int) ≠ 0 := by exact_mod_cast unit_pos.ne'
  have multiple : (signedQuanta i).natAbs % unit = 0 := by
    rw [signedQuanta_of_le few, Int.natAbs_mul, Int.natAbs_natCast, Nat.mul_mod_left]
  rw [ofInt_of_inReach (inReach_of_le few), toInt?, if_pos multiple, signed_natAbs,
    signedQuanta_of_le few, Int.mul_fdiv_cancel _ unit_ne]

end Concordance.Binary64
