import Concordance.Proofs.CreditedWords

/-! The score of a text in which all words of a query occur, told in points. Credit and bonuses are
natural numbers, so as long as their sum is far below 2^53 it is exact whatever the order of its
terms. The one product that is rounded, nine tenths of the points of a long document, comes so close
to the exact one that both are rounded to the same score. -/
namespace Concordance

namespace Binary64
variable {k m n q e : Nat}

def whole (n : Nat) : Binary64 := finite false (n * unit)

structure Grain (e : Nat) : Prop where
  positive : 0 < e
  unit : unit = 32 * e
  half : half = finite false (16 * e)
  representable : ∀ n ≤ 2 ^ 53, Representable (n * e)

-- the count of quanta is told of by name only, since no proof can do with its digits
theorem exists_grain : ∃ e, Grain e :=
  ⟨Nat.pow 2 1069, by decide +kernel, by decide +kernel, by decide +kernel, fun _ few =>
    representable_multiple ⟨1069, by decide +kernel⟩ few
      (Nat.lt_of_le_of_lt (Nat.mul_le_mul_right _ few) (by decide +kernel))⟩

theorem nearest_of_representable (representable : Representable m) :
    nearest false m 1 = finite false m := by
  have same : m * 1 = m := Nat.mul_one m
  obtain ⟨finite, most⟩ := nearest_of_le false Nat.one_pos representable (Nat.le_of_eq same.symm)
  rw [finite, Nat.le_antisymm most
    (le_rounded Nat.one_pos representable.2 (Nat.le_of_eq same))]

theorem ofNat_whole (few : n ≤ 2 ^ 53) :
    (Credit.ofNat n : Except Failure Binary64) = .ok (whole n) := by
  change ofInt? (n : Int) = .ok (whole n)
  rw [ofInt?, ofInt_natCast, nearest_of_representable (representable_ofNat few)]
  rfl

theorem add_whole (few : m + n ≤ 2 ^ 53) : Credit.add (whole m) (whole n) = whole (m + n) := by
  change add (finite false (m * unit)) (finite false (n * unit)) = finite false ((m + n) * unit)
  rw [add_finite, ← Nat.add_mul, nearest_of_representable (representable_ofNat few)]

theorem roundHalfUp_between (grain : Grain e) (few : k ≤ 2 ^ 47)
    (least : 32 * k * e ≤ q + 16 * e) (most : q ≤ (32 * k + 15) * e) :
    (finite false q).roundHalfUp = .ok k := by
  have upper : Representable ((32 * k + 31) * e) := grain.representable _ (by omega)
  have lower : Representable (32 * k * e) := grain.representable _ (by omega)
  have within : q + 16 * e ≤ (32 * k + 31) * e * 1 :=
    calc q + 16 * e ≤ (32 * k + 15) * e + 16 * e := Nat.add_le_add_right most _
      _ = (32 * k + 31) * e * 1 := by ring
  obtain ⟨finite, above⟩ := nearest_of_le false Nat.one_pos upper within
  have below : 32 * k * e ≤ rounded (q + 16 * e) 1 :=
    le_rounded Nat.one_pos lower.2 (by rwa [Nat.mul_one])
  have sum : Binary64.finite false q + Binary64.half = .finite false (rounded (q + 16 * e) 1) := by
    rw [grain.half]
    exact (add_finite _ _).trans finite
  have floor : rounded (q + 16 * e) 1 / Binary64.unit = k := by
    rw [grain.unit]
    refine Nat.div_eq_of_lt_le ?_ ?_
    · calc k * (32 * e) = 32 * k * e := by ring
        _ ≤ rounded (q + 16 * e) 1 := below
    · calc rounded (q + 16 * e) 1 ≤ (32 * k + 31) * e := above
        _ < (32 * k + 32) * e := Nat.mul_lt_mul_of_pos_right (by omega) grain.positive
        _ = (k + 1) * (32 * e) := by ring
  rw [roundHalfUp, sum, Binary64.floor, signed, if_neg Bool.false_ne_true,
    Int.fdiv_eq_ediv_of_nonneg _ (Int.natCast_nonneg Binary64.unit), ← Int.natCast_ediv, floor]

theorem roundHalfUp_whole (few : n ≤ 2 ^ 47) : (whole n).roundHalfUp = .ok n := by
  obtain ⟨e, grain⟩ := exists_grain
  have same : n * unit = 32 * n * e := by rw [grain.unit]; ring
  rw [whole, same]
  exact roundHalfUp_between grain few (Nat.le_add_right _ _)
    (Nat.mul_le_mul_right _ (Nat.le_add_right _ _))

theorem nineTenths_eq : ∃ share, ofRatio 9 10 = finite false share ∧ 9 * unit ≤ 10 * share ∧
    2 ^ 50 * (10 * share) ≤ (2 ^ 50 * 9 + 1) * unit :=
  ⟨rounded (9 * unit) 10, by decide +kernel, by decide +kernel, by decide +kernel⟩

/-- A product is rounded in two steps, to a number and to a score, and yet to the score that is due
if the exact product is. -/
theorem roundHalfUp_mul (grain : Grain e) {share : Nat} (few : k ≤ 2 ^ 47)
    (least : 32 * k * e ≤ n * share + 16 * e) (most : n * share ≤ (32 * k + 15) * e) :
    (mul (whole n) (finite false share)).roundHalfUp = .ok k := by
  have upper : Representable ((32 * k + 15) * e) := grain.representable _ (by omega)
  have within : n * unit * share ≤ (32 * k + 15) * e * unit := by
    rw [Nat.mul_right_comm]
    exact Nat.mul_le_mul_right _ most
  obtain ⟨finite, ends⟩ := nearest_of_le false unit_pos upper within
  rw [whole, mul_finite, finite]
  refine roundHalfUp_between grain few ?_ ends
  cases k with
  | zero => exact Nat.le_trans (Nat.le_of_eq (by ring)) (Nat.zero_le _)
  | succ j =>
    have lower : Representable ((32 * j + 16) * e) := grain.representable _ (by omega)
    have begins : (32 * j + 16) * e ≤ rounded (n * unit * share) unit := by
      refine le_rounded unit_pos lower.2 ?_
      rw [Nat.mul_right_comm n unit share]
      refine Nat.mul_le_mul_right _ (Nat.le_of_add_le_add_right (b := 16 * e) ?_)
      exact (Nat.le_of_eq (by ring)).trans least
    calc 32 * (j + 1) * e = (32 * j + 16) * e + 16 * e := by ring
      _ ≤ rounded (n * unit * share) unit + 16 * e := Nat.add_le_add_right begins _

theorem roundHalfUp_nineTenths (few : n ≤ 2 ^ 47) :
    (mul (whole n) (ofRatio 9 10)).roundHalfUp = .ok ((9 * n + 5) / 10 : Nat) := by
  obtain ⟨e, grain⟩ := exists_grain
  obtain ⟨share, shareOf, least, most⟩ := nineTenths_eq
  have quotient : (9 * n + 5) / 10 ≤ 2 ^ 47 := by omega
  have low : 10 * ((9 * n + 5) / 10) ≤ 9 * n + 5 := Nat.mul_div_le _ _
  have high : 9 * n ≤ 10 * ((9 * n + 5) / 10) + 4 := by omega
  generalize (9 * n + 5) / 10 = k at quotient low high ⊢
  rw [grain.unit] at least most
  rw [shareOf]
  -- both ends are linear in the number of points, so they are compared before anything is rounded
  refine roundHalfUp_mul grain quotient ?_ ?_
  · refine Nat.le_of_mul_le_mul_left ?_ (by decide : 0 < 10)
    calc 10 * (32 * k * e) = 32 * (10 * k) * e := by ring
      _ ≤ 32 * (9 * n + 5) * e := Nat.mul_le_mul_right _ (Nat.mul_le_mul_left _ low)
      _ = n * (9 * (32 * e)) + 160 * e := by ring
      _ ≤ n * (10 * share) + 160 * e := Nat.add_le_add_right (Nat.mul_le_mul_left _ least) _
      _ = 10 * (n * share + 16 * e) := by ring
  · refine Nat.le_of_mul_le_mul_left ?_ (by decide : 0 < 2 ^ 50 * 10)
    calc 2 ^ 50 * 10 * (n * share) = n * (2 ^ 50 * (10 * share)) := by ring
      _ ≤ n * ((2 ^ 50 * 9 + 1) * (32 * e)) := Nat.mul_le_mul_left _ most
      _ = (2 ^ 50 * (9 * n) + n) * 32 * e := by ring
      _ ≤ 2 ^ 50 * 10 * (32 * k + 15) * e := Nat.mul_le_mul_right _ (by omega)
      _ = 2 ^ 50 * 10 * ((32 * k + 15) * e) := Nat.mul_assoc ..

end Binary64

namespace Scoring
variable {s : Settings} {t query word : Text} {summary : Summary} {words : List Text}
  {variants : List (Text × List Text)} {k n : Nat}

def wordPoints (s : Settings) (t : Text) (words : List Text) : Nat :=
  (words.map fun word => wordCredit s (.of word t)).sum

theorem wordPoints_nil (s : Settings) (t : Text) : wordPoints s t [] = 0 := rfl

theorem wordPoints_cons (s : Settings) (t word : Text) (words : List Text) :
    wordPoints s t (word :: words) = wordCredit s (.of word t) + wordPoints s t words := rfl

def severalPoints (s : Settings) (words : List Text) : Nat :=
  if 1 < words.length then words.length * s.multiWordBonus else 0

def phrasePoints (s : Settings) (t query : Text) : Nat :=
  if 3 < query.length && Text.occursIn query t then s.exactPhraseBonus else 0

def leadingPoints (s : Settings) (summary : Summary) (words : List Text) : Nat :=
  if words.head?.any fun word => Text.occursIn word summary.firstWords
  then s.leadingWordsBonus else 0

def positionPoints (s : Settings) (t : Text) (words : List Text) : Nat :=
  positionBonus s (words.head?.bind fun word => (WordHits.of word t).first)

def points (s : Settings) (t : Text) (summary : Summary) (words : List Text) (query : Text) : Nat :=
  wordPoints s t words + severalPoints s words + phrasePoints s t query +
    leadingPoints s summary words + positionPoints s t words

def settled (s : Settings) (summary : Summary) (points : Nat) : Nat :=
  if s.longDocumentWords < summary.wordCount then (9 * points + 5) / 10 else points

def earnings (s : Settings) (t : Text) (words : List Text) : List (Binary64 × Option Nat) :=
  words.map fun word => (Binary64.whole (wordCredit s (.of word t)), (WordHits.of word t).first)

theorem earnings_cons (s : Settings) (t word : Text) (words : List Text) :
    earnings s t (word :: words) =
      (Binary64.whole (wordCredit s (.of word t)), (WordHits.of word t).first) ::
        earnings s t words := rfl

theorem head?_earnings (s : Settings) (t : Text) (words : List Text) :
    ((earnings s t words).head?.bind (·.2)) =
      words.head?.bind fun word => (WordHits.of word t).first := by
  cases words <;> rfl

theorem earned_found (found : (WordHits.of word t).found = true)
    (few : wordCredit s (.of word t) ≤ 2 ^ 53) : earned s t variants word =
      .ok (Binary64.whole (wordCredit s (.of word t)), (WordHits.of word t).first) := by
  refine Outcome.bind_eq_ok.mpr ⟨_, Binary64.ofNat_whole few, ?_⟩
  rw [if_pos found]
  rfl

theorem mapM_earned (variants : List (Text × List Text))
    (found : ∀ word ∈ words, (WordHits.of word t).found = true)
    (few : wordPoints s t words ≤ 2 ^ 53) :
    words.mapM (earned s t variants) = .ok (earnings s t words) := by
  induction words with
  | nil => rfl
  | cons word words ih =>
    obtain ⟨first, rest⟩ := List.forall_mem_cons.mp found
    rw [wordPoints_cons] at few
    rw [List.mapM_cons, earned_found first (Nat.le_trans (Nat.le_add_right _ _) few),
      ih rest (Nat.le_trans (Nat.le_add_left _ _) few)]
    rfl

theorem withCredit_whole {offset : Option Nat} (positive : 0 < n) (few : k + n ≤ 2 ^ 53)
    (count : Nat) : withCredit (Binary64.whole k, count) (Binary64.whole n, offset) =
      (Binary64.whole (k + n), count + 1) := by
  have above : Credit.exceeds (Binary64.whole n) (Credit.none : Binary64) = true :=
    Binary64.zero_lt_finite.mpr (Nat.mul_pos positive Binary64.unit_pos)
  unfold withCredit
  rw [if_pos above, Binary64.add_whole few]

theorem foldl_withCredit_whole (worth : ∀ word ∈ words, 0 < wordCredit s (.of word t))
    (few : k + wordPoints s t words ≤ 2 ^ 53) (count : Nat) :
    (earnings s t words).foldl withCredit (Binary64.whole k, count) =
      (Binary64.whole (k + wordPoints s t words), count + words.length) := by
  induction words generalizing k count with
  | nil =>
    rw [wordPoints_nil, List.length_nil, Nat.add_zero, Nat.add_zero]
    rfl
  | cons word words ih =>
    obtain ⟨first, rest⟩ := List.forall_mem_cons.mp worth
    rw [wordPoints_cons, ← Nat.add_assoc] at few ⊢
    rw [earnings_cons, List.foldl_cons,
      withCredit_whole first (Nat.le_trans (Nat.le_add_right _ _) few), ih rest few,
      List.length_cons]
    exact Prod.ext rfl (by omega)

theorem total_whole (worth : ∀ word ∈ words, 0 < wordCredit s (.of word t))
    (few : wordPoints s t words ≤ 2 ^ 53) :
    total (earnings s t words) = (Binary64.whole (wordPoints s t words), words.length) := by
  have none : (Credit.none : Binary64) = Binary64.whole 0 :=
    congrArg (Binary64.finite false) (Nat.zero_mul Binary64.unit).symm
  have folded := foldl_withCredit_whole (k := 0) worth (by rwa [Nat.zero_add]) 0
  rw [Nat.zero_add, Nat.zero_add] at folded
  rw [total_eq, none, folded]

theorem addIf_whole {due : Bool} {bonus p : Nat} (same : p = if due then bonus else 0)
    (few : k + p ≤ 2 ^ 53) : addIf due bonus (Binary64.whole k) = .ok (Binary64.whole (k + p)) := by
  subst same
  cases due with
  | false => rfl
  | true =>
    simp only [addIf, if_true] at few ⊢
    rw [Binary64.ofNat_whole (Nat.le_trans (Nat.le_add_left _ _) few), ← Binary64.add_whole few]
    rfl

theorem round_settled (summary : Summary) (penalty : s.longDocumentPenalty = .ofRatio 9 10)
    (few : n ≤ 2 ^ 47) :
    Credit.round (if s.longDocumentWords < summary.wordCount then
      Credit.mul (Binary64.whole n) (Credit.ofFraction s.longDocumentPenalty)
      else Binary64.whole n) = .ok (settled s summary n : Int) := by
  rw [penalty, settled]
  split
  · exact Binary64.roundHalfUp_nineTenths few
  · exact Binary64.roundHalfUp_whole few

theorem scoreText_points (found : ∀ word ∈ words, (WordHits.of word t).found = true)
    (worth : 0 < s.leastWeight) (penalty : s.longDocumentPenalty = .ofRatio 9 10)
    (few : points s t summary words query ≤ 2 ^ 47) (variants : List (Text × List Text)) :
    @scoreText Binary64 _ s t summary words query variants =
      .ok ((settled s summary (points s t summary words query) : Int), words.length) := by
  have credited : ∀ word ∈ words, 0 < wordCredit s (.of word t) := fun word member =>
    Nat.lt_of_lt_of_le worth (leastWeight_le_wordCredit (found word member))
  have rounded := round_settled summary penalty few
  unfold points at few rounded
  have all := mapM_earned variants found (by omega : wordPoints s t words ≤ 2 ^ 53)
  have totals := total_whole credited (by omega : wordPoints s t words ≤ 2 ^ 53)
  have several : addIf (1 < words.length) (words.length * s.multiWordBonus) _ = .ok _ :=
    addIf_whole (k := wordPoints s t words) (p := severalPoints s words)
      (by simp [severalPoints]) (by omega)
  have phrase : addIf (3 < query.length && Text.occursIn query t) s.exactPhraseBonus _ = .ok _ :=
    addIf_whole (k := wordPoints s t words + severalPoints s words) (p := phrasePoints s t query)
      rfl (by omega)
  have leading : addIf (words.head?.any fun word => Text.occursIn word summary.firstWords)
      s.leadingWordsBonus _ = .ok _ :=
    addIf_whole (k := wordPoints s t words + severalPoints s words + phrasePoints s t query)
      (p := leadingPoints s summary words) rfl (by omega)
  have position : addIf true (positionPoints s t words) _ = .ok _ :=
    addIf_whole (k := wordPoints s t words + severalPoints s words + phrasePoints s t query +
      leadingPoints s summary words) (p := positionPoints s t words) rfl (by omega)
  refine Outcome.bind_eq_ok.mpr ⟨_, all, ?_⟩
  rw [totals, head?_earnings]
  dsimp only
  rw [Bool.and_self]
  refine Outcome.bind_eq_ok.mpr ⟨_, several, ?_⟩
  refine Outcome.bind_eq_ok.mpr ⟨_, phrase, ?_⟩
  refine Outcome.bind_eq_ok.mpr ⟨_, leading, ?_⟩
  refine Outcome.bind_eq_ok.mpr ⟨_, position, ?_⟩
  exact Outcome.bind_eq_ok.mpr ⟨_, rounded, rfl⟩

end Scoring
end Concordance
