import Concordance.Proofs.Earning

/-! Why a hit is not lost. An arithmetic of scores in which the least credit of an occurrence
outlasts discount, addition, damping and rounding gives every text that holds a query word, or a
variant that counts for one, a score above zero. -/
namespace Concordance

def Within (limit : Option Nat) (n : Nat) : Prop := ∀ most ∈ limit, n ≤ most

theorem Within.mono {limit : Option Nat} {m n : Nat} (within : Within limit n) (le : m ≤ n) :
    Within limit m :=
  fun most member => Nat.le_trans le (within most member)

namespace Settings

def leastWeight (s : Settings) : Nat :=
  min s.exactWordWeight (min s.prefixWordWeight s.substringWeight)

def greatestWeight (s : Settings) : Nat :=
  max s.exactWordWeight (max s.prefixWordWeight s.substringWeight)

theorem leastWeight_le (s : Settings) : s.leastWeight ≤ s.exactWordWeight ∧
    s.leastWeight ≤ s.prefixWordWeight ∧ s.leastWeight ≤ s.substringWeight := by
  unfold leastWeight
  omega

theorem le_greatestWeight (s : Settings) : s.exactWordWeight ≤ s.greatestWeight ∧
    s.prefixWordWeight ≤ s.greatestWeight ∧ s.substringWeight ≤ s.greatestWeight := by
  unfold greatestWeight
  omega

end Settings

namespace Text

theorem length_occurrencesFrom_le (needle : Text) (offset skip : Nat) (t : Text) :
    (occurrencesFrom needle offset skip t).length ≤ t.length := by
  induction t generalizing offset skip with
  | nil => simp [occurrencesFrom]
  | cons c t ih =>
    cases skip with
    | succ skip => exact Nat.le_succ_of_le (ih (offset + 1) skip)
    | zero =>
      simp only [occurrencesFrom]
      split
      · exact Nat.succ_le_succ (ih (offset + 1) _)
      · exact Nat.le_succ_of_le (ih (offset + 1) 0)

end Text

namespace WordHits
variable {word t : Text}

def count (hits : WordHits) : Nat := hits.whole + hits.leading + hits.inner

theorem count_placements (placements : List Placement) :
    placements.count .whole + placements.count .leading + placements.count .inner =
      placements.length := by
  induction placements with
  | nil => rfl
  | cons placement placements ih => cases placement <;> simp <;> omega

theorem count_le (word t : Text) : (of word t).count ≤ t.length := by
  unfold of
  split
  · exact Nat.zero_le _
  · simp only [count, count_placements, List.length_map]
    exact Text.length_occurrencesFrom_le word 0 0 t

theorem count_pos_of_found (found : (of word t).found = true) : 0 < (of word t).count := by
  unfold of at found ⊢
  split at found
  · cases found
  next nonempty =>
    simp only [nonempty, Bool.false_eq_true, if_false, count, count_placements, List.length_map]
    apply List.length_pos_iff.mpr
    rintro none
    simp [WordHits.found, none] at found

theorem found_of_occurs (nonempty : word ≠ []) (occurs : Text.occursIn word t = true) :
    (of word t).found = true := by
  have some : Text.occurrences word t ≠ [] := fun none => by
    rw [(Text.occurrencesFrom_eq_nil nonempty 0 t).mp none] at occurs
    cases occurs
  simpa [WordHits.found, of, nonempty, List.isSome_head?] using some

end WordHits

/-- Laws of an arithmetic for settings. Credits and bonuses up to a largest integer can be given,
and as many of them added as there are terms; what is worth a hit when it is given stays so, and is
rounded to more than zero. -/
structure Rewarding (α : Type) [Credit α] (s : Settings) (largest terms : Option Nat) where
  sumOf : Nat → α → Prop
  full : α → Prop
  worth : α → Prop
  none_sum : sumOf 0 Credit.none
  none_unworthy : ¬worth Credit.none
  sum_succ {k x} : sumOf k x → sumOf (k + 1) x
  ofNat {n} : Within largest n → ∃ x, Credit.ofNat n = .ok x ∧ sumOf 1 x ∧
    (s.leastWeight ≤ n → full x)
  worth_of_full {x} : sumOf 1 x → full x → worth x
  discount {x} : sumOf 1 x → sumOf 1 (Credit.mul x (Credit.ofFraction s.fuzzyDiscount)) ∧
    (full x → worth (Credit.mul x (Credit.ofFraction s.fuzzyDiscount)))
  worth_of_not_exceeds {x y} : sumOf 1 x → sumOf 1 y → worth x → Credit.exceeds x y = false →
    worth y
  add {k x y} : Within terms (k + 1) → sumOf k x → sumOf 1 y →
    sumOf (k + 1) (Credit.add x y) ∧ (worth x ∨ worth y → worth (Credit.add x y))
  round {k x} : Within terms k → sumOf k x → worth x → ∃ n, Credit.round x = .ok n ∧ 0 < n
  round_damped {k x} : Within terms k → sumOf k x → worth x →
    ∃ n, Credit.round (Credit.mul x (Credit.ofFraction s.longDocumentPenalty)) = .ok n ∧ 0 < n

namespace Scoring
variable {α : Type} [Credit α] {s : Settings} {largest terms : Option Nat} {word t query : Text}
  {summary : Summary} {words found : List Text} {variants : List (Text × List Text)}

theorem wordCredit_le (s : Settings) (word t : Text) :
    wordCredit s (.of word t) ≤ t.length * s.greatestWeight := by
  obtain ⟨whole, leading, inner⟩ := s.le_greatestWeight
  refine Nat.le_trans ?_ (Nat.mul_le_mul_right _ (WordHits.count_le word t))
  rw [WordHits.count, Nat.add_mul, Nat.add_mul]
  exact Nat.add_le_add (Nat.add_le_add (Nat.mul_le_mul_left _ whole) (Nat.mul_le_mul_left _ leading))
    (Nat.mul_le_mul_left _ inner)

theorem leastWeight_le_wordCredit (found : (WordHits.of word t).found = true) :
    s.leastWeight ≤ wordCredit s (.of word t) := by
  obtain ⟨whole, leading, inner⟩ := s.leastWeight_le
  refine Nat.le_trans (Nat.le_mul_of_pos_left _ (WordHits.count_pos_of_found found)) ?_
  rw [WordHits.count, Nat.add_mul, Nat.add_mul]
  exact Nat.add_le_add (Nat.add_le_add (Nat.mul_le_mul_left _ whole) (Nat.mul_le_mul_left _ leading))
    (Nat.mul_le_mul_left _ inner)

def Holds (variants : List (Text × List Text)) (t word : Text) : Prop :=
  (WordHits.of word t).found = true ∨
    ∃ v ∈ (variants.lookup word).getD [], (WordHits.of v t).found = true

/-- What is due to one word of a query. -/
def Sound (law : Rewarding α s largest terms) (hit : Prop) (e : Earned α) : Prop :=
  law.sumOf 1 e.1 ∧ (hit → law.worth e.1)

theorem ofNat_wordCredit (law : Rewarding α s largest terms)
    (room : Within largest (t.length * s.greatestWeight)) (word : Text) :
    ∃ x : α, Credit.ofNat (wordCredit s (.of word t)) = .ok x ∧ law.sumOf 1 x ∧
      ((WordHits.of word t).found = true → law.full x) := by
  obtain ⟨x, given, sum, full⟩ := law.ofNat (room.mono (wordCredit_le s word t))
  exact ⟨x, given, sum, fun found => full (leastWeight_le_wordCredit found)⟩

def better (s : Settings) (t : Text) (best : Earned α) (variant : Text) :
    Except Failure (Earned α) := do
  let hits := WordHits.of variant t
  if !hits.found then pure best
  else
    let credit ← Credit.ofNat (wordCredit s hits)
    let credit := Credit.mul credit (Credit.ofFraction s.fuzzyDiscount)
    pure (if Credit.exceeds credit best.1 then (credit, hits.first) else best)

theorem bestVariant_eq (s : Settings) (t : Text) (found : List Text) :
    bestVariant s t found = found.foldlM (better s t) ((Credit.none, none) : Earned α) := rfl

theorem better_sound (law : Rewarding α s largest terms)
    (room : Within largest (t.length * s.greatestWeight)) {hit : Prop} {best : Earned α}
    (sound : Sound law hit best) (v : Text) :
    ∃ next, better s t best v = .ok next ∧
      Sound law (hit ∨ (WordHits.of v t).found = true) next := by
  obtain ⟨x, given, sum, full⟩ := ofNat_wordCredit law room v
  obtain ⟨discounted, worth⟩ := law.discount sum
  unfold better
  dsimp only
  cases hits : (WordHits.of v t).found with
  | false => exact ⟨best, rfl, sound.1, by simpa using sound.2⟩
  | true =>
    have worthy := worth (full hits)
    simp only [given, Bool.not_true, Bool.false_eq_true, if_false]
    refine ⟨_, rfl, ?_⟩
    split
    next => exact ⟨discounted, fun _ => worthy⟩
    next less =>
      have kept := law.worth_of_not_exceeds discounted sound.1 worthy (by simpa using less)
      exact ⟨sound.1, fun _ => kept⟩

theorem foldlM_better_sound (law : Rewarding α s largest terms)
    (room : Within largest (t.length * s.greatestWeight)) {hit : Prop} {best : Earned α}
    (sound : Sound law hit best) (found : List Text) :
    ∃ result, found.foldlM (better s t) best = .ok result ∧
      Sound law (hit ∨ ∃ v ∈ found, (WordHits.of v t).found = true) result := by
  induction found generalizing hit best with
  | nil => exact ⟨best, rfl, sound.1, by simpa using sound.2⟩
  | cons v found ih =>
    obtain ⟨next, step, sound⟩ := better_sound law room sound v
    obtain ⟨result, rest, sound⟩ := ih sound
    refine ⟨result, ?_, sound.1, ?_⟩
    · rw [List.foldlM_cons, step]
      exact rest
    · simpa [or_assoc] using sound.2

theorem earned_sound (law : Rewarding α s largest terms)
    (room : Within largest (t.length * s.greatestWeight)) (variants : List (Text × List Text))
    (word : Text) :
    ∃ e : Earned α, earned s t variants word = .ok e ∧ Sound law (Holds variants t word) e := by
  obtain ⟨x, given, sum, full⟩ := ofNat_wordCredit law room word
  unfold earned Holds
  dsimp only
  rw [given]
  cases hits : (WordHits.of word t).found with
  | true => exact ⟨_, rfl, sum, fun _ => law.worth_of_full sum (full hits)⟩
  | false =>
    have start : Sound law False ((Credit.none, none) : Earned α) :=
      ⟨law.sum_succ law.none_sum, False.elim⟩
    obtain ⟨e, best, sound⟩ :=
      foldlM_better_sound law room start ((variants.lookup word).getD [])
    rw [← bestVariant_eq] at best
    refine ⟨e, best, sound.1, fun holds => sound.2 ?_⟩
    simpa using holds

def withCredit (sum : α × Nat) (e : Earned α) : α × Nat :=
  if Credit.exceeds e.1 Credit.none then (Credit.add sum.1 e.1, sum.2 + 1) else sum

theorem total_eq (earnings : List (Earned α)) :
    total earnings = earnings.foldl withCredit (Credit.none, 0) := by
  unfold total withCredit
  rfl

structure Summed (law : Rewarding α s largest terms) (k : Nat) (hit : Prop) (sum : α × Nat) :
    Prop where
  bounded : law.sumOf k sum.1
  count_le : sum.2 ≤ k
  worth : hit → law.worth sum.1
  counted : hit → 1 ≤ sum.2

theorem withCredit_summed (law : Rewarding α s largest terms) {k : Nat} {before hit : Prop}
    {sum : α × Nat} {e : Earned α} (room : Within terms (k + 1))
    (summed : Summed law k before sum) (sound : Sound law hit e) :
    Summed law (k + 1) (before ∨ hit) (withCredit sum e) := by
  unfold withCredit
  split
  next =>
    obtain ⟨added, grown⟩ := law.add room summed.bounded sound.1
    exact ⟨added, Nat.succ_le_succ summed.count_le, fun some => grown (some.imp summed.worth sound.2),
      fun _ => Nat.le_add_left 1 _⟩
  next nothing =>
    have absent : ¬hit := fun holds => law.none_unworthy
      (law.worth_of_not_exceeds sound.1 (law.sum_succ law.none_sum) (sound.2 holds)
        (by simpa using nothing))
    exact ⟨law.sum_succ summed.bounded, Nat.le_succ_of_le summed.count_le,
      fun some => summed.worth (some.resolve_right absent),
      fun some => summed.counted (some.resolve_right absent)⟩

theorem foldl_withCredit_summed (law : Rewarding α s largest terms) {earnings : List (Earned α)}
    (each : List.Forall₂ (fun word => Sound law (Holds variants t word)) words earnings) {k : Nat}
    {before : Prop} {sum : α × Nat} (room : Within terms (k + words.length))
    (summed : Summed law k before sum) :
    Summed law (k + words.length) (before ∨ ∃ word ∈ words, Holds variants t word)
      (earnings.foldl withCredit sum) := by
  -- the hit may be among the words that the sum holds already, so it is carried along as before
  induction each generalizing k before sum with
  | nil => simpa using summed
  | @cons word e words earnings sound each ih =>
    have length : k + (word :: words).length = k + 1 + words.length := by
      rw [List.length_cons]
      omega
    rw [length] at room ⊢
    have next := withCredit_summed law (room.mono (Nat.le_add_right _ _)) summed sound
    simpa [or_assoc] using ih room next

theorem total_summed (law : Rewarding α s largest terms) {earnings : List (Earned α)}
    (each : List.Forall₂ (fun word => Sound law (Holds variants t word)) words earnings)
    (room : Within terms words.length) :
    Summed law words.length (∃ word ∈ words, Holds variants t word) (total earnings) := by
  have start : Summed law 0 False ((Credit.none, 0) : α × Nat) :=
    ⟨law.none_sum, Nat.le_refl 0, False.elim, False.elim⟩
  rw [total_eq]
  rw [← Nat.zero_add words.length] at room ⊢
  simpa using foldl_withCredit_summed law each room start

theorem addIf_sound (law : Rewarding α s largest terms) {k bonus : Nat} {hit : Prop} {sum : α}
    (few : Within terms (k + 1)) (small : Within largest bonus) (bounded : law.sumOf k sum)
    (worth : hit → law.worth sum) (due : Bool) :
    ∃ next, addIf due bonus sum = .ok next ∧ law.sumOf (k + 1) next ∧ (hit → law.worth next) := by
  obtain ⟨x, given, one, _⟩ := law.ofNat small
  obtain ⟨added, grown⟩ := law.add few bounded one
  cases due with
  | true =>
    refine ⟨Credit.add sum x, ?_, added, fun holds => grown (.inl (worth holds))⟩
    simp only [addIf, given, if_true]
    rfl
  | false => exact ⟨sum, rfl, law.sum_succ bounded, worth⟩

structure Fits (s : Settings) (largest terms : Option Nat) (t : Text) (words : List Text) : Prop where
  credits : Within largest (t.length * s.greatestWeight)
  several : Within largest (words.length * s.multiWordBonus)
  phrase : Within largest s.exactPhraseBonus
  leading : Within largest s.leadingWordsBonus
  position : Within largest s.positionBonusMax
  terms : Within terms (words.length + 4)

theorem scoreText_rewarded (law : Rewarding α s largest terms) (fits : Fits s largest terms t words)
    (hit : ∃ word ∈ words, Holds variants t word) (summary : Summary) (query : Text) :
    ∃ score count, @scoreText α _ s t summary words query variants = .ok (score, count) ∧
      0 < score ∧ 1 ≤ count := by
  obtain ⟨earnings, all, each⟩ := Outcome.mapM_eq_ok fun word (_ : word ∈ words) =>
    earned_sound law fits.credits variants word
  have few (k : Nat) (le : k ≤ 4) : Within terms (words.length + k) :=
    fits.terms.mono (Nat.add_le_add_left le _)
  have summed := total_summed law each (few 0 (by decide))
  have several : Within largest ((total earnings).2 * s.multiWordBonus) :=
    fits.several.mono (Nat.mul_le_mul_right _ summed.count_le)
  have position : Within largest (positionBonus s (earnings.head?.bind (·.2))) := by
    refine fits.position.mono ?_
    unfold positionBonus
    split
    · exact Nat.zero_le _
    · exact Nat.sub_le _ _
  obtain ⟨_, first, bounded, worth⟩ := addIf_sound law (few 1 (by decide)) several summed.bounded
    summed.worth (1 < words.length && 1 < (total earnings).2)
  obtain ⟨_, second, bounded, worth⟩ := addIf_sound law (few 2 (by decide)) fits.phrase bounded
    worth (3 < query.length && Text.occursIn query t)
  obtain ⟨_, third, bounded, worth⟩ := addIf_sound law (few 3 (by decide)) fits.leading bounded
    worth (words.head?.any fun w => Text.occursIn w summary.firstWords)
  obtain ⟨sum, fourth, bounded, worth⟩ := addIf_sound law (few 4 (by decide)) position bounded
    worth true
  have rounded : ∃ score, Credit.round (if s.longDocumentWords < summary.wordCount then
      Credit.mul sum (Credit.ofFraction s.longDocumentPenalty) else sum) = .ok score ∧
        0 < score := by
    split
    · exact law.round_damped fits.terms bounded (worth hit)
    · exact law.round fits.terms bounded (worth hit)
  obtain ⟨score, round, positive⟩ := rounded
  refine ⟨score, (total earnings).2, ?_, positive, summed.counted hit⟩
  refine Outcome.bind_eq_ok.mpr ⟨_, all, ?_⟩
  refine Outcome.bind_eq_ok.mpr ⟨_, first, ?_⟩
  refine Outcome.bind_eq_ok.mpr ⟨_, second, ?_⟩
  refine Outcome.bind_eq_ok.mpr ⟨_, third, ?_⟩
  refine Outcome.bind_eq_ok.mpr ⟨_, fourth, ?_⟩
  exact Outcome.bind_eq_ok.mpr ⟨_, round, rfl⟩

end Scoring
end Concordance
