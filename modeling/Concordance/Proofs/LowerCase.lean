import Concordance.Text.Basic
import Mathlib.Data.List.Infix

/-! Lower case is reached in one step. No character that lowering yields has a lower-case partner,
so a lower-case text and every part of it stay as they are, whatever stands around them. -/
namespace Concordance

namespace Unicode
variable {c : Char} {run other : CaseRun} {code : Nat}

def CaseRun.image (run : CaseRun) (code : Nat) : Nat := (code + run.offset).toNat

def CaseRun.escapes (run other : CaseRun) : Bool :=
  Nat.blt (run.image run.last) other.first || Nat.blt other.last (run.image run.first) ||
    (List.range (run.last + 1 - run.first)).all fun i =>
      !(run.contains (run.first + i) && other.contains (run.image (run.first + i)))

def Uncased (code : Nat) : Prop := ∀ run ∈ lowerRuns, run.contains code = false

instance (code : Nat) : Decidable (Uncased code) :=
  inferInstanceAs (Decidable (∀ run ∈ lowerRuns, run.contains code = false))

theorem lowerRuns_escape : lowerRuns.all (fun run => lowerRuns.all run.escapes) = true := by
  decide +kernel

theorem lowerRuns_proper :
    ∀ run ∈ lowerRuns, 0 ≤ run.first + run.offset ∧
      (run.last + run.offset < 0xd800 ∨
        0xdfff < run.first + run.offset ∧ run.last + run.offset < 0x110000) := by
  decide +kernel

theorem lowerRuns_miss_dotted : ∀ run ∈ lowerRuns, run.escapes ⟨0x130, 0x130, 1, 0⟩ = true := by
  decide +kernel

theorem lowerRuns_ascii : ∃ others, lowerRuns = ⟨0x41, 0x5a, 1, 32⟩ :: others ∧
    ∀ run ∈ others, 128 ≤ run.first :=
  ⟨lowerRuns.tail, rfl, by decide +kernel⟩

theorem CaseRun.bounds_of_contains (member : run.contains code = true) :
    run.first ≤ code ∧ code ≤ run.last := by
  simp only [CaseRun.contains, Bool.and_eq_true, decide_eq_true_eq] at member
  exact member.1

theorem CaseRun.not_contains_image (free : run.escapes other = true)
    (member : run.contains code = true) : other.contains (run.image code) = false := by
  obtain ⟨least, most⟩ := bounds_of_contains member
  apply Bool.eq_false_iff.mpr
  intro hit
  obtain ⟨low, high⟩ := bounds_of_contains hit
  simp only [escapes, Bool.or_eq_true, Nat.blt_eq, List.all_eq_true, List.mem_range] at free
  rcases free with (below | above) | between
  · have : run.image code ≤ run.image run.last := by
      unfold image
      omega
    omega
  · have : run.image run.first ≤ run.image code := by
      unfold image
      omega
    omega
  · have apart := between (code - run.first) (by omega)
    rw [Nat.add_sub_cancel' least] at apart
    simp [member, hit] at apart

theorem image_isValidChar (known : run ∈ lowerRuns) (member : run.contains code = true) :
    (run.image code).isValidChar := by
  obtain ⟨least, most⟩ := CaseRun.bounds_of_contains member
  have proper := lowerRuns_proper run known
  unfold CaseRun.image Nat.isValidChar
  omega

theorem toNat_ofNat_of_isValidChar (valid : code.isValidChar) : (Char.ofNat code).toNat = code := by
  rw [Char.ofNat, dif_pos valid]
  rfl

theorem uncased_image (known : run ∈ lowerRuns) (member : run.contains code = true) :
    Uncased (run.image code) := by
  intro other further
  have escapes := List.all_eq_true.mp (List.all_eq_true.mp lowerRuns_escape run known) other further
  exact CaseRun.not_contains_image escapes member

theorem image_ne_dotted (known : run ∈ lowerRuns) (member : run.contains code = true) :
    run.image code ≠ 0x130 := by
  intro same
  have missed := CaseRun.not_contains_image (lowerRuns_miss_dotted run known) member
  rw [same] at missed
  exact absurd missed (by decide)

theorem uncased_of_ascii (small : code < 128) (plain : code < 0x41 ∨ 0x5a < code) :
    Uncased code := by
  obtain ⟨others, split, high⟩ := lowerRuns_ascii
  intro run known
  rw [split] at known
  apply Bool.eq_false_iff.mpr
  intro member
  have bounds := CaseRun.bounds_of_contains member
  rcases List.mem_cons.mp known with rfl | later
  · simp only at bounds
    omega
  · have := high run later
    omega

theorem toNat_toLower (c : Char) :
    c.toLower.toNat = if 0x41 ≤ c.toNat ∧ c.toNat ≤ 0x5a then c.toNat + 32 else c.toNat := by
  unfold Char.toLower
  simp only [ge_iff_le, UInt32.le_iff_toNat_le]
  change (if h : 0x41 ≤ c.toNat ∧ c.toNat ≤ 0x5a then _ else c : Char).toNat = _
  split
  next capital =>
    change (c.val + 32).toNat = _
    rw [UInt32.toNat_add]
    change (c.toNat + 32) % 2 ^ 32 = _
    omega
  next other => rfl

theorem lowerChar_cases (c : Char) :
    (∃ run ∈ lowerRuns, run.contains c.toNat = true ∧ (lowerChar c).toNat = run.image c.toNat) ∨
      Uncased c.toNat ∧ lowerChar c = c := by
  unfold lowerChar
  split
  next small =>
    by_cases capital : 0x41 ≤ c.toNat ∧ c.toNat ≤ 0x5a
    · obtain ⟨others, split, _⟩ := lowerRuns_ascii
      refine .inl ⟨⟨0x41, 0x5a, 1, 32⟩, split ▸ List.mem_cons_self, ?_, ?_⟩
      · simp [CaseRun.contains, capital, Nat.mod_one]
      · rw [toNat_toLower, if_pos capital]
        simp [CaseRun.image]
        omega
    · refine .inr ⟨uncased_of_ascii small (by omega), Char.toNat_inj.mp ?_⟩
      rw [toNat_toLower, if_neg capital]
  next large =>
    split
    next run found =>
      have member := List.find?_some found
      have known := List.mem_of_find?_eq_some found
      exact .inl ⟨run, known, member, toNat_ofNat_of_isValidChar (image_isValidChar known member)⟩
    next none =>
      refine .inr ⟨fun run known => ?_, rfl⟩
      simpa using List.find?_eq_none.mp none run known

theorem uncased_lowerChar (c : Char) : Uncased (lowerChar c).toNat := by
  rcases lowerChar_cases c with ⟨run, known, member, image⟩ | ⟨uncased, same⟩
  · rw [image]
    exact uncased_image known member
  · rwa [same]

theorem lowerChar_of_uncased (uncased : Uncased c.toNat) : lowerChar c = c := by
  rcases lowerChar_cases c with ⟨run, known, member, _⟩ | ⟨_, same⟩
  · cases (uncased run known).symm.trans member
  · exact same

theorem lowerChar_ne_dotted (other : c ≠ 'İ') : lowerChar c ≠ 'İ' := by
  rcases lowerChar_cases c with ⟨run, known, member, image⟩ | ⟨_, same⟩
  · intro dotted
    apply image_ne_dotted known member
    rw [← image, dotted]
    rfl
  · rwa [same]

end Unicode

namespace Text
open Unicode
variable {c : Char} {t w : Text}

def Settled (c : Char) : Prop := Uncased c.toNat ∧ c ≠ 'İ'

instance (c : Char) : Decidable (Settled c) :=
  inferInstanceAs (Decidable (Uncased c.toNat ∧ c ≠ 'İ'))

def Lowered (t : Text) : Prop := ∀ c ∈ t, Settled c

theorem lowerBetween_of_settled (settled : Settled c) (before after : Text) :
    lowerBetween before c after = [c] := by
  have other : c ≠ 'Σ' := by
    rintro rfl
    exact absurd settled (by decide)
  rw [lowerBetween, if_neg settled.2, if_neg other, lowerChar_of_uncased settled.1]

theorem lowered_lowerBetween (before : Text) (c : Char) (after : Text) :
    Lowered (lowerBetween before c after) := by
  have i : Settled 'i' := by decide +kernel
  have dot : Settled '\u0307' := by decide +kernel
  have sigma : Settled 'σ' := by decide +kernel
  have finalSigma : Settled 'ς' := by decide +kernel
  unfold lowerBetween
  split
  next => exact List.forall_mem_cons.mpr ⟨i, List.forall_mem_singleton.mpr dot⟩
  next plain =>
    split
    next =>
      intro d member
      obtain rfl := List.mem_singleton.mp member
      split
      · exact finalSigma
      · exact sigma
    next =>
      intro d member
      obtain rfl := List.mem_singleton.mp member
      exact ⟨uncased_lowerChar c, lowerChar_ne_dotted plain⟩

theorem lowered_lowerFrom (before t : Text) : Lowered (lowerFrom before t) := by
  induction t generalizing before with
  | nil => exact List.forall_mem_nil _
  | cons c after ih =>
    exact List.forall_mem_append.mpr ⟨lowered_lowerBetween before c after, ih (c :: before)⟩

theorem lowered_lower (t : Text) : Lowered (lower t) := lowered_lowerFrom [] t

theorem lowerFrom_of_lowered (lowered : Lowered t) (before : Text) : lowerFrom before t = t := by
  induction t generalizing before with
  | nil => rfl
  | cons c after ih =>
    obtain ⟨first, rest⟩ := List.forall_mem_cons.mp lowered
    rw [lowerFrom, lowerBetween_of_settled first, ih rest, List.singleton_append]

theorem lower_of_lowered (lowered : Lowered t) : lower t = t := lowerFrom_of_lowered lowered []

theorem Lowered.part (lowered : Lowered t) (within : w <:+: t) : Lowered w :=
  fun c member => lowered c (within.subset member)

end Text
end Concordance
