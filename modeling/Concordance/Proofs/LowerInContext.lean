import Concordance.Proofs.Words

/-! Lower case of a part of a text. A part is lowered where it stands as it is alone, unless a
capital sigma ends a word in one of the two and not in the other. Letters and numbers stay such, and
so do blanks, apostrophes and hyphens; only `İ` becomes longer, by a dot that belongs to no word. -/
namespace Concordance

namespace Unicode
variable {ranges : List (Nat × Nat)} {low high code : Nat} {run : CaseRun} {c : Char}

def letterRanges : List (Nat × Nat) :=
  (0x30, 0x39) :: (0x41, 0x5a) :: (0x61, 0x7a) :: alphanumericRanges

def holdsAll : List (Nat × Nat) → Nat → Nat → Bool
  | [], _, _ => false
  | (first, last) :: rest, low, high =>
    Nat.ble first low && (Nat.ble high last || holdsAll rest low high)

def holdsNone : List (Nat × Nat) → Nat → Nat → Bool
  | [], _, _ => true
  | (first, last) :: rest, low, high =>
    Nat.blt high first || (Nat.blt last low && holdsNone rest low high)

theorem covered_of_holdsAll (all : holdsAll ranges low high = true) (least : low ≤ code)
    (most : code ≤ high) : covered ranges code = true := by
  induction ranges with
  | nil => cases all
  | cons range rest ih =>
    simp only [holdsAll, Bool.and_eq_true, Bool.or_eq_true, Nat.ble_eq] at all
    simp only [covered, Bool.and_eq_true, Bool.or_eq_true, decide_eq_true_eq]
    exact ⟨all.1.trans least, all.2.imp most.trans ih⟩

theorem not_covered_of_holdsNone (none : holdsNone ranges low high = true) (least : low ≤ code)
    (most : code ≤ high) : covered ranges code = false := by
  induction ranges with
  | nil => rfl
  | cons range rest ih =>
    simp only [holdsNone, Bool.or_eq_true, Bool.and_eq_true, Nat.blt_eq] at none
    simp only [covered, Bool.and_eq_false_iff, Bool.or_eq_false_iff, decide_eq_false_iff_not]
    rcases none with above | ⟨below, others⟩
    · exact .inl (by omega)
    · exact .inr ⟨by omega, ih others⟩

def CaseRun.staysIn (ranges : List (Nat × Nat)) (run : CaseRun) : Bool :=
  holdsAll ranges run.first run.last &&
      holdsAll ranges (run.image run.first) (run.image run.last) ||
    holdsNone ranges run.first run.last &&
      holdsNone ranges (run.image run.first) (run.image run.last) ||
    (List.range (run.last + 1 - run.first)).all fun i => !run.contains (run.first + i) ||
      covered ranges (run.first + i) == covered ranges (run.image (run.first + i))

theorem lowerRuns_stayLetters : lowerRuns.all (CaseRun.staysIn letterRanges) = true := by
  decide +kernel

theorem CaseRun.image_between (least : run.first ≤ code) (most : code ≤ run.last) :
    run.image run.first ≤ run.image code ∧ run.image code ≤ run.image run.last := by
  unfold image
  omega

theorem CaseRun.covered_image (stays : run.staysIn ranges = true)
    (member : run.contains code = true) :
    covered ranges (run.image code) = covered ranges code := by
  obtain ⟨least, most⟩ := bounds_of_contains member
  obtain ⟨low, high⟩ := image_between least most
  simp only [staysIn, Bool.or_eq_true, Bool.and_eq_true, List.all_eq_true, List.mem_range,
    Bool.not_eq_true', beq_iff_eq] at stays
  rcases stays with (⟨source, image⟩ | ⟨source, image⟩) | each
  · rw [covered_of_holdsAll source least most, covered_of_holdsAll image low high]
  · rw [not_covered_of_holdsNone source least most, not_covered_of_holdsNone image low high]
  · have same := each (code - run.first) (by omega)
    rw [Nat.add_sub_cancel' least] at same
    rcases same with other | same
    · cases other.symm.trans member
    · exact same.symm

theorem ascii_letters : ∀ code < 128, (Char.ofNat code).isAlphanum = covered letterRanges code := by
  decide +kernel

theorem isAlphanumeric_eq (c : Char) : isAlphanumeric c = covered letterRanges c.toNat := by
  unfold isAlphanumeric
  split
  next small =>
    have ascii := ascii_letters c.toNat small
    rwa [Char.ofNat_toNat] at ascii
  next large =>
    have past : 0x7a < c.toNat := by omega
    simp [letterRanges, covered, show ¬c.toNat ≤ 0x39 by omega, show ¬c.toNat ≤ 0x5a by omega,
      show ¬c.toNat ≤ 0x7a by omega, show 0x30 ≤ c.toNat by omega, show 0x41 ≤ c.toNat by omega,
      show 0x61 ≤ c.toNat by omega]

theorem isAlphanumeric_lowerChar (c : Char) : isAlphanumeric (lowerChar c) = isAlphanumeric c := by
  rcases lowerChar_cases c with ⟨run, known, member, image⟩ | ⟨_, same⟩
  · have stays := List.all_eq_true.mp lowerRuns_stayLetters run known
    rw [isAlphanumeric_eq, isAlphanumeric_eq, image, CaseRun.covered_image stays member]
  · rw [same]

def CaseRun.avoids (run : CaseRun) (code : Nat) : Bool :=
  !run.contains code &&
    (Nat.blt code (run.image run.first) || Nat.blt (run.image run.last) code)

theorem lowerRuns_avoid_blanks : ∀ run ∈ lowerRuns, ∀ code ∈ blankCodes,
    run.avoids code = true := by
  decide +kernel

theorem lowerRuns_avoid_edges : ∀ run ∈ lowerRuns, ∀ code ∈ ['\''.toNat, '-'.toNat],
    run.avoids code = true := by
  decide +kernel

theorem toNat_lowerChar_eq_iff (avoids : ∀ run ∈ lowerRuns, run.avoids code = true) :
    (lowerChar c).toNat = code ↔ c.toNat = code := by
  rcases lowerChar_cases c with ⟨run, known, member, image⟩ | ⟨_, same⟩
  · have apart := avoids run known
    simp only [CaseRun.avoids, Bool.and_eq_true, Bool.not_eq_true', Bool.or_eq_true,
      Nat.blt_eq] at apart
    obtain ⟨low, high⟩ := CaseRun.bounds_of_contains member
    obtain ⟨least, most⟩ := CaseRun.image_between low high
    constructor
    · intro same
      omega
    · rintro rfl
      cases apart.1.symm.trans member
  · rw [same]

theorem isBlank_lowerChar (c : Char) : isBlank (lowerChar c) = isBlank c := by
  have same : ∀ code ∈ blankCodes, (lowerChar c).toNat = code ↔ c.toNat = code :=
    fun code known => toNat_lowerChar_eq_iff fun run member =>
      lowerRuns_avoid_blanks run member code known
  rw [isBlank, isBlank, Bool.eq_iff_iff, List.contains_iff_mem, List.contains_iff_mem]
  constructor
  · intro member
    rwa [(same _ member).mp rfl]
  · intro member
    rwa [(same _ member).mpr rfl]

end Unicode

namespace Text
open Unicode
variable {c d : Char} {p u v before after other behind : Text} {q : Char → Bool}

theorem isEdge_lowerChar (c : Char) : isEdge (lowerChar c) = isEdge c := by
  have same : ∀ edge ∈ ['\'', '-'], lowerChar c = edge ↔ c = edge := by
    intro edge known
    rw [← Char.toNat_inj, ← Char.toNat_inj]
    exact toNat_lowerChar_eq_iff fun run member =>
      lowerRuns_avoid_edges run member _ (List.mem_map_of_mem (f := Char.toNat) known)
  rw [isEdge, isEdge, Bool.eq_iff_iff, List.contains_iff_mem, List.contains_iff_mem]
  constructor
  · intro member
    rwa [(same _ member).mp rfl]
  · intro member
    rwa [(same _ member).mpr rfl]

theorem isWordPart_lowerChar (c : Char) : isWordPart (lowerChar c) = isWordPart c := by
  have edges := isEdge_lowerChar c
  simp only [isEdge, List.contains_cons, List.contains_nil, Bool.or_false] at edges
  simp only [isWordPart, isAlphanumeric_lowerChar, Bool.or_assoc, edges]

def lowerAmid : Text → Text → Text → Text
  | _, [], _ => []
  | before, c :: p, after => lowerBetween before c (p ++ after) ++ lowerAmid (c :: before) p after

theorem lowerAmid_append (before p v after : Text) : lowerAmid before (p ++ v) after =
    lowerAmid before p (v ++ after) ++ lowerAmid (p.reverse ++ before) v after := by
  induction p generalizing before with
  | nil => rfl
  | cons c p ih => simp [lowerAmid, ih]

theorem lowerFrom_eq_lowerAmid (before p : Text) : lowerFrom before p = lowerAmid before p [] := by
  induction p generalizing before with
  | nil => rfl
  | cons c p ih => rw [lowerFrom, lowerAmid, ih, List.append_nil]

theorem lowerFrom_append (before p v : Text) : lowerFrom before (p ++ v) =
    lowerAmid before p v ++ lowerFrom (p.reverse ++ before) v := by
  rw [lowerFrom_eq_lowerAmid, lowerFrom_eq_lowerAmid, lowerAmid_append, List.append_nil]

theorem lower_eq_lowerAmid (p : Text) : lower p = lowerAmid [] p [] := lowerFrom_eq_lowerAmid [] p

theorem lower_append (u p v : Text) : lower (u ++ (p ++ v)) =
    lowerAmid [] u (p ++ v) ++
      (lowerAmid u.reverse p v ++ lowerAmid (p.reverse ++ u.reverse) v []) := by
  rw [lower_eq_lowerAmid, lowerAmid_append, lowerAmid_append, List.append_nil, List.append_nil,
    List.append_nil]

theorem lowerAmid_within (u p v : Text) : lowerAmid u.reverse p v <:+: lower (u ++ (p ++ v)) :=
  ⟨_, _, by rw [lower_append, List.append_assoc]⟩

theorem lowerAmid_of_lowered (lowered : Lowered p) (before after : Text) :
    lowerAmid before p after = p := by
  induction p generalizing before with
  | nil => rfl
  | cons c p ih =>
    obtain ⟨first, rest⟩ := List.forall_mem_cons.mp lowered
    rw [lowerAmid, lowerBetween_of_settled first, ih rest, List.singleton_append]

theorem lowerBetween_eq_iff : lowerBetween before c after = lowerBetween other c behind ↔
    (c = 'Σ' → endsWord before after = endsWord other behind) := by
  by_cases sigma : c = 'Σ'
  · subst sigma
    cases first : endsWord before after <;> cases second : endsWord other behind <;>
      simp [lowerBetween, first, second]
  · simp [lowerBetween, sigma]

theorem length_lowerBetween (before : Text) (c : Char) (after : Text) :
    (lowerBetween before c after).length = 1 + [c].count 'İ' := by
  by_cases dotted : c = 'İ'
  · subst dotted
    rfl
  · by_cases sigma : c = 'Σ' <;> simp [lowerBetween, dotted, sigma]

theorem length_lowerAmid (before p after : Text) :
    (lowerAmid before p after).length = p.length + p.count 'İ' := by
  induction p generalizing before with
  | nil => rfl
  | cons c p ih =>
    have split : (c :: p).count 'İ' = [c].count 'İ' + p.count 'İ' := by
      rw [← List.count_append, List.singleton_append]
    rw [lowerAmid, List.length_append, length_lowerBetween, ih, List.length_cons, split]
    omega

theorem length_lower (p : Text) : (lower p).length = p.length + p.count 'İ' := by
  rw [lower_eq_lowerAmid, length_lowerAmid]

theorem lowerAmid_eq_nil : lowerAmid before p after = [] ↔ p = [] := by
  have few := List.count_le_length (a := 'İ') (l := p)
  rw [← List.length_eq_zero_iff, length_lowerAmid, ← List.length_eq_zero_iff]
  omega

theorem lower_eq_nil : lower p = [] ↔ p = [] := by rw [lower_eq_lowerAmid, lowerAmid_eq_nil]

theorem lowerAmid_eq_iff : lowerAmid before p after = lowerAmid other p behind ↔
    ∀ u v, p = u ++ 'Σ' :: v →
      endsWord (u.reverse ++ before) (v ++ after) =
        endsWord (u.reverse ++ other) (v ++ behind) := by
  induction p generalizing before other with
  | nil => simp [lowerAmid]
  | cons c p ih =>
    have lengths : (lowerBetween before c (p ++ after)).length =
        (lowerBetween other c (p ++ behind)).length := by
      rw [length_lowerBetween, length_lowerBetween]
    have parts : lowerAmid before (c :: p) after = lowerAmid other (c :: p) behind ↔
        lowerBetween before c (p ++ after) = lowerBetween other c (p ++ behind) ∧
          lowerAmid (c :: before) p after = lowerAmid (c :: other) p behind :=
      ⟨fun same => List.append_inj same lengths, fun ⟨first, rest⟩ => by
        rw [lowerAmid, lowerAmid, first, rest]⟩
    rw [parts, lowerBetween_eq_iff, ih]
    constructor
    · rintro ⟨first, rest⟩ u v split
      cases u with
      | nil =>
        obtain ⟨rfl, rfl⟩ := List.cons.inj split
        exact first rfl
      | cons d u =>
        obtain ⟨rfl, rfl⟩ := List.cons.inj split
        simpa using rest u v rfl
    · intro each
      refine ⟨fun sigma => each [] p (by rw [sigma]; rfl), fun u v split => ?_⟩
      simpa using each (c :: u) v (by rw [split]; rfl)

/-- Whether the capital sigmas of a part of a text end words there as they do in the part alone. -/
def KeepsSigmas (u p v : Text) : Prop :=
  ∀ a b, p = a ++ 'Σ' :: b → endsWord (a.reverse ++ u.reverse) (b ++ v) = endsWord a.reverse b

theorem lowerAmid_eq_lower_iff : lowerAmid u.reverse p v = lower p ↔ KeepsSigmas u p v := by
  rw [lower_eq_lowerAmid, lowerAmid_eq_iff]
  simp only [List.append_nil, KeepsSigmas]

theorem endsWord_append (front : ∀ c ∈ u, isCased c = false) (back : ∀ c ∈ v, isCased c = false) :
    endsWord (before ++ u) (after ++ v) = endsWord before after := by
  have first (near far : Text) (plain : ∀ c ∈ far, isCased c = false) :
      ((near ++ far).dropWhile isCaseIgnorable).head?.any isCased =
        (near.dropWhile isCaseIgnorable).head?.any isCased := by
    rw [List.dropWhile_append]
    split
    next passed =>
      have none : (far.dropWhile isCaseIgnorable).head?.any isCased = false :=
        any_eq_false.mpr fun c member =>
          plain c ((List.dropWhile_suffix _).subset (List.mem_of_mem_head? member))
      rw [none, List.isEmpty_iff.mp passed]
      rfl
    next stops => rw [List.head?_append_of_ne_nil _ (by simpa using stops)]
  rw [endsWord, endsWord, first before u front, first after v back]

theorem keepsSigmas_of_uncased (front : ∀ c ∈ u, isCased c = false)
    (back : ∀ c ∈ v, isCased c = false) : KeepsSigmas u p v :=
  fun _ _ _ => endsWord_append (fun c member => front c (List.mem_reverse.mp member)) back

theorem lowerBetween_cases (member : d ∈ lowerBetween before c after) :
    (c = 'İ' ∧ (d = 'i' ∨ d = '\u0307')) ∨ (c = 'Σ' ∧ (d = 'ς' ∨ d = 'σ')) ∨
      c ≠ 'İ' ∧ d = lowerChar c := by
  unfold lowerBetween at member
  split at member
  next dotted => exact .inl ⟨dotted, by simpa using member⟩
  next plain =>
    split at member
    next sigma =>
      refine .inr (.inl ⟨sigma, ?_⟩)
      have same := List.mem_singleton.mp member
      split at same
      · exact .inl same
      · exact .inr same
    next => exact .inr (.inr ⟨plain, List.mem_singleton.mp member⟩)

/-- Whether lowering a character, wherever it stands, yields characters of the same class only. -/
def Steady (q : Char → Bool) : Prop :=
  ∀ before c after, ∀ d ∈ lowerBetween before c after, q d = q c

theorem steady_isBlank : Steady isBlank := by
  intro before c after d member
  rcases lowerBetween_cases member with ⟨rfl, rfl | rfl⟩ | ⟨rfl, rfl | rfl⟩ | ⟨_, rfl⟩
  iterate 4 decide
  exact isBlank_lowerChar c

theorem steady_isEdge : Steady isEdge := by
  intro before c after d member
  rcases lowerBetween_cases member with ⟨rfl, rfl | rfl⟩ | ⟨rfl, rfl | rfl⟩ | ⟨_, rfl⟩
  iterate 4 decide
  exact isEdge_lowerChar c

theorem isWordPart_of_mem_lowerBetween (plain : c ≠ 'İ')
    (member : d ∈ lowerBetween before c after) : isWordPart d = isWordPart c := by
  rcases lowerBetween_cases member with ⟨dotted, _⟩ | ⟨rfl, rfl | rfl⟩ | ⟨_, rfl⟩
  · exact absurd dotted plain
  · decide +kernel
  · decide +kernel
  · exact isWordPart_lowerChar c

theorem lowerBetween_ne_nil (before : Text) (c : Char) (after : Text) :
    lowerBetween before c after ≠ [] := by
  apply List.ne_nil_of_length_pos
  rw [length_lowerBetween]
  omega

theorem Steady.trimmed (steady : Steady q) (trimmed : Trimmed q p) (before after : Text) :
    Trimmed q (lowerAmid before p after) := by
  constructor
  · intro d first
    cases p with
    | nil => cases first
    | cons c p =>
      rw [lowerAmid, List.head?_append_of_ne_nil _ (lowerBetween_ne_nil _ _ _)] at first
      rw [steady _ _ _ d (List.mem_of_mem_head? first)]
      exact trimmed.1 c rfl
  · intro d last
    rcases List.eq_nil_or_concat p with rfl | ⟨u, c, rfl⟩
    · cases last
    · rw [List.concat_eq_append] at last trimmed
      rw [lowerAmid_append, lowerAmid, lowerAmid, List.append_nil,
        List.getLast?_append_of_ne_nil _ (lowerBetween_ne_nil _ _ _)] at last
      rw [steady _ _ _ d (List.mem_of_mem_getLast? last)]
      exact trimmed.2 c List.getLast?_concat

theorem Steady.trimmed_lower (steady : Steady q) (trimmed : Trimmed q p) : Trimmed q (lower p) := by
  rw [lower_eq_lowerAmid]
  exact steady.trimmed trimmed [] []

end Text
end Concordance
