import Concordance.Proofs.Indexing

/-! Collections that cannot be indexed. A value is refused if it is no document, or if it does not
give a text when it is asked for one; a collection is refused for the first of its values that is,
and for nothing else. -/
namespace Concordance.Snapshot
variable {plan : FieldPlan} {s : Settings} {id next : Nat} {value : Value} {values : List Value}
  {error other : IndexError}

inductive Refused (plan : FieldPlan) (id : Nat) (value : Value) : IndexError → Prop
  | unsupported (strange : Document.ofValue? value = none) :
    Refused plan id value (.unsupported (some id) value.typeName)
  | extraction (d : Document) (reason : Text) (known : Document.ofValue? value = some d)
    (failed : d.given plan = .error reason) :
    Refused plan id value (.extraction id reason)
  | notText (d : Document) (given : Value) (known : Document.ofValue? value = some d)
    (gave : d.given plan = .ok given) (something : given ≠ .null)
    (other : ∀ t, given ≠ .text t) :
    Refused plan id value (.notText id given.typeName)

theorem refused_iff {d : Document} (known : Document.ofValue? value = some d) :
    Refused plan id value error ↔ d.indexedText plan id = .error error := by
  unfold Document.indexedText
  constructor
  · intro refused
    cases refused with
    | unsupported strange => cases known.symm.trans strange
    | extraction d reason same failed =>
      cases known.symm.trans same
      rw [failed]
    | notText d given same gave something other =>
      cases known.symm.trans same
      rw [gave]
      cases given with
      | null => exact absurd rfl something
      | text t => exact absurd rfl (other t)
      | _ => rfl
  · intro failed
    split at failed
    next reason given =>
      cases failed
      exact .extraction d reason known given
    next => cases failed
    next => cases failed
    next given something other gave =>
      cases failed
      exact .notText d given known gave something other

theorem enroll_eq_error : enroll plan value id = .error error ↔ Refused plan id value error := by
  unfold enroll Document.read
  cases known : Document.ofValue? value with
  | none =>
    constructor
    · intro failed
      cases failed
      exact .unsupported known
    · intro refused
      cases refused with
      | unsupported => rfl
      | extraction d _ same | notText d _ same => cases known.symm.trans same
  | some d =>
    rw [refused_iff known]
    simp [Outcome.bind_eq_error, pure, Except.pure]

theorem enroll_ok_iff : (∃ entry, enroll plan value id = .ok entry) ↔
    ∀ error, ¬Refused plan id value error := by
  simp only [← enroll_eq_error]
  cases enroll plan value id <;> simp

theorem enrollAll_eq_error : enrollAll plan next values = .error error ↔
    ∃ i value, values[i]? = some value ∧ Refused plan (next + i) value error ∧
      ∀ j < i, ∀ earlier, values[j]? = some earlier →
        ∀ other, ¬Refused plan (next + j) earlier other := by
  induction values generalizing next with
  | nil => simp [enrollAll]
  | cons first values ih =>
    have step : enrollAll plan next (first :: values) = .error error ↔
        Refused plan next first error ∨ (∀ other, ¬Refused plan next first other) ∧
          enrollAll plan (next + 1) values = .error error := by
      simp [enrollAll, Outcome.bind_eq_error, enroll_eq_error, ← enroll_ok_iff, pure, Except.pure]
    rw [step, ih]
    constructor
    · rintro (refused | ⟨fine, i, value, place, refused, before⟩)
      · exact ⟨0, first, rfl, refused, fun j less => absurd less (Nat.not_lt_zero j)⟩
      · refine ⟨i + 1, value, place, by rwa [Nat.add_right_comm] at refused, fun j less => ?_⟩
        cases j with
        | zero =>
          intro earlier place
          cases place
          exact fine
        | succ j =>
          have known := before j (Nat.lt_of_succ_lt_succ less)
          rwa [Nat.add_right_comm] at known
    · rintro ⟨i, value, place, refused, before⟩
      cases i with
      | zero =>
        cases place
        exact .inl refused
      | succ i =>
        refine .inr ⟨before 0 (Nat.succ_pos i) first rfl, i, value, place, ?_, fun j less => ?_⟩
        · rwa [Nat.add_right_comm]
        · have known := before (j + 1) (Nat.succ_lt_succ less)
          rwa [Nat.add_right_comm]

theorem build_eq_error : build s values = .error error ↔
    ∃ i value, values[i]? = some value ∧ Refused s.fieldPlan i value error ∧
      ∀ j < i, ∀ earlier, values[j]? = some earlier →
        ∀ other, ¬Refused s.fieldPlan j earlier other := by
  have enrolled : build s values = .error error ↔
      enrollAll s.fieldPlan 0 values = .error error := by
    unfold build
    cases enrollAll s.fieldPlan 0 values <;> simp [Except.map]
  simp only [enrolled, enrollAll_eq_error, Nat.zero_add]

end Concordance.Snapshot
