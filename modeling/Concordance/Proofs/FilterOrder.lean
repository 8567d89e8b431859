import Concordance.Proofs.IntegerRounding
import Concordance.Proofs.OptionsKey

/-! The order of filters. They are tried one after the other up to the first that does not accept
the record, so all accept it exactly if each does alone. What depends on the order is whether a
filter is tried that cannot be: a number filter that comes to an integer which no floating-point
number is near. -/
namespace Concordance

namespace Value
variable {value : Value} {f : Failure}

def IsBeyond : Value → Prop
  | .int n => ¬Binary64.InReach n
  | _ => False

theorem toNumber?_int (n : Int) :
    (int n).toNumber? = Binary64.ofInt? n >>= fun x => pure (some x) := rfl

theorem toNumber?_eq_error :
    value.toNumber? = .error f ↔ f = .integerTooLarge ∧ value.IsBeyond := by
  cases value with
  | int n =>
    rw [toNumber?_int, Outcome.bind_eq_error, Binary64.ofInt?_eq_error]
    refine or_iff_left ?_
    rintro ⟨x, _, failed⟩
    cases failed
  | _ => simp [toNumber?, IsBeyond]

end Value

namespace MetadataFilter
variable {record actual stop expected : Value} {wrong : Binary64 → Bool} {f : Failure}
  {filter : MetadataFilter} {filters others : List (Text × MetadataFilter)}
  {entry : Text × MetadataFilter} {answer : Except Failure Bool}

theorem withinEnd_eq_error :
    withinEnd wrong stop = .error f ↔ f = .integerTooLarge ∧ stop.IsBeyond := by
  unfold withinEnd
  split
  next missing =>
    cases stop <;> simp_all [Value.isNull, Value.IsBeyond]
  next =>
    rw [Outcome.bind_eq_error, Value.toNumber?_eq_error]
    refine or_iff_left ?_
    rintro ⟨number, _, failed⟩
    cases number <;> cases failed

/-- Whether comparing a value with a range comes to an integer beyond the finite numbers: the value
itself, the lower end, or the upper end of a value that is not below the lower. -/
def Overflows (actual expected : Value) : Prop :=
  actual.IsBeyond ∨ ∃ x, actual.toNumber? = .ok (some x) ∧
    (expected.range.1.IsBeyond ∨
      withinEnd (Binary64.lt x) expected.range.1 = .ok true ∧ expected.range.2.IsBeyond)

theorem inNumberRange_eq_error : inNumberRange actual expected = .error f ↔
    f = .integerTooLarge ∧ Overflows actual expected := by
  unfold inNumberRange Overflows
  rw [Outcome.bind_eq_error, Value.toNumber?_eq_error, and_or_left]
  refine or_congr_right ?_
  constructor
  · rintro ⟨number, read, failed⟩
    cases number with
    | none => cases failed
    | some x =>
      obtain low | ⟨passed, low, failed⟩ := Outcome.bind_eq_error.mp failed
      · obtain ⟨large, beyond⟩ := withinEnd_eq_error.mp low
        exact ⟨large, x, read, .inl beyond⟩
      · cases passed with
        | false => cases failed
        | true =>
          obtain ⟨large, beyond⟩ := withinEnd_eq_error.mp failed
          exact ⟨large, x, read, .inr ⟨low, beyond⟩⟩
  · rintro ⟨large, x, read, beyond | ⟨low, beyond⟩⟩
    · refine ⟨some x, read, Outcome.bind_eq_error.mpr (.inl ?_)⟩
      exact withinEnd_eq_error.mpr ⟨large, beyond⟩
    · refine ⟨some x, read, Outcome.bind_eq_error.mpr (.inr ⟨true, low, ?_⟩)⟩
      exact withinEnd_eq_error.mpr ⟨large, beyond⟩

/-- Whether the filter on a field cannot be tried on a record. -/
def Stuck (record : Value) (entry : Text × MetadataFilter) : Prop :=
  entry.2.kind = .number ∧ Overflows (record.field entry.1) entry.2.value

theorem not_overflows_of_missing (missing : isMissing actual = true) :
    ¬Overflows actual expected := by
  have blank : (Value.text []).toNumber? = .ok none := by rfl
  cases actual with
  | null =>
    rintro (beyond | ⟨x, read, _⟩)
    · exact beyond
    · cases read
  | text t =>
    cases List.isEmpty_iff.mp missing
    rintro (beyond | ⟨x, read, _⟩)
    · exact beyond
    · cases blank.symm.trans read
  | _ => cases missing

theorem matchesField_eq_error : matchesField record entry.1 entry.2 = .error f ↔
    f = .integerTooLarge ∧ Stuck record entry := by
  unfold matchesField acceptsPresent Stuck
  split
  next missing =>
    exact iff_of_false (fun failed => by cases failed)
      fun stuck => not_overflows_of_missing missing stuck.2.2
  next =>
    unfold accepts
    cases kind : entry.2.kind with
    | number => simp [inNumberRange_eq_error]
    | _ => simp

theorem matchesAll_eq_iff (refused : answer ≠ .ok true) : matchesAll record filters = answer ↔
    ∃ before entry after, filters = before ++ entry :: after ∧
      (∀ e ∈ before, matchesField record e.1 e.2 = .ok true) ∧
      matchesField record entry.1 entry.2 = answer := by
  induction filters with
  | nil =>
    refine iff_of_false (fun accepted => refused accepted.symm) ?_
    rintro ⟨before, entry, after, split, _⟩
    simp at split
  | cons first filters ih =>
    have step : matchesAll record (first :: filters) = matchesField record first.1 first.2 >>=
        fun accepted => if accepted then matchesAll record filters else pure false := rfl
    constructor
    · intro outcome
      by_cases accepted : matchesField record first.1 first.2 = .ok true
      · rw [step, accepted] at outcome
        obtain ⟨before, entry, after, rfl, passed, last⟩ := ih.mp outcome
        refine ⟨first :: before, entry, after, rfl, ?_, last⟩
        exact List.forall_mem_cons.mpr ⟨accepted, passed⟩
      · refine ⟨[], first, filters, rfl, List.forall_mem_nil _, ?_⟩
        rw [← outcome, step]
        cases tried : matchesField record first.1 first.2 with
        | error f => rfl
        | ok reply =>
          cases reply with
          | true => exact absurd tried accepted
          | false => rfl
    · rintro ⟨before, entry, after, split, passed, last⟩
      cases before with
      | nil =>
        obtain ⟨rfl, rfl⟩ := List.cons.inj split
        rw [step, last]
        cases answer with
        | error f => rfl
        | ok reply =>
          cases reply with
          | true => exact absurd rfl refused
          | false => rfl
      | cons head before =>
        obtain ⟨rfl, rfl⟩ := List.cons.inj split
        obtain ⟨accepted, passed⟩ := List.forall_mem_cons.mp passed
        rw [step, accepted]
        exact ih.mpr ⟨before, entry, after, rfl, passed, last⟩

theorem matchesAll_eq_error : matchesAll record filters = .error f ↔ f = .integerTooLarge ∧
    ∃ before entry after, filters = before ++ entry :: after ∧
      (∀ e ∈ before, matchesField record e.1 e.2 = .ok true) ∧ Stuck record entry := by
  have failure : (.error f : Except Failure Bool) ≠ .ok true := nofun
  simp only [matchesAll_eq_iff failure, matchesField_eq_error]
  constructor
  · rintro ⟨before, entry, after, split, passed, large, stuck⟩
    exact ⟨large, before, entry, after, split, passed, stuck⟩
  · rintro ⟨large, before, entry, after, split, passed, stuck⟩
    exact ⟨before, entry, after, split, passed, large, stuck⟩

theorem matchesAll_answers (free : ∀ entry ∈ filters, ¬Stuck record entry) :
    ∃ answer, matchesAll record filters = .ok answer := by
  cases outcome : matchesAll record filters with
  | ok answer => exact ⟨answer, rfl⟩
  | error f =>
    obtain ⟨_, before, entry, after, rfl, _, stuck⟩ := matchesAll_eq_error.mp outcome
    exact absurd stuck (free entry (by simp))

theorem matchesAll_of_stuck (member : entry ∈ filters) (stuck : Stuck record entry)
    (unrefused : ∀ entry ∈ filters, matchesField record entry.1 entry.2 ≠ .ok false) :
    matchesAll record filters = .error .integerTooLarge := by
  cases outcome : matchesAll record filters with
  | error f => rw [(matchesAll_eq_error.mp outcome).1]
  | ok answer =>
    cases answer with
    | true =>
      have failed := matchesField_eq_error.mpr ⟨rfl, stuck⟩
      cases failed.symm.trans (matchesAll_eq_true.mp outcome entry member)
    | false =>
      obtain ⟨other, listed, refused⟩ := exists_of_matchesAll_eq_false outcome
      exact absurd refused (unrefused other listed)

theorem exists_perm_of_mem (member : entry ∈ filters)
    (tried : matchesField record entry.1 entry.2 = answer) (refused : answer ≠ .ok true) :
    ∃ others, others.Perm filters ∧ matchesAll record others = answer := by
  obtain ⟨before, after, rfl⟩ := List.append_of_mem member
  refine ⟨entry :: (before ++ after), List.perm_middle.symm, (matchesAll_eq_iff refused).mpr ?_⟩
  exact ⟨[], entry, before ++ after, rfl, List.forall_mem_nil _, tried⟩

theorem order_irrelevant_iff :
    (∀ others, others.Perm filters → matchesAll record others = matchesAll record filters) ↔
      (∀ entry ∈ filters, ¬Stuck record entry) ∨
        ∀ entry ∈ filters, matchesField record entry.1 entry.2 ≠ .ok false := by
  constructor
  · intro same
    by_contra both
    simp only [not_or, not_forall, not_not] at both
    obtain ⟨⟨first, member, stuck⟩, second, other, refused⟩ := both
    obtain ⟨failing, perm, failed⟩ :=
      exists_perm_of_mem member (matchesField_eq_error.mpr ⟨rfl, stuck⟩) (by simp)
    obtain ⟨refusing, arranged, refused⟩ := exists_perm_of_mem other refused (by simp)
    rw [same failing perm] at failed
    rw [same refusing arranged, failed] at refused
    cases refused
  · intro harmless others perm
    have members (entry) : entry ∈ filters ↔ entry ∈ others := perm.mem_iff.symm
    by_cases stuck : ∃ entry ∈ filters, Stuck record entry
    · obtain ⟨entry, member, stuck⟩ := stuck
      have unrefused := harmless.resolve_left fun free => free entry member stuck
      rw [matchesAll_of_stuck member stuck unrefused]
      exact matchesAll_of_stuck ((members entry).mp member) stuck
        fun other listed => unrefused other ((members other).mpr listed)
    · have free : ∀ entry ∈ filters, ¬Stuck record entry :=
        fun entry member among => stuck ⟨entry, member, among⟩
      obtain ⟨answer, mine⟩ := matchesAll_answers free
      have further : ∀ entry ∈ others, ¬Stuck record entry :=
        fun entry member => free entry ((members entry).mpr member)
      obtain ⟨reply, theirs⟩ := matchesAll_answers further
      rw [mine, theirs, matchesAll_congr members mine theirs]

/-- A record satisfies filters exactly if it satisfies each of them alone. They fail only for
integers beyond the floating-point numbers, where a number filter that cannot be tried comes before
any that refuses the record; so their order matters exactly if there are filters of both kinds. -/
theorem satisfied_iff_each_alone (record : Value) (filters : List (Text × MetadataFilter)) :
    (matchesAll record filters = .ok true ↔
      ∀ entry ∈ filters, matchesField record entry.1 entry.2 = .ok true) ∧
    (∀ f, matchesAll record filters = .error f ↔ f = .integerTooLarge ∧
      ∃ before entry after, filters = before ++ entry :: after ∧
        (∀ e ∈ before, matchesField record e.1 e.2 = .ok true) ∧ Stuck record entry) ∧
    ((∀ others, others.Perm filters → matchesAll record others = matchesAll record filters) ↔
      (∀ entry ∈ filters, ¬Stuck record entry) ∨
        ∀ entry ∈ filters, matchesField record entry.1 entry.2 ≠ .ok false) :=
  ⟨matchesAll_eq_true, fun _ => matchesAll_eq_error, order_irrelevant_iff⟩

def oversized : Value :=
  .map [("n".toList, .int (10 ^ 400 : Nat)), ("lang".toList, .text "en".toList)]

def positiveInFrench : List (Text × MetadataFilter) :=
  [("n".toList, ⟨.number, .map [("min".toList, .int 0)]⟩),
    ("lang".toList, ⟨.category, .text "fr".toList⟩)]

theorem oversized_number_hides_refusal :
    matchesAll oversized positiveInFrench.reverse = .ok false ∧
    ¬∀ (record : Value) (filters : List (Text × MetadataFilter)),
      (∃ answer, matchesAll record filters = .ok answer ∧ (answer = true ↔
        ∀ entry ∈ filters, matchesField record entry.1 entry.2 = .ok true)) ∧
      ∀ others, others.Perm filters → matchesAll record others = matchesAll record filters := by
  have refused : matchesAll oversized positiveInFrench.reverse = .ok false := by decide +kernel
  have failed : matchesAll oversized positiveInFrench = .error .integerTooLarge := by
    decide +kernel
  refine ⟨refused, fun all => ?_⟩
  obtain ⟨answer, answered, _⟩ := (all oversized positiveInFrench).1
  cases failed.symm.trans answered

end MetadataFilter
end Concordance
