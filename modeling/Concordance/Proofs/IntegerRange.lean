import Concordance.Proofs.FilterOrder

/-! Ranges of integers. A number filter rounds the value of the field and the ends of its range to
floating-point numbers before it compares them. It passes over no integer of the range, but lets
those outside through that are rounded to the same number as an end; there are none up to 2^53. -/
namespace Concordance

open Binary64

def Value.stop : Option Int → Value
  | none => .null
  | some n => .int n

namespace MetadataFilter
variable {record actual stop value : Value} {name : Text} {v n : Int} {lo hi : Option Int}
  {wrong : Binary64 → Bool}

def AtLeast (lo : Option Int) (v : Int) : Prop := ∀ l ∈ lo, l ≤ v ∨ ofInt v = ofInt l

def AtMost (hi : Option Int) (v : Int) : Prop := ∀ h ∈ hi, v ≤ h ∨ ofInt h = ofInt v

def EndInReach (stop : Option Int) : Prop := ∀ n ∈ stop, InReach n

theorem isBeyond_stop {stop : Option Int} : (Value.stop stop).IsBeyond ↔ ¬EndInReach stop := by
  cases stop with
  | none => simp [Value.stop, Value.IsBeyond, EndInReach]
  | some n => simp [Value.stop, Value.IsBeyond, EndInReach]

theorem toNumber?_int_eq_some {x : Binary64} :
    (Value.int v).toNumber? = .ok (some x) ↔ InReach v ∧ ofInt v = x := by
  rw [Value.toNumber?_int, ← ofInt?_eq_ok, Outcome.bind_eq_ok]
  constructor
  · rintro ⟨y, rounded, same⟩
    cases same
    exact rounded
  · exact fun rounded => ⟨x, rounded, rfl⟩

theorem withinEnd_eq_true (present : stop.isNull = false) : withinEnd wrong stop = .ok true ↔
    ∃ x, stop.toNumber? = .ok (some x) ∧ wrong x = false := by
  rw [withinEnd, present, if_neg Bool.false_ne_true, Outcome.bind_eq_ok]
  constructor
  · rintro ⟨number, read, ok⟩
    cases number with
    | none => cases ok
    | some x => exact ⟨x, read, by simpa [pure, Except.pure] using ok⟩
  · rintro ⟨x, read, right⟩
    exact ⟨some x, read, by simp [right, pure, Except.pure]⟩

theorem withinEnd_stop {stop : Option Int} : withinEnd wrong (Value.stop stop) = .ok true ↔
    EndInReach stop ∧ ∀ n ∈ stop, wrong (ofInt n) = false := by
  cases stop with
  | none => exact iff_of_true rfl (by simp [EndInReach])
  | some n =>
    rw [Value.stop, withinEnd_eq_true rfl]
    simp only [toNumber?_int_eq_some, and_assoc, exists_and_left, exists_eq_left', EndInReach,
      Option.mem_some_iff, forall_eq']

theorem withinEnd_lower (reach : InReach v) :
    withinEnd (lt (ofInt v)) (Value.stop lo) = .ok true ↔ EndInReach lo ∧ AtLeast lo v := by
  rw [withinEnd_stop]
  refine and_congr_right fun near => forall₂_congr fun l member => ?_
  exact not_lt_ofInt_iff reach (near l member)

theorem withinEnd_upper (reach : InReach v) :
    withinEnd (fun h => lt h (ofInt v)) (Value.stop hi) = .ok true ↔
      EndInReach hi ∧ AtMost hi v := by
  rw [withinEnd_stop]
  refine and_congr_right fun near => forall₂_congr fun h member => ?_
  exact not_lt_ofInt_iff (near h member) reach

theorem inNumberRange_eq_true : inNumberRange actual value = .ok true ↔
    ∃ x, actual.toNumber? = .ok (some x) ∧ withinEnd (lt x) value.range.1 = .ok true ∧
      withinEnd (fun h => lt h x) value.range.2 = .ok true := by
  unfold inNumberRange
  rw [Outcome.bind_eq_ok]
  constructor
  · rintro ⟨number, read, ok⟩
    cases number with
    | none => cases ok
    | some x =>
      obtain ⟨passed, low, ok⟩ := Outcome.bind_eq_ok.mp ok
      cases passed with
      | false => cases ok
      | true => exact ⟨x, read, low, ok⟩
  · rintro ⟨x, read, low, high⟩
    exact ⟨some x, read, Outcome.bind_eq_ok.mpr ⟨true, low, high⟩⟩

theorem inNumberRange_int (ends : value.range = (Value.stop lo, Value.stop hi)) :
    inNumberRange (.int v) value = .ok true ↔
      InReach v ∧ (EndInReach lo ∧ AtLeast lo v) ∧ EndInReach hi ∧ AtMost hi v := by
  rw [inNumberRange_eq_true, ends]
  constructor
  · rintro ⟨x, read, low, high⟩
    obtain ⟨reach, rfl⟩ := toNumber?_int_eq_some.mp read
    exact ⟨reach, (withinEnd_lower reach).mp low, (withinEnd_upper reach).mp high⟩
  · rintro ⟨reach, low, high⟩
    exact ⟨ofInt v, toNumber?_int_eq_some.mpr ⟨reach, rfl⟩, (withinEnd_lower reach).mpr low,
      (withinEnd_upper reach).mpr high⟩

theorem overflows_int (ends : value.range = (Value.stop lo, Value.stop hi)) :
    Overflows (.int v) value ↔
      ¬InReach v ∨ ¬EndInReach lo ∨ AtLeast lo v ∧ ¬EndInReach hi := by
  by_cases reach : InReach v
  · have within : ¬(Value.int v).IsBeyond := fun far => far reach
    have read {x : Binary64} : (Value.int v).toNumber? = .ok (some x) ↔ ofInt v = x := by
      rw [toNumber?_int_eq_some, and_iff_right reach]
    simp only [Overflows, within, ends, read, exists_eq_left', withinEnd_lower reach,
      isBeyond_stop, reach]
    by_cases near : EndInReach lo <;> simp [near]
  · exact iff_of_true (.inl reach) (.inl reach)

theorem matchesAll_singleton (record : Value) (name : Text) (filter : MetadataFilter) :
    matchesAll record [(name, filter)] = matchesField record name filter := by
  have step : matchesAll record [(name, filter)] = matchesField record name filter >>=
      fun accepted => if accepted then .ok true else pure false := rfl
  rw [step]
  cases matchesField record name filter with
  | error f => rfl
  | ok answer => cases answer <;> rfl

theorem matchesAll_number (held : record.field name = .int v) :
    matchesAll record [(name, ⟨.number, value⟩)] = inNumberRange (.int v) value := by
  rw [matchesAll_singleton, matchesField, held]
  rfl

theorem AtLeast.near (low : AtLeast lo v) (reach : InReach v) (ends : EndInReach lo) :
    ∀ l ∈ lo, 2 ^ 53 * (l - v) ≤ l.natAbs + v.natAbs := by
  intro l member
  rcases low l member with le | same
  · omega
  · have close := apart_of_ofInt_eq (ends l member) reach same.symm
    omega

theorem AtMost.near (high : AtMost hi v) (reach : InReach v) (ends : EndInReach hi) :
    ∀ h ∈ hi, 2 ^ 53 * (v - h) ≤ v.natAbs + h.natAbs := by
  intro h member
  rcases high h member with le | same
  · omega
  · have close := apart_of_ofInt_eq reach (ends h member) same.symm
    omega

/-- Whether an integer is one of those up to which all are floating-point numbers. -/
def Precise (n : Int) : Prop := n.natAbs ≤ 2 ^ 53

theorem Precise.inReach (precise : Precise n) : InReach n := inReach_of_le precise

theorem atLeast_iff_of_precise (own : Precise v) (ends : ∀ l ∈ lo, Precise l) :
    AtLeast lo v ↔ ∀ l ∈ lo, l ≤ v := by
  refine forall₂_congr fun l member => or_iff_left_of_imp fun same => ?_
  exact Int.le_of_eq (eq_of_ofInt_eq own (ends l member) same).symm

theorem atMost_iff_of_precise (own : Precise v) (ends : ∀ h ∈ hi, Precise h) :
    AtMost hi v ↔ ∀ h ∈ hi, v ≤ h := by
  refine forall₂_congr fun h member => or_iff_left_of_imp fun same => ?_
  exact Int.le_of_eq (eq_of_ofInt_eq (ends h member) own same).symm

/-- A range of integers lets an integer through exactly if it is in the range or rounded to the same
number as an end, all being in reach; it fails if one is compared that is not. So what it lets
through is never far from the range, and up to 2^53 in it. -/
theorem integer_range_is_rounded (held : record.field name = .int v)
    (ends : value.range = (Value.stop lo, Value.stop hi)) :
    (matchesAll record [(name, ⟨.number, value⟩)] = .ok true ↔
      InReach v ∧ (EndInReach lo ∧ AtLeast lo v) ∧ EndInReach hi ∧ AtMost hi v) ∧
    (∀ f, matchesAll record [(name, ⟨.number, value⟩)] = .error f ↔ f = .integerTooLarge ∧
      (¬InReach v ∨ ¬EndInReach lo ∨ AtLeast lo v ∧ ¬EndInReach hi)) ∧
    (matchesAll record [(name, ⟨.number, value⟩)] = .ok true →
      (∀ l ∈ lo, 2 ^ 53 * (l - v) ≤ l.natAbs + v.natAbs) ∧
        ∀ h ∈ hi, 2 ^ 53 * (v - h) ≤ v.natAbs + h.natAbs) ∧
    (Precise v → (∀ l ∈ lo, Precise l) → (∀ h ∈ hi, Precise h) →
      ∃ answer, matchesAll record [(name, ⟨.number, value⟩)] = .ok answer ∧
        (answer = true ↔ (∀ l ∈ lo, l ≤ v) ∧ ∀ h ∈ hi, v ≤ h)) := by
  rw [matchesAll_number held]
  refine ⟨inNumberRange_int ends, fun f => ?_, fun passed => ?_, fun own below above => ?_⟩
  · rw [inNumberRange_eq_error, overflows_int ends]
  · obtain ⟨reach, ⟨near, low⟩, far, high⟩ := (inNumberRange_int ends).mp passed
    exact ⟨low.near reach near, high.near reach far⟩
  · have near : EndInReach lo := fun l member => (below l member).inReach
    have far : EndInReach hi := fun h member => (above h member).inReach
    have passes := inNumberRange_int (v := v) ends
    rw [and_iff_right own.inReach, and_iff_right near, and_iff_right far,
      atLeast_iff_of_precise own below, atMost_iff_of_precise own above] at passes
    cases outcome : inNumberRange (.int v) value with
    | ok answer =>
      rw [outcome, Except.ok.injEq] at passes
      exact ⟨answer, rfl, passes⟩
    | error f =>
      obtain ⟨_, fails⟩ := inNumberRange_eq_error.mp outcome
      rcases (overflows_int ends).mp fails with beyond | beyond | ⟨_, beyond⟩
      · exact absurd own.inReach beyond
      · exact absurd near beyond
      · exact absurd far beyond

def powerRecord : Value := .map [("n".toList, .int (2 ^ 53 : Nat))]

def abovePower : Value := .map [("min".toList, .int (2 ^ 53 + 1 : Nat))]

theorem power_counts_as_successor :
    powerRecord.field "n".toList = .int (2 ^ 53 : Nat) ∧
    abovePower.range = (Value.stop (some (2 ^ 53 + 1 : Nat)), Value.stop none) ∧
    matchesAll powerRecord [("n".toList, ⟨.number, abovePower⟩)] = .ok true := by
  have same : ofInt (2 ^ 53 : Nat) = ofInt (2 ^ 53 + 1 : Nat) := by decide +kernel
  have reach : InReach (2 ^ 53 : Nat) ∧ InReach (2 ^ 53 + 1 : Nat) := by decide +kernel
  have held : powerRecord.field "n".toList = .int (2 ^ 53 : Nat) := rfl
  have ends : abovePower.range = (Value.stop (some (2 ^ 53 + 1 : Nat)), Value.stop none) := rfl
  refine ⟨held, ends, (integer_range_is_rounded held ends).1.mpr ?_⟩
  refine ⟨reach.1, ⟨fun l member => ?_, fun l member => ?_⟩, fun _ member => ?_,
    fun _ member => ?_⟩
  · obtain rfl := Option.some.inj member
    exact reach.2
  · obtain rfl := Option.some.inj member
    exact .inr same
  · cases member
  · cases member

theorem integer_range_is_not_exact :
    ¬∀ (record value : Value) (name : Text) (v : Int) (lo hi : Option Int),
      record.field name = .int v → value.range = (Value.stop lo, Value.stop hi) →
      (matchesAll record [(name, ⟨.number, value⟩)] = .ok true ↔
        (∀ l ∈ lo, l ≤ v) ∧ ∀ h ∈ hi, v ≤ h) := by
  intro all
  have passed : matchesAll powerRecord [("n".toList, ⟨.number, abovePower⟩)] = .ok true := by
    decide +kernel
  have inside := (all powerRecord abovePower "n".toList (2 ^ 53 : Nat) (some (2 ^ 53 + 1 : Nat))
    none rfl rfl).mp passed
  have below := inside.1 _ rfl
  omega

end MetadataFilter
end Concordance
