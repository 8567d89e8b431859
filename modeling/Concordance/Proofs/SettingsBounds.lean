import Concordance.Proofs.Outcome
import Concordance.Settings

/-! What settings that can be read have in common: least values of numbers, and fractions that are
above zero and not above one. Each holds because the default has it and reading asks for it. -/
namespace Concordance

namespace Binary64

def IsFraction (x : Binary64) : Prop := lt .zero x = true ∧ le x (.ofNat 1) = true

theorem ofNat_one : ofNat 1 = finite false unit := by decide +kernel

theorem IsFraction.finite {x : Binary64} (fraction : IsFraction x) :
    ∃ quanta, x = .finite false quanta ∧ 0 < quanta ∧ quanta ≤ unit := by
  obtain ⟨above, most⟩ := fraction
  rw [ofNat_one] at most
  cases x with
  | nan => cases above
  | infinite negative => cases negative <;> simp_all [lt, le, eq, Binary64.zero]
  | finite negative quanta =>
    cases negative with
    | false =>
      simp only [lt, le, eq, Binary64.zero, signed, Bool.false_eq_true, if_false, Bool.or_eq_true,
        decide_eq_true_eq, beq_iff_eq] at above most
      exact ⟨quanta, rfl, by omega, by omega⟩
    | true =>
      simp only [lt, Binary64.zero, signed, Bool.false_eq_true, if_false, if_true,
        decide_eq_true_eq] at above
      omega

end Binary64

namespace Read
variable {least n : Nat} {value : Value} {x : Binary64}

theorem of_require {holds : Bool} {rule : Rule} {done : Unit}
    (ok : require holds rule = .ok done) : holds = true := by
  cases holds with
  | true => rfl
  | false => cases ok

theorem le_of_natural (ok : natural least value = .ok n) : least ≤ n := by
  obtain ⟨i, _, ok⟩ := Outcome.bind_eq_ok.mp ok
  obtain ⟨_, required, same⟩ := Outcome.bind_eq_ok.mp ok
  cases same
  have enough := of_decide_eq_true (of_require required)
  omega

end Read

namespace Settings
variable {α : Type} {s : Settings} {given : Fields} {environment : List (Text × Text)}

structure Valid (s : Settings) : Prop where
  minQueryLength : 1 ≤ s.minQueryLength
  positionBonusStep : 1 ≤ s.positionBonusStep
  longDocumentWords : 1 ≤ s.longDocumentWords
  summaryPrefixWords : 1 ≤ s.summaryPrefixWords
  minIndexedWordLength : 1 ≤ s.minIndexedWordLength
  minPrefixLength : 1 ≤ s.minPrefixLength
  minFuzzyLength : 1 ≤ s.minFuzzyLength
  maxExtraFieldLength : 1 ≤ s.maxExtraFieldLength
  fuzzyDiscount : s.fuzzyDiscount.IsFraction
  longDocumentPenalty : s.longDocumentPenalty.IsFraction

theorem setting_holds {read : Value → Read α} {default : α} (P : α → Prop)
    (standard : P default) (granted : ∀ value x, read value = .ok x → P x) (name : String)
    (issues : List Issue) : P ((setting given name read default).run issues).1 := by
  unfold setting
  cases named? given name.toList with
  | none => exact standard
  | some value =>
    cases outcome : read value with
    | ok x =>
      simp only [outcome]
      exact granted value x outcome
    | error found =>
      simp only [outcome]
      exact standard

theorem natural_setting_holds {least default : Nat} (standard : least ≤ default) (name : String)
    (issues : List Issue) :
    least ≤ ((setting given name (Read.natural least) default).run issues).1 :=
  setting_holds (least ≤ ·) standard (fun _ _ => Read.le_of_natural) name issues

theorem isFraction_of_discount {value : Value} {x : Binary64} (ok : discount value = .ok x) :
    x.IsFraction := by
  obtain ⟨y, _, ok⟩ := Outcome.bind_eq_ok.mp ok
  obtain ⟨_, most, ok⟩ := Outcome.bind_eq_ok.mp ok
  obtain ⟨_, above, same⟩ := Outcome.bind_eq_ok.mp ok
  cases same
  exact ⟨Read.of_require above, Read.of_require most⟩

theorem isFraction_standard : ({} : Settings).fuzzyDiscount.IsFraction := by
  constructor <;> decide +kernel

theorem valid_of_ofFields (ok : ofFields given = .ok s) : s.Valid := by
  unfold ofFields at ok
  split at ok
  next settings found =>
    split at ok
    next fraction =>
      cases ok
      obtain rfl : ((readAll given).run []).1 = s := by rw [found]
      -- each field is what its own setting reads, the issues before it being passed on
      exact {
        minQueryLength := natural_setting_holds (by decide) "min_query_length" _
        positionBonusStep := natural_setting_holds (by decide) "position_bonus_step" _
        longDocumentWords := natural_setting_holds (by decide) "long_document_words" _
        summaryPrefixWords := natural_setting_holds (by decide) "summary_prefix_words" _
        minIndexedWordLength := natural_setting_holds (by decide) "min_indexed_word_length" _
        minPrefixLength := natural_setting_holds (by decide) "min_prefix_length" _
        minFuzzyLength := natural_setting_holds (by decide) "min_fuzzy_length" _
        maxExtraFieldLength := natural_setting_holds (by decide) "max_extra_field_length" _
        fuzzyDiscount := setting_holds Binary64.IsFraction isFraction_standard
          (fun _ _ => isFraction_of_discount) "fuzzy_discount" _
        longDocumentPenalty := by simpa [penaltyInRange, Binary64.IsFraction] using fraction }
    next => cases ok
  next => cases ok

theorem valid_of_read (ok : read given environment = .ok s) : s.Valid := by
  obtain ⟨found, _, ok⟩ := Outcome.bind_eq_ok.mp ok
  exact valid_of_ofFields ok

theorem setting_nil (name : String) (read : Value → Read α) (default : α) :
    setting [] name read default = pure default := rfl

theorem read_of_readAll (all : readAll given = pure s) (fraction : penaltyInRange s = true) :
    read given [] = .ok s := by
  refine Outcome.bind_eq_ok.mpr ⟨[], rfl, ?_⟩
  rw [List.filter_nil, List.append_nil]
  unfold ofFields
  rw [all]
  exact if_pos fraction

theorem penaltyInRange_standard : penaltyInRange {} = true := by decide +kernel

theorem read_standard : read [] [] = .ok {} := by
  have standard : readAll [] = pure {} := by
    simp only [readAll, setting_nil, pure_bind]
  exact read_of_readAll standard penaltyInRange_standard

theorem setting_other {name : Text} {value : Value} {other : String}
    (apart : (Text.lower name == other.toList) = false) (read : Value → Read α) (default : α) :
    setting [(name, value)] other read default = pure default := by
  simp [setting, named?, apart]

theorem setting_own {name : String} {value : Value} {read : Value → Read α} {x : α}
    (own : Text.lower name.toList = name.toList) (ok : read value = .ok x) (default : α) :
    setting [(name.toList, value)] name read default = pure x := by
  simp [setting, named?, own, ok]

theorem read_exactWordWeight (n : Nat) :
    read [("exact_word_weight".toList, .int n)] [] = .ok { exactWordWeight := n } := by
  have natural : Read.natural 0 (.int n) = .ok n := by
    simp only [Read.natural, Read.integer, Read.require]
    rfl
  have own (default : Nat) : setting [("exact_word_weight".toList, .int n)] "exact_word_weight"
      (Read.natural 0) default = pure n :=
    setting_own (by decide) natural default
  have all : readAll [("exact_word_weight".toList, .int n)] = pure { exactWordWeight := n } := by
    unfold readAll
    simp (disch := decide +kernel) only [own, setting_other, pure_bind]
  exact read_of_readAll all penaltyInRange_standard

theorem read_primaryField (name : Text) :
    read [("primary_field".toList, .text name)] [] = .ok { primaryField := name } := by
  have text : Read.text (.text name) = .ok name := rfl
  have own (default : Text) : setting [("primary_field".toList, .text name)] "primary_field"
      Read.text default = pure name :=
    setting_own (by decide) text default
  have all : readAll [("primary_field".toList, .text name)] = pure { primaryField := name } := by
    unfold readAll
    simp (disch := decide +kernel) only [own, setting_other, pure_bind]
  exact read_of_readAll all penaltyInRange_standard

theorem read_excludedFields {names : List Text} {value : Value}
    (ok : Read.texts value = .ok names) :
    read [("excluded_fields".toList, value)] [] = .ok { excludedFields := names } := by
  have own (default : List Text) : setting [("excluded_fields".toList, value)] "excluded_fields"
      Read.texts default = pure names :=
    setting_own (by decide) ok default
  have all : readAll [("excluded_fields".toList, value)] = pure { excludedFields := names } := by
    unfold readAll
    simp (disch := decide +kernel) only [own, setting_other, pure_bind]
  exact read_of_readAll all penaltyInRange_standard

end Settings
end Concordance
