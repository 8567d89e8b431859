import Concordance.Proofs.AlikeSnapshots
import Concordance.Proofs.Consistency
import Concordance.Proofs.SettingsBounds

/-! What excluded fields keep to themselves. The text of a record takes the primary field, then the
secondary fields, and of the others those that are not known; to exclude a field only makes its name
known. So an excluded field is hidden unless it is the primary one or a secondary one. What stands
in hidden fields leaves no trace in the text of a record, in the index or in what a search answers;
what stands in an excluded field that is not hidden is shown. -/
namespace Concordance

def SameOutside {κ : Type} (hidden : κ → Prop) : List (κ × Value) → List (κ × Value) → Prop :=
  List.Forall₂ fun a b => a.1 = b.1 ∧ (¬hidden a.1 → a.2 = b.2)

namespace Value

def IsNamed (names : Text → Prop) (key : Value) : Prop := ∃ name, key = .text name ∧ names name

/-- Values that are the same, or records that are the same but for what stands under some names. -/
inductive AgreeOutside (names : Text → Prop) : Value → Value → Prop
  | same (value : Value) : AgreeOutside names value value
  | map {first second : Fields} (fields : SameOutside names first second) :
    AgreeOutside names (.map first) (.map second)
  | table {first second : List (Value × Value)}
    (entries : SameOutside (IsNamed names) first second) :
    AgreeOutside names (.table first) (.table second)

end Value

namespace SameOutside
variable {κ β : Type} {hidden : κ → Prop} {names : Text → Prop} {name : Text}

theorem mono {more : κ → Prop} {first second : List (κ × Value)}
    (same : SameOutside hidden first second) (wider : ∀ key, hidden key → more key) :
    SameOutside more first second :=
  same.imp fun _ _ related => ⟨related.1, fun seen => related.2 (mt (wider _) seen)⟩

theorem filterMap_eq {first second : List (κ × Value)} {f : κ × Value → Option β}
    (same : SameOutside hidden first second)
    (blind : ∀ key a b, hidden key → f (key, a) = f (key, b)) :
    first.filterMap f = second.filterMap f := by
  induction same with
  | nil => rfl
  | @cons a b first second related _ ih =>
    obtain ⟨key, value⟩ := a
    obtain ⟨other, further⟩ := b
    obtain ⟨rfl, agree⟩ := related
    have step : f (key, value) = f (key, further) := by
      by_cases unseen : hidden key
      · exact blind key value further unseen
      · rw [show value = further from agree unseen]
    rw [List.filterMap_cons, List.filterMap_cons, step, ih]

theorem get?_eq {first second : Fields} (same : SameOutside names first second)
    (seen : ¬names name) : first.get? name = second.get? name := by
  unfold Fields.get?
  induction same with
  | nil => rfl
  | @cons a b first second related _ ih =>
    obtain ⟨key, value⟩ := a
    obtain ⟨other, further⟩ := b
    obtain ⟨rfl, agree⟩ := related
    rw [List.lookup_cons, List.lookup_cons, ih]
    by_cases here : name = key
    · subst here
      rw [show value = further from agree seen]
    · rw [beq_false_of_ne here]

theorem fields {first second : List (Value × Value)}
    (same : SameOutside (Value.IsNamed names) first second) :
    SameOutside names ((Value.table first).fields?.getD [])
      ((Value.table second).fields?.getD []) := by
  unfold Value.fields?
  induction same with
  | nil => exact .nil
  | @cons a b first second related _ ih =>
    obtain ⟨key, value⟩ := a
    obtain ⟨other, further⟩ := b
    obtain ⟨rfl, agree⟩ := related
    cases key with
    | text name =>
      refine .cons ⟨rfl, fun seen => agree ?_⟩ ih
      rintro ⟨_, named, hidden⟩
      cases named
      exact seen hidden
    | _ => exact ih

end SameOutside

theorem Value.AgreeOutside.mono {names more : Text → Prop} {a b : Value}
    (agree : a.AgreeOutside names b) (wider : ∀ name, names name → more name) :
    a.AgreeOutside more b := by
  cases agree with
  | same => exact .same a
  | map fields => exact .map (fields.mono wider)
  | table entries =>
    exact .table (entries.mono fun _ ⟨name, named, hidden⟩ => ⟨name, named, wider name hidden⟩)

namespace FieldPlan
variable {plan : FieldPlan} {first second : Fields} {fields : Fields} {extra : List Text}
  {name t : Text} {c : Char}

def Ignores (plan : FieldPlan) (name : Text) : Prop :=
  name ∈ plan.known ∧ name ≠ plan.primary ∧ name ∉ plan.secondary

theorem join_eq (same : SameOutside plan.Ignores first second) (extra : List Text) :
    plan.join first extra = plan.join second extra := by
  have primary : first.get? plan.primary = second.get? plan.primary :=
    same.get?_eq fun ignored => ignored.2.1 rfl
  have secondary : plan.secondaryParts first = plan.secondaryParts second :=
    List.filterMap_congr fun name placed => by
      rw [same.get?_eq fun ignored => ignored.2.2 placed]
  rw [join, primaryParts, primary, secondary, join, primaryParts]

theorem extraParts_eq (same : SameOutside plan.Ignores first second) :
    plan.extraParts first = plan.extraParts second :=
  same.filterMap_eq fun name a b ignored => by
    simp only [List.contains_iff_mem.mpr ignored.1, if_true]

theorem extraPartsOfTable_eq {first second : List (Value × Value)}
    (same : SameOutside (Value.IsNamed plan.Ignores) first second) :
    plan.extraPartsOfTable first = plan.extraPartsOfTable second :=
  same.filterMap_eq fun key a b => by
    rintro ⟨name, rfl, ignored⟩
    simp only [List.contains_iff_mem.mpr ignored.1, if_true]

theorem searchableText_eq (same : SameOutside plan.Ignores first second) :
    plan.searchableText first = plan.searchableText second := by
  rw [searchableText, join_eq same, extraParts_eq same, searchableText]

theorem searchableTextOfTable_eq {first second : List (Value × Value)}
    (same : SameOutside (Value.IsNamed plan.Ignores) first second) :
    plan.searchableTextOfTable first = plan.searchableTextOfTable second := by
  rw [searchableTextOfTable, join_eq same.fields, extraPartsOfTable_eq same, searchableTextOfTable]

theorem textOfRecord_eq {a b : Value} (agree : a.AgreeOutside plan.Ignores b) :
    plan.textOfRecord a = plan.textOfRecord b := by
  cases agree with
  | same => rfl
  | map fields => exact congrArg Except.ok (searchableText_eq fields)
  | table entries => exact congrArg Except.ok (searchableTextOfTable_eq entries)

theorem mem_searchableText (placed : name = plan.primary ∨ name ∈ plan.secondary)
    (held : fields.get? name = some (.text t)) (member : c ∈ t)
    (visible : Unicode.isBlank c = false) : c ∈ plan.searchableText fields := by
  refine Text.mem_trimBy (Text.mem_join (List.mem_append_left _ ?_) member) visible
  rcases placed with rfl | placed
  · refine List.mem_append_left _ ?_
    rw [primaryParts, held]
    exact List.mem_singleton_self t
  · refine List.mem_append_right _ (List.mem_filterMap.mpr ⟨name, placed, ?_⟩)
    have something : t.isEmpty = false := by
      cases t with
      | nil => cases member
      | cons => rfl
    simp [held, something]

theorem searchableText_of_textless (textless : ∀ entry ∈ fields, ∀ t, entry.2 ≠ .text t) :
    plan.searchableText fields = [] := by
  have held (other u : Text) : fields.get? other ≠ some (.text u) := fun held => by
    obtain ⟨before, after, rfl, _⟩ := List.lookup_eq_some_iff.mp held
    exact textless (other, .text u) (by simp) u rfl
  have primary : plan.primaryParts fields = [] := by
    unfold primaryParts
    split
    next u found => exact absurd found (held _ u)
    next => rfl
  have secondary : plan.secondaryParts fields = [] := by
    refine List.filterMap_eq_nil_iff.mpr fun other _ => ?_
    split
    next u found => exact absurd found (held other u)
    next => rfl
  have extra : plan.extraParts fields = [] := by
    refine List.filterMap_eq_nil_iff.mpr fun entry member => ?_
    have none : plan.extraText? entry.2 = none := by
      unfold extraText?
      split
      next u found => exact absurd found (textless entry member u)
      next => rfl
    simp only [none, ite_self]
  rw [searchableText, join, primary, secondary, extra]
  rfl

end FieldPlan

namespace Settings
variable {s : Settings} {name : Text}

/-- Whether an excluded field is hidden: it has no place of its own in the text of a record. -/
def Hides (s : Settings) (name : Text) : Prop :=
  name ∈ s.excludedFields ∧ name ≠ s.primaryField ∧ name ∉ s.secondaryFields

theorem hides_eq (s : Settings) : s.Hides = s.fieldPlan.Ignores := by
  funext name
  have known : name ∈ s.fieldPlan.known ↔
      name = s.primaryField ∨ name ∈ s.secondaryFields ∨ name ∈ s.excludedFields := by
    rw [fieldPlan, knownFields, List.mem_eraseDups, List.mem_cons, List.mem_append]
  refine propext (and_congr_left fun unplaced => ?_)
  rw [known, or_iff_right unplaced.1, or_iff_right unplaced.2]

theorem unseen_iff_hides (excluded : name ∈ s.excludedFields) :
    (∀ first second, Value.AgreeOutside (· = name) first second →
      s.fieldPlan.textOfRecord first = s.fieldPlan.textOfRecord second) ↔ s.Hides name := by
  constructor
  · intro unseen
    have agree : Value.AgreeOutside (· = name) (.map [(name, .text ['a'])])
        (.map [(name, .null)]) :=
      .map (.cons ⟨rfl, fun other => absurd rfl other⟩ .nil)
    have silent : s.fieldPlan.searchableText [(name, .null)] = [] :=
      FieldPlan.searchableText_of_textless (List.forall_mem_singleton.mpr nofun)
    have texts : s.fieldPlan.searchableText [(name, .text ['a'])] = [] :=
      (Except.ok.inj (unseen _ _ agree)).trans silent
    have held : Fields.get? [(name, .text ['a'])] name = some (.text ['a']) := by
      simp [Fields.get?]
    by_contra unhidden
    have placed : name = s.primaryField ∨ name ∈ s.secondaryFields := by
      by_contra unplaced
      exact unhidden ⟨excluded, not_or.mp unplaced⟩
    have shown : 'a' ∈ s.fieldPlan.searchableText [(name, .text ['a'])] :=
      FieldPlan.mem_searchableText placed held (List.mem_singleton_self _) (by decide)
    rw [texts] at shown
    cases shown
  · intro hidden first second agree
    rw [hides_eq] at hidden
    exact FieldPlan.textOfRecord_eq (agree.mono fun _ own => own ▸ hidden)

end Settings

namespace Snapshot
variable {s : Settings} {plan : FieldPlan} {a b : Value} {firsts seconds values : List Value}
  {snapshot : Snapshot}

theorem read_alike (agree : a.AgreeOutside plan.Ignores b) (id : Option Int) :
    Outcome.Alike (fun d e : Document => d.given plan = e.given plan) (Document.read id a)
      (Document.read id b) := by
  cases agree with
  | same => exact .self fun _ => rfl
  | map fields => exact .ok (congrArg (Except.ok ∘ Value.text) (FieldPlan.searchableText_eq fields))
  | table entries =>
    exact .ok (congrArg (Except.ok ∘ Value.text) (FieldPlan.searchableTextOfTable_eq entries))

theorem enroll_alike (agree : a.AgreeOutside plan.Ignores b) (id : Nat) :
    Outcome.Alike (SameText plan) (enroll plan a id) (enroll plan b id) := by
  refine (read_alike agree _).bind fun d e same => ?_
  have indexed : d.indexedText plan id = e.indexedText plan id := by
    rw [Document.indexedText, same, Document.indexedText]
  rw [indexed]
  exact (Outcome.Alike.self fun _ => rfl).bind fun t u texts => .ok ⟨same, texts⟩

theorem enrollAll_alike (agree : List.Forall₂ (Value.AgreeOutside plan.Ignores) firsts seconds)
    (next : Nat) : Outcome.Alike (List.Forall₂ (SameText plan)) (enrollAll plan next firsts)
      (enrollAll plan next seconds) := by
  induction agree generalizing next with
  | nil => exact .ok .nil
  | cons head _ ih =>
    exact (enroll_alike head next).bind fun d e same =>
      (ih (next + 1)).bind fun ds es others => .ok (.cons same others)

theorem build_alike (agree : List.Forall₂ (Value.AgreeOutside s.Hides) firsts seconds) :
    Outcome.Alike Alike (build s firsts) (build s seconds) := by
  rw [Settings.hides_eq] at agree
  exact (enrollAll_alike agree 0).map fun _ _ => ofTexts_alike

/-! Filters look at the documents themselves. -/

theorem satisfies_of_built (built : build s values = .ok snapshot) (options : SearchOptions)
    (id : Nat) : Findings.satisfies snapshot options id =
      MetadataFilter.matchesAll (values[id]?.getD .null) options.filters := by
  obtain ⟨documents, ok, rfl⟩ := build_eq_ok.mp built
  have place : values[id]? = documents[id]?.map (·.1.toValue) := by
    rw [← List.getElem?_map, enrollAll_values ok]
  rw [Findings.satisfies, place]
  simp only [ofTexts, List.getElem?_map, Option.map_map]
  rfl

end Snapshot

namespace Settings

/-- An excluded field is unseen in the texts of records exactly if it is hidden, and what stands in
hidden fields reaches nothing further on: records that differ in nothing else have the same text;
collections of them are refused for the same value or give indexes with the same entries, summaries
and texts; and searches have the same answers on these, unless their filters ask for such fields. -/
theorem excluded_unseen_iff_hidden (s : Settings) :
    (∀ name ∈ s.excludedFields,
      (∀ first second, Value.AgreeOutside (· = name) first second →
        s.fieldPlan.textOfRecord first = s.fieldPlan.textOfRecord second) ↔
      name ≠ s.primaryField ∧ name ∉ s.secondaryFields) ∧
    (∀ first second, Value.AgreeOutside s.Hides first second →
      s.fieldPlan.textOfRecord first = s.fieldPlan.textOfRecord second) ∧
    ∀ firsts seconds, List.Forall₂ (Value.AgreeOutside s.Hides) firsts seconds →
      Outcome.Alike Snapshot.Alike (Snapshot.build s firsts) (Snapshot.build s seconds) ∧
      ∀ a b, Snapshot.build s firsts = .ok a → Snapshot.build s seconds = .ok b →
        ∀ (query : Text) (options : SearchOptions),
          (∀ entry ∈ options.filters,
            firsts.map (·.field entry.1) = seconds.map (·.field entry.1)) →
          Engine.answerOn s a query options = Engine.answerOn s b query options := by
  refine ⟨fun name excluded => ?_, fun first second agree => ?_, fun firsts seconds agree => ?_⟩
  · exact (unseen_iff_hides excluded).trans (and_iff_right excluded)
  · exact FieldPlan.textOfRecord_eq (s.hides_eq ▸ agree)
  · have alike := Snapshot.build_alike agree
    refine ⟨alike, fun a b left right query options fields => ?_⟩
    refine (alike.related left right).answerOn fun id => ?_
    rw [Snapshot.satisfies_of_built left, Snapshot.satisfies_of_built right]
    refine MetadataFilter.matchesAll_of_fields fun entry member => ?_
    have place : firsts[id]?.map (·.field entry.1) = seconds[id]?.map (·.field entry.1) := by
      rw [← List.getElem?_map, fields entry member, List.getElem?_map]
    have held (record : Option Value) : (record.getD .null).field entry.1 =
        (record.map (·.field entry.1)).getD (Value.null.field entry.1) := by
      cases record <;> rfl
    rw [held, place, held]

def secretExcluded : Settings := { excludedFields := ["secret".toList] }

def secretReport (secret : Value) : Value :=
  .map [("text".toList, .text "report".toList), ("secret".toList, secret)]

def secretIndex (secret : Value) : Snapshot :=
  { plan := secretExcluded.fieldPlan
    documents := [.record [("text".toList, .text "report".toList), ("secret".toList, secret)]]
    summaries := [⟨0, 1, "report".toList, 6⟩], entries := [("report".toList, [0])] }

def aboutReports : SearchOptions :=
  { filters := [("text".toList, ⟨.category, .text "report".toList⟩)] }

theorem hidden_secret_changes_no_answer :
    List.Forall₂ (Value.AgreeOutside secretExcluded.Hides) [secretReport (.text "plan".toList)]
      [secretReport .null] ∧
    Snapshot.build secretExcluded [secretReport (.text "plan".toList)] =
      .ok (secretIndex (.text "plan".toList)) ∧
    Snapshot.build secretExcluded [secretReport .null] = .ok (secretIndex .null) ∧
    (∀ entry ∈ aboutReports.filters, [secretReport (.text "plan".toList)].map (·.field entry.1) =
      [secretReport .null].map (·.field entry.1)) ∧
    Engine.answerOn secretExcluded (secretIndex (.text "plan".toList)) "report".toList aboutReports =
      Engine.answerOn secretExcluded (secretIndex .null) "report".toList aboutReports ∧
    (Engine.answerOn secretExcluded (secretIndex .null) "report".toList aboutReports).results.map
      (·.docId) = [0] := by
  have agree : Value.AgreeOutside secretExcluded.Hides (secretReport (.text "plan".toList))
      (secretReport .null) :=
    .map (.cons ⟨rfl, fun _ => rfl⟩
      (.cons ⟨rfl, fun seen => absurd ⟨by decide, by decide, by decide⟩ seen⟩ .nil))
  have built : Snapshot.build secretExcluded [secretReport (.text "plan".toList)] =
        .ok (secretIndex (.text "plan".toList)) ∧
      Snapshot.build secretExcluded [secretReport .null] = .ok (secretIndex .null) := by
    constructor <;> exact Snapshot.build_eq_ok.mpr
      ⟨[(_, "report".toList)], rfl, Snapshot.ofTexts_one_word (by decide)⟩
  have fields : ∀ entry ∈ aboutReports.filters,
      [secretReport (.text "plan".toList)].map (·.field entry.1) =
        [secretReport .null].map (·.field entry.1) :=
    List.forall_mem_singleton.mpr rfl
  obtain ⟨_, _, onward⟩ := excluded_unseen_iff_hidden secretExcluded
  obtain ⟨_, answers⟩ := onward _ _ (.cons agree .nil)
  refine ⟨.cons agree .nil, built.1, built.2, fields,
    answers _ _ built.1 built.2 "report".toList aboutReports fields, ?_⟩
  rw [Engine.answerOn_eq]
  decide +kernel

def nameExcluded : Settings := { excludedFields := ["name".toList] }

def reportOf (name : Value) : Value :=
  .map [("text".toList, .text "report".toList), ("name".toList, name)]

theorem excluded_secondary_field_is_seen :
    read [("excluded_fields".toList, .list [.text "name".toList])] [] = .ok nameExcluded ∧
    ¬∀ first second, Value.AgreeOutside (· ∈ nameExcluded.excludedFields) first second →
      nameExcluded.fieldPlan.textOfRecord first = nameExcluded.fieldPlan.textOfRecord second := by
  refine ⟨read_excludedFields rfl, fun unseen => ?_⟩
  have agree : Value.AgreeOutside (· ∈ nameExcluded.excludedFields)
      (reportOf (.text "secret".toList)) (reportOf .null) :=
    .map (.cons ⟨rfl, fun _ => rfl⟩ (.cons ⟨rfl, fun seen => absurd (by decide) seen⟩ .nil))
  have texts := unseen _ _ agree
  revert texts
  decide

end Settings
end Concordance
