import Concordance.Document
import Concordance.Proofs.SettingsBounds
import Concordance.Proofs.Words
import Mathlib.Algebra.GroupWithZero.Nat
import Mathlib.Data.List.Nodup

/-! The entries that make the text of a record. The primary field has the first turn, the secondary
fields follow as they are listed, and last come the short texts under other keys. A key that had its
turn as a named field has no second one among the others; but the named fields are taken as often as
they are named, so that a field named twice is shown twice. -/
namespace Concordance

section FilterMap
variable {α β : Type} [BEq α] [LawfulBEq α] {names : List α} {g : α → Option β}

theorem nodup_filterMap_iff (apart : ∀ a b x, g a = some x → g b = some x → a = b) :
    (names.filterMap g).Nodup ↔ ∀ a, g a ≠ none → names.count a ≤ 1 := by
  have named : (names.filterMap g).Nodup ↔ (names.filter fun a => (g a).isSome).Nodup := by
    rw [List.Nodup, List.pairwise_filterMap, List.Nodup, List.pairwise_filter]
    refine List.Pairwise.iff fun a b => ?_
    constructor
    · rintro differ some _ rfl
      obtain ⟨x, found⟩ := Option.isSome_iff_exists.mp some
      exact differ x found x found rfl
    · rintro differ x left _ right rfl
      exact differ (by simp [left]) (by simp [right]) (apart a b x left right)
  rw [named, List.nodup_iff_count_le_one]
  refine forall_congr' fun a => ?_
  by_cases found : (g a).isSome
  · rw [List.count_filter (p := fun a => (g a).isSome) found]
    exact (imp_iff_right (Option.isSome_iff_ne_none.mp found)).symm
  · have absent : a ∉ names.filter fun a => (g a).isSome := fun member =>
      found (List.mem_filter.mp member).2
    rw [List.count_eq_zero_of_not_mem absent]
    have nothing := Option.not_isSome_iff_eq_none.mp found
    exact iff_of_true (Nat.zero_le 1) fun some => absurd nothing some

end FilterMap

namespace Text
variable {p : Char → Bool} {c : Char} {t : Text} {ts : List Text}

theorem count_trimBy (other : p c = false) : (trimBy p t).count c = t.count c := by
  obtain ⟨a, b, split, front, back⟩ := trimBy_split p t
  have outside {u : Text} (inside : ∀ x ∈ u, p x = true) : u.count c = 0 :=
    List.count_eq_zero_of_not_mem fun member => by cases other.symm.trans (inside c member)
  calc (trimBy p t).count c = a.count c + ((trimBy p t).count c + b.count c) := by
        rw [outside front, outside back, Nat.zero_add, Nat.add_zero]
    _ = t.count c := by rw [← List.count_append, ← List.count_append, ← split]

theorem count_join (other : c ≠ ' ') : (join [' '] ts).count c = (ts.map (·.count c)).sum := by
  cases ts with
  | nil => rfl
  | cons t ts =>
    rw [join_cons, List.count_append, List.count_flatMap, List.map_cons, List.sum_cons]
    congr 3
    funext u
    exact List.count_cons_of_ne (Ne.symm other)

theorem count_trim_join (visible : Unicode.isBlank c = false) :
    (trim (join [' '] ts)).count c = (ts.map (·.count c)).sum := by
  rw [trim, count_trimBy visible, count_join]
  rintro rfl
  cases visible

end Text

abbrev PlacedEntry := (Value × Value) × Nat

def Value.text? : Value → Option Text
  | .text t => some t
  | _ => none

namespace FieldPlan
variable {plan : FieldPlan} {entries : List (Value × Value)} {record : Value}
  {value : Value} {name t : Text} {entry : PlacedEntry} {taken : List PlacedEntry}

def entryOf? (entries : List (Value × Value)) (name : Text) : Option PlacedEntry :=
  entries.zipIdx.find? fun entry => entry.1.1.sameMember (.text name)

def spoken? (entries : List (Value × Value)) (name : Text) : Option PlacedEntry :=
  (entryOf? entries name).filter fun entry => entry.1.2.text?.any (!·.isEmpty)

def knows (plan : FieldPlan) : Value → Bool
  | .text name => plan.known.contains name
  | _ => false

/-- The entries taken for their names: that of the primary field, even if its text is empty, and
those of the secondary fields in the order of the plan. -/
def named (plan : FieldPlan) (entries : List (Value × Value)) : List PlacedEntry :=
  ((entryOf? entries plan.primary).filter (·.1.2.isText)).toList ++
    plan.secondary.filterMap (spoken? entries)

def others (plan : FieldPlan) (entries : List (Value × Value)) : List PlacedEntry :=
  entries.zipIdx.filter fun entry => !plan.knows entry.1.1 && (plan.extraText? entry.1.2).isSome

/-- The entries whose texts make the text of a record, as often and in the order they are taken. -/
def sources (plan : FieldPlan) (entries : List (Value × Value)) : List PlacedEntry :=
  plan.named entries ++ plan.others entries

def assemble (taken : List PlacedEntry) : Text :=
  Text.trim (Text.join [' '] (taken.filterMap fun entry => entry.1.2.text?))

theorem sameMember_text {key : Value} : key.sameMember (.text name) = true ↔ key = .text name := by
  cases key <;> simp [Value.sameMember, Value.quantity?]

theorem entryOf?_key (found : entryOf? entries name = some entry) : entry.1.1 = .text name :=
  sameMember_text.mp (List.find?_some (p := fun entry : PlacedEntry =>
    entry.1.1.sameMember (.text name)) found)

theorem map_entryOf? : (entryOf? entries name).map (·.1) =
    entries.find? fun entry => entry.1.sameMember (.text name) := by
  conv_rhs => rw [← List.zipIdx_map_fst 0 entries, List.find?_map]
  rfl

theorem map_entryOf?_value (own : record.entries? = some entries) :
    (entryOf? entries name).map (·.1.2) = record.under? (.text name) := by
  rw [Value.under?, own, Option.bind_some, ← map_entryOf?, Option.map_map]
  rfl

theorem get?_fields : ((Value.table entries).fields?.getD []).get? name =
    (entryOf? entries name).map (·.1.2) := by
  rw [show (entryOf? entries name).map (·.1.2) = (Value.table entries).under? (.text name) from
    map_entryOf?_value rfl, Value.under?]
  simp only [Value.fields?, Value.entries?, Option.getD_some, Option.bind_some, Fields.get?]
  induction entries with
  | nil => rfl
  | cons entry entries ih =>
    obtain ⟨key, value⟩ := entry
    by_cases same : key.sameMember (.text name)
    · obtain rfl := sameMember_text.mp same
      rw [List.find?_cons_of_pos (by exact same)]
      exact List.lookup_cons_self
    · rw [List.find?_cons_of_neg (by exact same), ← ih]
      cases key with
      | text other =>
        have apart : (name == other) = false :=
          beq_false_of_ne fun own => same (sameMember_text.mpr (congrArg Value.text own.symm))
        simp [List.lookup_cons, apart]
      | _ => rfl

theorem textOfRecord_of_entries (own : record.entries? = some entries) :
    plan.textOfRecord record = .ok (plan.searchableTextOfTable entries) := by
  cases record with
  | table => cases own; rfl
  | map fields =>
    have named : (Value.table entries).fields? = some fields := by
      cases own
      simp [Value.fields?, List.filterMap_map]
    have extra : plan.extraPartsOfTable entries = plan.extraParts fields := by
      cases own
      simp only [extraPartsOfTable, List.filterMap_map, Function.comp_def]
      rfl
    rw [searchableTextOfTable, named, extra]
    rfl
  | _ => cases own

theorem primaryParts_eq : plan.primaryParts ((Value.table entries).fields?.getD []) =
    ((entryOf? entries plan.primary).filter (·.1.2.isText)).toList.filterMap (·.1.2.text?) := by
  rw [primaryParts, get?_fields]
  cases entryOf? entries plan.primary with
  | none => rfl
  | some entry =>
    obtain ⟨⟨key, value⟩, place⟩ := entry
    cases value <;> rfl

theorem secondaryParts_eq : plan.secondaryParts ((Value.table entries).fields?.getD []) =
    (plan.secondary.filterMap (spoken? entries)).filterMap (·.1.2.text?) := by
  rw [secondaryParts, List.filterMap_filterMap]
  refine List.filterMap_congr fun name _ => ?_
  rw [get?_fields, spoken?]
  cases entryOf? entries name with
  | none => rfl
  | some entry =>
    obtain ⟨⟨key, value⟩, place⟩ := entry
    cases value with
    | text t => cases t <;> rfl
    | _ => rfl

theorem text?_of_extraText? (plan : FieldPlan) (value : Value) :
    (if (plan.extraText? value).isSome then value.text? else none) = plan.extraText? value := by
  cases value with
  | text t =>
    rw [extraText?]
    split <;> rfl
  | _ => rfl

theorem extraPartsOfTable_eq_others :
    plan.extraPartsOfTable entries = (plan.others entries).filterMap (·.1.2.text?) := by
  have step (key value : Value) : (match key with
      | .text name => if plan.known.contains name then none else plan.extraText? value
      | _ => plan.extraText? value) =
      if !plan.knows key && (plan.extraText? value).isSome then value.text? else none := by
    have short := plan.text?_of_extraText? value
    cases key with
    | text name =>
      by_cases known : plan.known.contains name = true
      · refine (if_pos known).trans ?_
        rw [knows, known]
        rfl
      · refine (if_neg known).trans ?_
        rw [knows, Bool.eq_false_iff.mpr known]
        exact short.symm
    | _ => exact short.symm
  rw [extraPartsOfTable, others, List.filterMap_filter]
  conv_lhs => rw [← List.zipIdx_map_fst 0 entries, List.filterMap_map]
  exact List.filterMap_congr fun entry _ => step entry.1.1 entry.1.2

theorem searchableTextOfTable_eq_assemble :
    plan.searchableTextOfTable entries = assemble (plan.sources entries) := by
  rw [searchableTextOfTable, join, primaryParts_eq, secondaryParts_eq, extraPartsOfTable_eq_others,
    assemble, sources, named, List.filterMap_append, List.filterMap_append]

theorem spoken?_eq_some (spoken : spoken? entries name = some entry) :
    entryOf? entries name = some entry ∧ ∃ t, entry.1.2 = .text t ∧ t ≠ [] := by
  obtain ⟨found, something⟩ := Option.filter_eq_some_iff.mp spoken
  refine ⟨found, ?_⟩
  cases held : entry.1.2 with
  | text t =>
    rw [held] at something
    exact ⟨t, rfl, by rintro rfl; cases something⟩
  | _ =>
    rw [held] at something
    cases something

theorem spoken?_apart (entries : List (Value × Value)) (a b : Text) (entry : PlacedEntry)
    (left : spoken? entries a = some entry) (right : spoken? entries b = some entry) : a = b :=
  Value.text.inj ((entryOf?_key (spoken?_eq_some left).1).symm.trans
    (entryOf?_key (spoken?_eq_some right).1))

theorem spoken?_ne_none (own : record.entries? = some entries) : spoken? entries name ≠ none ↔
    ∃ t, record.under? (.text name) = some (.text t) ∧ t ≠ [] := by
  rw [← map_entryOf?_value own]
  constructor
  · intro spoken
    obtain ⟨entry, spoken⟩ := Option.ne_none_iff_exists'.mp spoken
    obtain ⟨found, t, held, something⟩ := spoken?_eq_some spoken
    exact ⟨t, by rw [found, Option.map_some, held], something⟩
  · rintro ⟨t, held, something⟩
    obtain ⟨entry, found, same⟩ := Option.map_eq_some_iff.mp held
    have nonempty : t.isEmpty = false := by simpa using something
    simp [spoken?, found, same, Value.text?, nonempty]

theorem nodup_named : (plan.named entries).Nodup ↔
    ((plan.primary :: plan.secondary).filterMap (spoken? entries)).Nodup := by
  unfold named
  cases spoken : spoken? entries plan.primary with
  | some entry =>
    obtain ⟨found, t, held, _⟩ := spoken?_eq_some spoken
    rw [List.filterMap_cons_some spoken, found]
    simp [Option.filter, held, Value.isText]
  | none =>
    rw [List.filterMap_cons_none spoken]
    cases turn : (entryOf? entries plan.primary).filter (·.1.2.isText) with
    | none => rfl
    | some entry =>
      -- whatever else is taken has a text that is not empty, so it has another key
      have apart : entry ∉ plan.secondary.filterMap (spoken? entries) := by
        intro member
        obtain ⟨name, _, again⟩ := List.mem_filterMap.mp member
        have first := (Option.filter_eq_some_iff.mp turn).1
        have own := (entryOf?_key first).symm.trans (entryOf?_key (spoken?_eq_some again).1)
        rw [← Value.text.inj own] at again
        cases spoken.symm.trans again
      rw [Option.toList_some, List.singleton_append, List.nodup_cons]
      exact and_iff_right apart

theorem mem_named (member : entry ∈ plan.named entries) :
    ∃ name ∈ plan.primary :: plan.secondary, entryOf? entries name = some entry := by
  rcases List.mem_append.mp member with first | later
  · exact ⟨_, List.mem_cons_self, (Option.filter_eq_some_iff.mp (Option.mem_toList.mp first)).1⟩
  · obtain ⟨name, listed, spoken⟩ := List.mem_filterMap.mp later
    exact ⟨name, List.mem_cons_of_mem _ listed, (spoken?_eq_some spoken).1⟩

theorem nodup_zipIdx (entries : List (Value × Value)) : entries.zipIdx.Nodup := by
  refine List.Nodup.of_map Prod.snd ?_
  rw [List.zipIdx_map_snd]
  exact List.nodup_range'

theorem sources_subset : plan.sources entries ⊆ entries.zipIdx := by
  intro entry member
  rcases List.mem_append.mp member with named | other
  · obtain ⟨name, _, found⟩ := mem_named named
    exact List.mem_of_find?_eq_some found
  · exact (List.mem_filter.mp other).1

theorem nodup_sources (known : ∀ name ∈ plan.primary :: plan.secondary, name ∈ plan.known)
    (own : record.entries? = some entries) : (plan.sources entries).Nodup ↔
    ∀ name t, record.under? (.text name) = some (.text t) → t ≠ [] →
      (plan.primary :: plan.secondary).count name ≤ 1 := by
  have once : (plan.others entries).Nodup := (nodup_zipIdx entries).filter _
  have apart : ∀ a ∈ plan.named entries, ∀ b ∈ plan.others entries, a ≠ b := by
    rintro a named _ other rfl
    obtain ⟨name, listed, found⟩ := mem_named named
    have unknown := (List.mem_filter.mp other).2
    rw [entryOf?_key found, knows, List.contains_iff_mem.mpr (known name listed)] at unknown
    cases unknown
  rw [sources, List.nodup_append, nodup_named, nodup_filterMap_iff (spoken?_apart entries)]
  simp only [spoken?_ne_none own]
  constructor
  · exact fun each name t held something => each.1 name ⟨t, held, something⟩
  · exact fun each => ⟨fun name ⟨t, held, something⟩ => each name t held something, once, apart⟩

theorem assemble_of_one (distinct : taken.Nodup) (own : taken ⊆ [entry]) :
    assemble taken = [] ∨ assemble taken = assemble [entry] := by
  cases taken with
  | nil => exact .inl rfl
  | cons first rest =>
    obtain rfl := List.mem_singleton.mp (own List.mem_cons_self)
    cases rest with
    | nil => exact .inr rfl
    | cons again rest =>
      have same := List.mem_singleton.mp (own (List.mem_cons_of_mem _ List.mem_cons_self))
      exact absurd (same ▸ List.mem_cons_self) (List.nodup_cons.mp distinct).1

theorem get?_of_one (other : Text) : Fields.get? [(name, value)] other =
    if other = name then some value else none := by
  by_cases same : other = name
  · subst same
    simp [Fields.get?]
  · simp [Fields.get?, List.lookup_cons, beq_false_of_ne same, same]

theorem primaryParts_of_one : plan.primaryParts [(name, .text t)] =
    List.replicate ([plan.primary].count name) t := by
  rw [primaryParts, get?_of_one]
  by_cases same : plan.primary = name
  · simp [same]
  · simp [same, List.count_cons_of_ne same]

theorem secondaryParts_of_one (something : t ≠ []) : plan.secondaryParts [(name, .text t)] =
    List.replicate (plan.secondary.count name) t := by
  simp only [secondaryParts, get?_of_one]
  induction plan.secondary with
  | nil => rfl
  | cons other names ih =>
    by_cases same : other = name
    · rw [same, List.count_cons_self, List.replicate_succ, ← ih,
        List.filterMap_cons_some (b := t) (by simp [something])]
    · rw [List.count_cons_of_ne same, ← ih, List.filterMap_cons_none (by simp [same])]

theorem count_named_le (plan : FieldPlan) (name : Text) :
    (plan.primary :: plan.secondary).count name ≤
      (plan.searchableText [(name, .text ['a'])]).count 'a' := by
  rw [searchableText, join, Text.count_trim_join (by decide), primaryParts_of_one,
    secondaryParts_of_one (by simp), List.map_append, List.sum_append, List.map_append,
    List.sum_append]
  calc (plan.primary :: plan.secondary).count name
      = [plan.primary].count name + plan.secondary.count name := by
        rw [← List.count_append, List.singleton_append]
    _ ≤ _ := by simp

end FieldPlan

namespace Settings
open FieldPlan
variable {s : Settings} {name : Text}

theorem known_of_named (s : Settings) (name : Text)
    (named : name ∈ s.primaryField :: s.secondaryFields) : name ∈ s.fieldPlan.known := by
  rw [fieldPlan, knownFields, List.mem_eraseDups, ← List.cons_append]
  exact List.mem_append_left _ named

/-- The text of a record is put together from its primary field, its secondary fields in their order
and the others in the order of the record. It takes no entry twice exactly if no field with a text
is named twice; and the text of every record is one of distinct entries exactly if no field at all
is. -/
theorem taken_once_iff_named_once (s : Settings) :
    (∀ record entries, record.entries? = some entries →
      s.fieldPlan.textOfRecord record = .ok (assemble (s.fieldPlan.sources entries)) ∧
      s.fieldPlan.sources entries ⊆ entries.zipIdx ∧
      ((s.fieldPlan.sources entries).Nodup ↔
        ∀ name t, record.under? (.text name) = some (.text t) → t ≠ [] →
          (s.primaryField :: s.secondaryFields).count name ≤ 1)) ∧
    ((∀ record entries, record.entries? = some entries → ∃ taken : List PlacedEntry,
        taken.Nodup ∧ taken ⊆ entries.zipIdx ∧
        s.fieldPlan.textOfRecord record = .ok (assemble taken)) ↔
      (s.primaryField :: s.secondaryFields).Nodup) := by
  have text (record : Value) (entries) (own : record.entries? = some entries) :
      s.fieldPlan.textOfRecord record = .ok (assemble (s.fieldPlan.sources entries)) := by
    rw [textOfRecord_of_entries own, searchableTextOfTable_eq_assemble]
  refine ⟨fun record entries own => ⟨text record entries own, sources_subset,
    nodup_sources s.known_of_named own⟩, ?_, fun distinct record entries own => ?_⟩
  · intro each
    refine List.nodup_iff_count_le_one.mpr fun name => ?_
    obtain ⟨taken, distinct, own, text⟩ := each (.map [(name, .text ['a'])]) _ rfl
    refine Nat.le_trans (count_named_le s.fieldPlan name) ?_
    rw [show s.fieldPlan.searchableText _ = assemble taken from Except.ok.inj text]
    rcases assemble_of_one distinct own with same | same
    · rw [same]
      exact Nat.zero_le 1
    · rw [same]
      exact Nat.le_of_eq rfl
  · refine ⟨_, (nodup_sources s.known_of_named own).mpr fun name _ _ _ => ?_, sources_subset,
      text record entries own⟩
    exact List.nodup_iff_count_le_one.mp distinct name

def titledCat : Value :=
  .map [("title".toList, .text "Dog".toList), ("text".toList, .text "cat".toList)]

theorem title_follows_text : ∃ taken : List PlacedEntry,
    taken.Nodup ∧ taken ⊆ [((.text "title".toList, .text "Dog".toList), 0),
      ((.text "text".toList, .text "cat".toList), 1)] ∧
    assemble taken = "cat Dog".toList := by
  have distinct : (({} : Settings).primaryField :: ({} : Settings).secondaryFields).Nodup := by
    decide
  obtain ⟨text, own, once⟩ := (taken_once_iff_named_once {}).1 titledCat _ rfl
  refine ⟨_, once.mpr fun name _ _ _ => ?_, own, (Except.ok.inj text).symm.trans ?_⟩
  · exact List.nodup_iff_count_le_one.mp distinct name
  · decide

def titleFirst : Settings := { primaryField := "title".toList }

theorem primary_title_is_taken_twice :
    read [("primary_field".toList, .text "title".toList)] [] = .ok titleFirst ∧
    ¬∀ record entries, record.entries? = some entries → ∃ taken : List PlacedEntry,
      taken.Nodup ∧ taken ⊆ entries.zipIdx ∧
      titleFirst.fieldPlan.textOfRecord record = .ok (assemble taken) := by
  refine ⟨read_primaryField _, fun each => ?_⟩
  obtain ⟨taken, distinct, own, text⟩ :=
    each (.map [("title".toList, .text "cat".toList)]) _ rfl
  have twice : titleFirst.fieldPlan.searchableText [("title".toList, .text "cat".toList)] =
      "cat cat".toList := by
    decide
  have same : "cat cat".toList = assemble taken := twice.symm.trans (Except.ok.inj text)
  rcases assemble_of_one distinct own with none | one
  · cases same.trans none
  · rw [one] at same
    revert same
    decide

end Settings
end Concordance
