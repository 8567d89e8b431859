import Concordance.Proofs.Consistency
import Concordance.Proofs.Refusal

/-! Which collections can be indexed: those of values that all give a text, or nothing in its place.
Whether a value does so is told by the value alone, not by its place, the others or the settings. -/
namespace Concordance

/-- Values that cannot be indexed: those that are neither a record nor a note, and the notes that
fail when they are asked for their text or then give something else. -/
inductive Value.Unfit : Value → Prop
  | unsupported {value : Value} (noRecord : value.entries? = none)
    (noNote : ∀ text failure attributes, value ≠ .note text failure attributes) : Unfit value
  | failing (text : Value) (reason : Text) (attributes : Fields) :
    Unfit (.note text (some reason) attributes)
  | notText {given : Value} (attributes : Fields) (something : given ≠ .null)
    (other : ∀ t, given ≠ .text t) : Unfit (.note given none attributes)

namespace Snapshot
variable {s : Settings} {plan : FieldPlan} {snapshot : Snapshot} {values : List Value}
  {value : Value} {d : Document} {error : IndexError} {id : Nat}

theorem ofValue?_eq_none : Document.ofValue? value = none ↔
    value.entries? = none ∧ ∀ text failure attributes, value ≠ .note text failure attributes := by
  cases value <;> simp [Document.ofValue?, Value.entries?]

theorem Refused.unfit (refused : Refused plan id value error) : value.Unfit := by
  cases refused with
  | unsupported strange =>
    obtain ⟨noRecord, noNote⟩ := ofValue?_eq_none.mp strange
    exact .unsupported noRecord noNote
  | extraction d reason known failed =>
    cases value with
    | map | table =>
      cases known
      cases failed
    | note text failure attributes =>
      cases known
      cases failure with
      | none => cases failed
      | some reason => exact .failing text reason attributes
    | _ => cases known
  | notText d given known gave something other =>
    cases value with
    | map | table =>
      cases known
      cases gave
      exact absurd rfl (other _)
    | note text failure attributes =>
      cases known
      cases failure with
      | none =>
        cases gave
        exact .notText attributes something other
      | some reason => cases gave
    | _ => cases known

theorem exists_refused (unfit : value.Unfit) (plan : FieldPlan) (id : Nat) :
    ∃ error, Refused plan id value error := by
  cases unfit with
  | unsupported noRecord noNote =>
    exact ⟨_, .unsupported (ofValue?_eq_none.mpr ⟨noRecord, noNote⟩)⟩
  | failing text reason attributes =>
    exact ⟨_, .extraction (.note text (some reason) attributes) reason rfl rfl⟩
  | notText attributes something other =>
    exact ⟨_, .notText (.note _ none attributes) _ rfl rfl something other⟩

theorem Refused.documentId?_eq (refused : Refused plan id value error) :
    error.documentId? = some (id : Int) := by
  cases refused <;> rfl

theorem first_unfit_of_error (failed : build s values = .error error) :
    ∃ (i : Nat) (value : Value), values[i]? = some value ∧ value.Unfit ∧
      (∀ j < i, ∀ earlier, values[j]? = some earlier → ¬earlier.Unfit) ∧
      error.documentId? = some (i : Int) ∧ Refused s.fieldPlan i value error := by
  obtain ⟨i, value, place, refused, before⟩ := build_eq_error.mp failed
  refine ⟨i, value, place, refused.unfit, ?_, refused.documentId?_eq, refused⟩
  intro j less earlier place unfit
  obtain ⟨other, refused⟩ := exists_refused unfit s.fieldPlan j
  exact before j less earlier place other refused

theorem build_fails_iff : (∃ error, build s values = .error error) ↔
    ∃ value ∈ values, value.Unfit := by
  constructor
  · rintro ⟨error, failed⟩
    obtain ⟨i, value, place, unfit, _⟩ := first_unfit_of_error failed
    exact ⟨value, List.mem_of_getElem? place, unfit⟩
  · rintro ⟨value, member, unfit⟩
    cases result : build s values with
    | error error => exact ⟨error, rfl⟩
    | ok snapshot =>
      -- a collection that is enrolled has enrolled each of its values
      obtain ⟨documents, enrolled, _⟩ := build_eq_ok.mp result
      obtain ⟨i, place⟩ := List.mem_iff_getElem?.mp member
      obtain ⟨entry, _, ok⟩ := enrollAll_place enrolled place
      obtain ⟨error, refused⟩ := exists_refused unfit s.fieldPlan (0 + i)
      cases ok.symm.trans (enroll_eq_error.mpr refused)

theorem build_documents (built : build s values = .ok snapshot) :
    snapshot.documents.map Document.toValue = values ∧
    snapshot.summaries.map Summary.docId = List.range values.length := by
  obtain ⟨documents, enrolled, rfl⟩ := build_eq_ok.mp built
  constructor
  · rw [← enrollAll_values enrolled, ofTexts, List.map_map]
    rfl
  · rw [← enrollAll_length enrolled, ofTexts, List.map_map]
    exact (List.zipIdx_map_snd 0 documents).trans List.range_eq_range'.symm

theorem indexedText_of_textless
    (textless : d.given plan = .ok .null ∨ d.given plan = .ok (.text [])) :
    d.indexedText plan id = .ok [] := by
  unfold Document.indexedText
  rcases textless with given | given <;> rw [given]
  rfl

theorem build_without_text (built : build s values = .ok snapshot)
    (place : snapshot.documents[id]? = some d)
    (textless : d.given s.fieldPlan = .ok .null ∨ d.given s.fieldPlan = .ok (.text [])) :
    snapshot.summaries[id]? = some ⟨id, 0, [], 0⟩ ∧ ∀ word, id ∉ snapshot.postings word := by
  obtain ⟨documents, enrolled, rfl⟩ := build_eq_ok.mp built
  obtain ⟨⟨known, t⟩, found, same⟩ : ∃ entry, documents[id]? = some entry ∧ entry.1 = d := by
    simpa [ofTexts] using place
  cases same
  have indexed := enrollAll_indexedText enrolled found
  have empty : t = [] := Except.ok.inj (indexed.symm.trans (indexedText_of_textless textless))
  subst empty
  constructor
  · simp [ofTexts, found, summarize, Text.parts, runs, Text.join]
  · intro word posted
    obtain ⟨_, t, same, member⟩ := mem_postings_ofTexts.mp posted
    cases found.symm.trans same
    cases (mem_indexableWords.mp member).1

/-- A collection is refused exactly if one of its values is unfit, and the error names the first
such value; any other has a document for each value, in order, and a value without a text leaves an
empty summary and no posting. -/
theorem build_refuses_first_unfit (s : Settings) (values : List Value) :
    ((∃ error, build s values = .error error) ↔ ∃ value ∈ values, value.Unfit) ∧
    (∀ error, build s values = .error error → ∃ (i : Nat) (value : Value),
      values[i]? = some value ∧ value.Unfit ∧
      (∀ j < i, ∀ earlier, values[j]? = some earlier → ¬earlier.Unfit) ∧
      error.documentId? = some (i : Int) ∧ Refused s.fieldPlan i value error) ∧
    ∀ snapshot, build s values = .ok snapshot →
      snapshot.documents.map Document.toValue = values ∧
      snapshot.summaries.map Summary.docId = List.range values.length ∧
      ∀ id d, snapshot.documents[id]? = some d →
        d.given s.fieldPlan = .ok .null ∨ d.given s.fieldPlan = .ok (.text []) →
        snapshot.summaries[id]? = some ⟨id, 0, [], 0⟩ ∧ ∀ word, id ∉ snapshot.postings word := by
  refine ⟨build_fails_iff, fun error => first_unfit_of_error, fun snapshot built => ?_⟩
  obtain ⟨documents, summaries⟩ := build_documents built
  exact ⟨documents, summaries, fun id d => build_without_text built⟩

def strays : List Value :=
  [.map [("text".toList, .text "cat".toList)], .int 42, .note .null (some "gone".toList) []]

def hush : List Value := [.note .null none []]

theorem number_refused_and_hush_indexed :
    build {} strays = .error (.unsupported (some 1) "int".toList) ∧
    (Value.int 42).Unfit ∧ (∀ j < 1, ∀ earlier, strays[j]? = some earlier → ¬earlier.Unfit) ∧
    ∃ snapshot, build {} hush = .ok snapshot ∧ snapshot.documents.map Document.toValue = hush ∧
      snapshot.summaries[0]? = some ⟨0, 0, [], 0⟩ ∧ ∀ word, 0 ∉ snapshot.postings word := by
  have failed : build {} strays = .error (.unsupported (some 1) "int".toList) := rfl
  have built : build {} hush = .ok (ofTexts {} [(.note .null none [], [])]) := rfl
  obtain ⟨i, value, place, unfit, before, number, _⟩ :=
    (build_refuses_first_unfit {} strays).2.1 _ failed
  obtain rfl : i = 1 := Int.ofNat.inj (Option.some.inj number).symm
  cases place
  obtain ⟨documents, _, textless⟩ := (build_refuses_first_unfit {} hush).2.2 _ built
  exact ⟨failed, unfit, before, _, built, documents,
    textless 0 (.note .null none []) rfl (.inl rfl)⟩

end Snapshot
end Concordance
