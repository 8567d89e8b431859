import Concordance.Proofs.DocumentAlone
import Concordance.Proofs.LowerInContext

/-! A phrase as a query. A phrase between quotes finds the documents whose text in lower case has
the phrase in lower case. A document that has the phrase itself is among them if its capital sigmas
end words in the text as they do in the phrase alone. -/
namespace Concordance

section Within
variable {α : Type} {p : α → Bool} {w front items : List α}

theorem within_of_begins (begins : ∀ x ∈ w.head?, p x = false) (all : ∀ x ∈ front, p x = true)
    (within : w <:+: front ++ items) : w <:+: items := by
  induction front with
  | nil => exact within
  | cons x front ih =>
    obtain ⟨first, others⟩ := List.forall_mem_cons.mp all
    rcases List.infix_cons_iff.mp within with here | later
    · cases w with
      | nil => exact List.nil_infix
      | cons y w =>
        obtain ⟨rfl, _⟩ := List.cons_prefix_cons.mp here
        cases (begins y rfl).symm.trans first
    · exact ih others later

end Within

namespace Text
variable {p : Char → Bool} {w : Text}

theorem Trimmed.within_trimBy_iff (trimmed : Trimmed p w) (t : Text) :
    w <:+: trimBy p t ↔ w <:+: t := by
  refine ⟨fun within => within.trans (trimBy_within p t), fun within => ?_⟩
  obtain ⟨a, b, split, front, back⟩ := trimBy_split p t
  rw [split] at within
  -- what is in front is taken off, and what is behind in the same way from the other side
  have behind := List.reverse_infix.mpr (within_of_begins trimmed.1 front within)
  rw [List.reverse_append] at behind
  have turned : ∀ c ∈ w.reverse.head?, p c = false := by
    rw [List.head?_reverse]
    exact trimmed.2
  exact List.reverse_infix.mp
    (within_of_begins turned (fun c member => back c (List.mem_reverse.mp member)) behind)

end Text

namespace QueryToken
variable {s : Settings} {values : List Value} {snapshot : Snapshot} {p : Text} {id : Nat}
  {result : BooleanMatch} {token : QueryToken}

theorem IsPhrase.parse_quotes (phrase : IsPhrase p) :
    parse ('"' :: (p ++ ['"'])) = [⟨.phrase, p⟩] := by
  have alone : write [⟨.phrase, p⟩] = '"' :: (p ++ ['"']) := by
    simp [write_cons, writeFurther, written]
  have read : parse (write [⟨.phrase, p⟩]) = [⟨.phrase, p⟩] :=
    parse_write (List.forall_mem_singleton.mpr phrase)
  rwa [alone] at read

theorem mem_docIds_of_phrase (ok : Evaluation.run snapshot [⟨.phrase, p⟩] = .ok result)
    (known : id ∈ snapshot.docIds) :
    id ∈ result.docIds ↔ Matches snapshot ⟨.phrase, p⟩ id := by
  obtain ⟨e, folded, rfl⟩ := Evaluation.found_of_run ok
  rw [← List.nil_append [_]] at folded
  obtain ⟨start, none, step⟩ := Outcome.foldlM_concat.mp folded
  cases none
  have apart : ¬Evaluation.Joins [] ⟨.phrase, p⟩ := fun joins => nomatch joins.2.1
  refine (Evaluation.mem_found_of_not_joins Evaluation.reached_nil step apart).trans ?_
  simp [Evaluation.Admits, Evaluation.governing, known]

theorem phrase_matches_iff (built : Snapshot.build s values = .ok snapshot) (phrase : IsPhrase p)
    (known : id ∈ snapshot.docIds) : ∃ x, snapshot.shownText id = .ok x ∧
      (Matches snapshot ⟨.phrase, p⟩ id ↔ Text.lower p <:+: Text.lower x) := by
  obtain ⟨documents, enrolled, rfl⟩ := Snapshot.build_eq_ok.mp built
  obtain ⟨d, t, place⟩ := Snapshot.mem_docIds_ofTexts.mp known
  obtain ⟨x, shown, rfl⟩ :=
    Snapshot.shownText_of_normalizedText (Snapshot.normalizedText_ofTexts enrolled place)
  have some : Text.lower p ≠ [] := mt Text.lower_eq_nil.mp phrase.nonempty
  have trimmed := Text.steady_isBlank.trimmed_lower phrase.trimmed
  refine ⟨x, shown, ?_⟩
  rw [matches_iff_mentioned enrolled place, ← trimmed.within_trimBy_iff, ← Text.occursIn_iff_within]
  simp [mentionedIn, some, Text.trim]

/-- A phrase between quotes is read as a boolean query. It finds the documents whose text in lower
case has the phrase in lower case; a document that has the phrase itself is among them, if the
capital sigmas of the phrase end words where it stands as they do in the phrase alone. -/
theorem quoted_phrase_finds (built : Snapshot.build s values = .ok snapshot) (phrase : IsPhrase p) :
    isBoolean ('"' :: (p ++ ['"'])) = true ∧
      ∃ result, Evaluation.run snapshot (parse ('"' :: (p ++ ['"']))) = .ok result ∧
        (∀ id ∈ result.docIds, id ∈ snapshot.docIds) ∧
        ∀ id ∈ snapshot.docIds, ∃ x, snapshot.shownText id = .ok x ∧
          (id ∈ result.docIds ↔ Text.lower p <:+: Text.lower x) ∧
          ∀ u v, x = u ++ (p ++ v) → Text.KeepsSigmas u p v → id ∈ result.docIds := by
  obtain ⟨documents, enrolled, same⟩ := Snapshot.build_eq_ok.mp built
  have readable : snapshot.Readable := same ▸ Snapshot.readable_ofTexts enrolled
  obtain ⟨result, ok⟩ := Evaluation.run_parse_of_readable readable ('"' :: (p ++ ['"']))
  refine ⟨by simp [isBoolean, isQuote], result, ok, fun id member =>
    (Evaluation.docIds_sublist ok).subset member, fun id known => ?_⟩
  rw [phrase.parse_quotes] at ok
  obtain ⟨x, shown, matched⟩ := phrase_matches_iff built phrase known
  have found : id ∈ result.docIds ↔ Text.lower p <:+: Text.lower x :=
    (mem_docIds_of_phrase ok known).trans matched
  refine ⟨x, shown, found, fun u v split keeps => found.mpr ?_⟩
  have part := Text.lowerAmid_within u p v
  rwa [Text.lowerAmid_eq_lower_iff.mpr keeps, ← split] at part

def sigmas : List Value :=
  [.map [("text".toList, .text "ΑΣΑ".toList)], .map [("text".toList, .text "ΑΣ Α".toList)]]

def sigmaIndex : Snapshot :=
  .ofTexts {} [(.record [("text".toList, .text "ΑΣΑ".toList)], "ασα".toList),
    (.record [("text".toList, .text "ΑΣ Α".toList)], "ας α".toList)]

theorem sigmas_built : Snapshot.build {} sigmas = .ok sigmaIndex :=
  Snapshot.build_eq_ok.mpr ⟨_, rfl, rfl⟩

theorem sigma_found_before_blank :
    Snapshot.build {} sigmas = .ok sigmaIndex ∧ IsPhrase "ΑΣ".toList ∧
      ∃ result, Evaluation.run sigmaIndex (parse "\"ΑΣ\"".toList) = .ok result ∧
        1 ∈ result.docIds := by
  have phrase : IsPhrase "ΑΣ".toList := by decide
  obtain ⟨_, result, ok, _, each⟩ := quoted_phrase_finds sigmas_built phrase
  obtain ⟨x, shown, _, keeps⟩ := each 1 (by decide)
  cases shown
  have same : Text.KeepsSigmas [] "ΑΣ".toList " Α".toList :=
    Text.lowerAmid_eq_lower_iff.mp (by decide +kernel)
  exact ⟨sigmas_built, phrase, result, ok, keeps [] " Α".toList rfl same⟩

theorem sigma_missed_before_letter :
    ¬∀ (values : List Value) (snapshot : Snapshot) (p : Text) (result : BooleanMatch),
      Snapshot.build {} values = .ok snapshot → IsPhrase p →
      Evaluation.run snapshot (parse ('"' :: (p ++ ['"']))) = .ok result →
      ∀ id ∈ snapshot.docIds, ∀ x, snapshot.shownText id = .ok x → p <:+: x →
        id ∈ result.docIds := by
  intro all
  have phrase : IsPhrase "ΑΣ".toList := by decide
  have ok : Evaluation.run sigmaIndex (parse ('"' :: ("ΑΣ".toList ++ ['"']))) =
      .ok ⟨[1], [(1, 1)]⟩ := by
    rw [phrase.parse_quotes]
    decide +kernel
  have found := all sigmas sigmaIndex "ΑΣ".toList _ sigmas_built phrase ok 0 (by decide)
    "ΑΣΑ".toList rfl ⟨[], "Α".toList, rfl⟩
  exact absurd found (by decide)

end QueryToken
end Concordance
