import Concordance.Proofs.EngineHistory
import Concordance.Proofs.Refusal

/-! Updates that are refused. Engines that have published the same and keep the same ledger give the
same replies ever after, whatever else they have reported, traced and noted of their builds. An
update with a collection that cannot be indexed changes neither, so nothing that happens later tells
that it was tried. -/
namespace Concordance.Engine
variable {e f : Engine} {s : Settings} {query : Text} {options : SearchOptions}
  {documents : Value} {elapsed : Binary64} {error : IndexError}

inductive Unindexable (s : Settings) (documents : Value) : IndexError → Prop
  | notACollection (something : documents ≠ .null) (uncollected : documents.members? = none) :
    Unindexable s documents (.notACollection documents.typeName)
  | refused (members : List Value) (collected : documents.members? = some members) (i : Nat)
    (value : Value) (error : IndexError) (place : members[i]? = some value)
    (refused : Snapshot.Refused s.fieldPlan i value error)
    (first : ∀ j < i, ∀ earlier, members[j]? = some earlier →
      ∀ other, ¬Snapshot.Refused s.fieldPlan j earlier other) :
    Unindexable s documents error

theorem index_eq_error {members : List Value} :
    index s members = .error error ↔ Snapshot.build s members = .error error := by
  cases members with
  | nil => simp [index, Snapshot.build, Snapshot.enrollAll, Except.map]
  | cons first members => rfl

theorem indexed_eq_error :
    indexed s documents = .error error ↔ Unindexable s documents error := by
  have collected (members : List Value) (known : documents.members? = some members) :
      index s members = .error error ↔ Unindexable s documents error := by
    rw [index_eq_error, Snapshot.build_eq_error]
    constructor
    · rintro ⟨i, value, place, refused, first⟩
      exact .refused members known i value error place refused first
    · intro cannot
      cases cannot with
      | notACollection _ uncollected => cases known.symm.trans uncollected
      | refused members same i value error place refused first =>
        cases known.symm.trans same
        exact ⟨i, value, place, refused, first⟩
  unfold indexed collection
  split
  next =>
    refine iff_of_false (fun failed => ?_) fun cannot => ?_
    · cases failed
    · cases cannot with
      | notACollection something => exact something rfl
      | refused _ known => cases known
  next members something known => exact collected members known
  next something uncollected =>
    constructor
    · intro failed
      cases failed
      exact .notACollection something uncollected
    · intro cannot
      cases cannot with
      | notACollection => rfl
      | refused _ known => cases uncollected.symm.trans known

/-- Whether two engines differ in nothing that later replies depend on. -/
structure Agrees (e f : Engine) : Prop where
  published : e.published = f.published
  ledger : e.ledger = f.ledger

namespace Agrees

theorem report (agrees : Agrees e f) (events others : List LogEvent) :
    Agrees (e.report events) (f.report others) :=
  ⟨agrees.published, agrees.ledger⟩

theorem record (agrees : Agrees e f) (response : SearchResponse) (elapsed : Binary64) :
    Agrees (e.record response elapsed) (f.record response elapsed) :=
  ⟨agrees.published, congrArg (Ledger.note · response elapsed) agrees.ledger⟩

theorem settings (agrees : Agrees e f) : e.settings = f.settings :=
  congrArg Published.settings agrees.published

theorem snapshot (agrees : Agrees e f) : e.snapshot = f.snapshot :=
  congrArg Published.snapshot agrees.published

theorem task (agrees : Agrees e f) (query : Text) (options : SearchOptions) :
    e.task query options = f.task query options := by
  have publication : e.publication = f.publication :=
    congrArg Published.publication agrees.published
  rw [Engine.task, Engine.task, agrees.settings, agrees.snapshot, publication]

theorem remembered? (agrees : Agrees e f) (task : SearchTask) :
    e.remembered? task = f.remembered? task := by
  have cache : e.cache = f.cache := congrArg Published.cache agrees.published
  rw [Engine.remembered?, Engine.remembered?, cache]

theorem dispatch (agrees : Agrees e f) (query : Text) (options : SearchOptions)
    (elapsed : Binary64) :
    Agrees (e.dispatch query options elapsed).1 (f.dispatch query options elapsed).1 ∧
      (e.dispatch query options elapsed).2 = (f.dispatch query options elapsed).2 := by
  unfold Engine.dispatch
  dsimp only
  rw [agrees.settings, agrees.snapshot, agrees.task, agrees.remembered?]
  split
  · exact ⟨agrees, rfl⟩
  split
  · exact ⟨agrees.report _ _, rfl⟩
  split
  · exact ⟨agrees.record _ _, rfl⟩
  · exact ⟨⟨agrees.published, agrees.ledger⟩, rfl⟩

theorem conclude (agrees : Agrees e f) (task : SearchTask) (listing : Except Failure Listing)
    (elapsed : Binary64) :
    Agrees (e.conclude task listing elapsed).1 (f.conclude task listing elapsed).1 ∧
      (e.conclude task listing elapsed).2 = (f.conclude task listing elapsed).2 := by
  have same : (e.conclude task listing elapsed).2 = (f.conclude task listing elapsed).2 := by
    rw [conclude_response, conclude_response]
  refine ⟨⟨?_, ?_⟩, same⟩
  · cases listing with
    | error failure => exact agrees.published
    | ok listing =>
      have publication : e.publication = f.publication :=
        congrArg Published.publication agrees.published
      rw [conclude_published, conclude_published, commit_published, commit_published,
        agrees.published, publication]
  · rw [conclude_ledger, conclude_ledger, agrees.ledger, same]

theorem update (agrees : Agrees e f) (documents : Value) (elapsed : Binary64) :
    Agrees (e.update documents elapsed).1 (f.update documents elapsed).1 ∧
      (e.update documents elapsed).2 = (f.update documents elapsed).2 := by
  -- what an update publishes and returns depends on what was published before and on no more
  have first := update_published e documents elapsed
  have second := update_published f documents elapsed
  have publish (snapshot : Snapshot) : (e.publish snapshot).published =
      (f.publish snapshot).published :=
    congrArg (fun p : Published =>
      { p with snapshot, publication := p.publication + 1, cache := none }) agrees.published
  rw [agrees.settings] at first
  simp only [publish, agrees.published] at first
  have same := Prod.mk.inj (first.trans second.symm)
  refine ⟨⟨same.1, ?_⟩, same.2⟩
  rw [update_ledger, update_ledger, agrees.ledger]

theorem search (agrees : Agrees e f) (query : Text) (options : SearchOptions)
    (elapsed : Binary64) :
    Agrees (e.search query options elapsed).1 (f.search query options elapsed).1 ∧
      (e.search query options elapsed).2 = (f.search query options elapsed).2 := by
  have started := agrees.dispatch query options elapsed
  unfold Engine.search
  generalize e.dispatch query options elapsed = left at started ⊢
  generalize f.dispatch query options elapsed = right at started ⊢
  obtain ⟨e, outcome⟩ := left
  obtain ⟨f, outcome⟩ := right
  obtain ⟨agrees, rfl⟩ := started
  cases outcome with
  | inl response => exact ⟨agrees, rfl⟩
  | inr task =>
    dsimp only at agrees ⊢
    rw [agrees.settings]
    exact (agrees.report _ _).conclude task _ elapsed

theorem searchWith (agrees : Agrees e f) (query : Text) (data : Value) (elapsed : Binary64) :
    Agrees (e.searchWith query data elapsed).1 (f.searchWith query data elapsed).1 ∧
      (e.searchWith query data elapsed).2 = (f.searchWith query data elapsed).2 := by
  unfold Engine.searchWith
  cases readOptions data with
  | ok options => exact agrees.search query options elapsed
  | error issues => exact ⟨agrees.report _ _, rfl⟩

theorem searchDuring (agrees : Agrees e f) (query : Text) (options : SearchOptions)
    (documents : Value) (elapsed : Binary64) :
    Agrees (e.searchDuring query options documents elapsed).1
        (f.searchDuring query options documents elapsed).1 ∧
      (e.searchDuring query options documents elapsed).2 =
        (f.searchDuring query options documents elapsed).2 := by
  have started := agrees.dispatch query options elapsed
  unfold Engine.searchDuring
  generalize e.dispatch query options elapsed = left at started ⊢
  generalize f.dispatch query options elapsed = right at started ⊢
  obtain ⟨e, outcome⟩ := left
  obtain ⟨f, outcome⟩ := right
  obtain ⟨agrees, rfl⟩ := started
  cases outcome with
  | inl response => exact ⟨agrees, rfl⟩
  | inr task =>
    dsimp only at agrees ⊢
    rw [agrees.settings]
    split
    · have concluded := (agrees.report (task.findings f.settings).reports
        (task.findings f.settings).reports).conclude task (task.findings f.settings).listing elapsed
      exact ⟨concluded.1, congrArg (fun response => (response, none)) concluded.2⟩
    next early _ =>
      let early' := (task.findings f.settings).reports.take early
      let rest := (task.findings f.settings).reports.drop early
      have updated := (agrees.report early' early').update documents elapsed
      have concluded := (updated.1.report rest rest).conclude task
        (task.findings f.settings).listing elapsed
      exact ⟨concluded.1, congrArg₂ (fun response installed => (response, some installed))
        concluded.2 updated.2⟩

theorem undergo (agrees : Agrees e f) (happening : Happening) :
    Agrees (e.undergo happening).1 (f.undergo happening).1 ∧
      (e.undergo happening).2 = (f.undergo happening).2 := by
  cases happening with
  | operation operation =>
    cases operation with
    | update documents elapsed =>
      have updated := agrees.update documents elapsed
      exact ⟨updated.1, congrArg (fun installed => (⟨none, some installed⟩ : Reply)) updated.2⟩
    | search query options elapsed =>
      have searched := agrees.search query options elapsed
      exact ⟨searched.1, congrArg (fun response => (⟨some response, none⟩ : Reply)) searched.2⟩
    | searchWith query data elapsed =>
      have searched := agrees.searchWith query data elapsed
      exact ⟨searched.1, congrArg (fun response => (⟨some response, none⟩ : Reply)) searched.2⟩
    | clearCache =>
      exact ⟨⟨congrArg (fun p : Published => { p with cache := none }) agrees.published,
        agrees.ledger⟩, rfl⟩
    | statistics => exact ⟨agrees, rfl⟩
  | searchDuring query options documents elapsed =>
    have searched := agrees.searchDuring query options documents elapsed
    exact ⟨searched.1, congrArg
      (fun left : SearchResponse × Option Bool => (⟨some left.1, left.2⟩ : Reply)) searched.2⟩
  | modify id change =>
    refine ⟨⟨?_, agrees.ledger⟩, rfl⟩
    exact congrArg (fun p : Published => { p with snapshot :=
      { p.snapshot with documents := p.snapshot.documents.modify id change } }) agrees.published

theorem replies (agrees : Agrees e f) (history : List Happening) :
    e.replies history = f.replies history := by
  induction history generalizing e f with
  | nil => rfl
  | cons happening history ih =>
    obtain ⟨later, same⟩ := agrees.undergo happening
    exact congrArg₂ List.cons same (ih later)

end Agrees

theorem update_of_error (cannot : indexed e.settings documents = .error error)
    (elapsed : Binary64) : (e.update documents elapsed).1.lastBuildError = some error ∧
      (e.update documents elapsed).1.indexing = false := by
  refine ⟨?_, rfl⟩
  change (rebuild _ _ _).1.lastBuildError = _
  unfold indexed at cannot
  unfold rebuild
  cases collected : collection documents with
  | error other =>
    rw [collected] at cannot
    cases cannot
    rfl
  | ok members =>
    rw [collected] at cannot
    change index e.settings members = .error error at cannot
    dsimp only
    split
    next other failed =>
      cases failed.symm.trans cannot
      rfl
    next snapshot built => cases built.symm.trans cannot

/-- An update is refused exactly if its collection cannot be indexed. Then the cause is noted, and
nothing else that is told or that later replies depend on has changed: every history goes on as if
the update had not been tried. -/
theorem refused_update_leaves_no_trace (e : Engine) (documents : Value) (elapsed : Binary64) :
    let after := (e.update documents elapsed).1
    ((e.update documents elapsed).2 = false ↔ ∃ error, Unindexable e.settings documents error) ∧
    ∀ error, Unindexable e.settings documents error →
      after.snapshot = e.snapshot ∧ after.cache = e.cache ∧ after.lastQuery = e.lastQuery ∧
      after.lastResultCount = e.lastResultCount ∧ after.window = e.window ∧
      after.lastBuildError = some error ∧ after.indexing = false ∧
      ∀ history, after.replies history = e.replies history := by
  intro after
  have left := update_published e documents elapsed
  refine ⟨?_, fun error cannot => ?_⟩
  · simp only [← indexed_eq_error]
    cases built : indexed e.settings documents with
    | ok snapshot => simp [(Prod.mk.inj (left.trans (by rw [built]))).2]
    | error error => simp [(Prod.mk.inj (left.trans (by rw [built]))).2]
  · have failed := indexed_eq_error.mpr cannot
    rw [failed] at left
    have agrees : Agrees after e := ⟨(Prod.mk.inj left).1, update_ledger ..⟩
    obtain ⟨noted, done⟩ := update_of_error failed elapsed
    exact ⟨agrees.snapshot, congrArg Published.cache agrees.published,
      congrArg Ledger.lastQuery agrees.ledger, congrArg Ledger.lastResultCount agrees.ledger,
      congrArg Ledger.window agrees.ledger, noted, done, agrees.replies⟩

def catsSearched : Engine :=
  (create {} "cats".toList Session.cats .zero).after
    [.operation (.search "+cat".toList {} .zero)]

def dogAndNumber : Value := .list [.map [("text".toList, .text "dog".toList)], .int 5]

theorem dogAndNumber_unindexable :
    Unindexable catsSearched.settings dogAndNumber (.unsupported (some 1) "int".toList) :=
  indexed_eq_error.mp rfl

theorem cats_remembered_after_refusal :
    let after := (catsSearched.update dogAndNumber .zero).1
    (catsSearched.update dogAndNumber .zero).2 = false ∧
      after.lastBuildError = some (.unsupported (some 1) "int".toList) ∧
      after.replies [.operation (.search "+cat".toList {} .zero)] =
        [{ response := some { Session.catAnswer with cached := true } }] := by
  obtain ⟨refused, kept⟩ := refused_update_leaves_no_trace catsSearched dogAndNumber .zero
  obtain ⟨_, _, _, _, _, noted, _, same⟩ := kept _ dogAndNumber_unindexable
  refine ⟨refused.mpr ⟨_, dogAndNumber_unindexable⟩, noted, (same _).trans ?_⟩
  have searched : (catsSearched.search "+cat".toList {} .zero).2 =
      { Session.catAnswer with cached := true } := by decide +kernel
  exact congrArg (fun response => [(⟨some response, none⟩ : Reply)]) searched

end Concordance.Engine
