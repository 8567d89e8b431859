import Concordance.Proofs.LowerInContext

/-! The places of tokens. A run of word characters knows where it stands in its text. Its token is
put into lower case and trimmed, and trimming measures the lower-case text. So the places of all
tokens are right exactly if no run has both an `İ`, which lower case makes longer, and an apostrophe
or a hyphen at one of its ends. -/
namespace Concordance

theorem runs_flatten {α : Type} (p : α → Bool) (items : List α) :
    (runs p items).flatten = items.filter p := by
  induction items using runs_induction (p := p) with
  | nil => rfl
  | skip x rest fails ih =>
    rw [runs_cons_of_neg fails, ih, List.filter_cons_of_neg (by simp [fails])]
  | take x rest holds ih =>
    have all : (rest.takeWhile p).filter p = rest.takeWhile p :=
      List.filter_eq_self.mpr fun y => List.mem_takeWhile_imp
    have split := congrArg (List.filter p) (List.takeWhile_append_dropWhile (p := p) (l := rest))
    rw [List.filter_append, all] at split
    rw [runs_cons_of_pos holds, List.flatten_cons, ih, List.cons_append, split,
      List.filter_cons_of_pos holds]

namespace Token
variable {t m : Text} {run : List (Char × Nat)} {token : Token} {i : Nat}

def slice (t : Text) (token : Token) : Text := (t.take token.stop).drop token.start

def Covers (t m : Text) (token : Token) : Prop :=
  ∃ u v, t = u ++ (m ++ v) ∧ token.start = u.length ∧ token.stop = u.length + m.length

theorem Covers.slice_eq (covers : Covers t m token) : token.slice t = m := by
  obtain ⟨u, v, rfl, start, stop⟩ := covers
  rw [slice, start, stop, List.drop_take, List.drop_left, Nat.add_sub_cancel_left, List.take_left]

theorem Covers.stop_le (covers : Covers t m token) : token.stop ≤ t.length := by
  obtain ⟨u, v, rfl, _, stop⟩ := covers
  simp only [List.length_append]
  omega

theorem zipIdx_of_infix (within : run <:+: t.zipIdx) :
    ∃ u m v, t = u ++ (m ++ v) ∧ run = m.zipIdx u.length := by
  obtain ⟨x, y, whole⟩ := within
  have text : t = x.map Prod.fst ++ (run.map Prod.fst ++ y.map Prod.fst) := by
    rw [← List.map_append, ← List.map_append, ← List.append_assoc, whole, List.zipIdx_map_fst]
  refine ⟨_, _, _, text, ?_⟩
  rw [text, List.zipIdx_append, List.zipIdx_append, Nat.zero_add, List.append_assoc] at whole
  obtain ⟨_, rest⟩ := List.append_inj whole (by simp)
  exact (List.append_inj rest (by simp)).1

theorem ofRun_zipIdx (nonempty : m ≠ []) (i : Nat) :
    ofRun (m.zipIdx i) = { text := m, position := 0, start := i, stop := i + m.length } := by
  obtain ⟨c, m, rfl⟩ := List.exists_cons_of_ne_nil nonempty
  simp [ofRun, List.zipIdx_cons]

theorem map_position_renumber (tokens : List Token) :
    (renumber tokens).map (·.position) = List.range tokens.length := by
  rw [renumber, List.map_map, List.range_eq_range', ← List.zipIdx_map_snd 0 tokens]
  rfl

theorem forall_mem_renumber {P : Token → Prop}
    (free : ∀ token n, P { token with position := n } = P token) (tokens : List Token) :
    (∀ token ∈ renumber tokens, P token) ↔ ∀ token ∈ tokens, P token := by
  have same := congrArg (fun facts : List Prop => ∀ fact ∈ facts, fact) (map_renumber free tokens)
  simpa only [List.forall_mem_map, eq_iff_iff] using same

theorem covers_of_mem_scan (member : token ∈ scan t) : Covers t token.text token := by
  revert token
  rw [scan, forall_mem_renumber fun _ _ => rfl]
  intro token member
  obtain ⟨run, known, rfl⟩ := List.mem_map.mp member
  obtain ⟨nonempty, _, within⟩ := of_mem_runs known
  obtain ⟨u, m, v, split, rfl⟩ := zipIdx_of_infix within
  have some : m ≠ [] := by
    rintro rfl
    exact nonempty rfl
  rw [ofRun_zipIdx some]
  exact ⟨u, v, split, rfl, rfl⟩

theorem pairwise_renumber {R : Nat × Nat → Nat × Nat → Prop} {tokens : List Token} :
    (renumber tokens).Pairwise (fun a b => R (a.start, a.stop) (b.start, b.stop)) ↔
      tokens.Pairwise fun a b => R (a.start, a.stop) (b.start, b.stop) := by
  have same := map_renumber (f := fun token => (token.start, token.stop)) (fun _ _ => rfl) tokens
  rw [← List.pairwise_map, same, List.pairwise_map]

theorem scan_ordered (t : Text) : (scan t).Pairwise fun a b => a.stop ≤ b.start := by
  refine (pairwise_renumber (R := fun a b => a.2 ≤ b.1)).mpr (List.pairwise_map.mpr ?_)
  have places : t.zipIdx.Pairwise fun a b => a.2 < b.2 := by
    rw [← List.pairwise_map, List.zipIdx_map_snd, ← List.range_eq_range']
    exact List.pairwise_lt_range
  have apart : (runs (fun c => isWordPart c.1) t.zipIdx).flatten.Pairwise fun a b => a.2 < b.2 := by
    rw [runs_flatten]
    exact places.filter _
  -- the last character of a run stands before the first one of a later run
  refine (List.pairwise_flatten.mp apart).2.imp_of_mem fun {first second} here there before => ?_
  obtain ⟨some, _, within⟩ := of_mem_runs here
  obtain ⟨more, _, beyond⟩ := of_mem_runs there
  obtain ⟨u, m, _, _, rfl⟩ := zipIdx_of_infix within
  obtain ⟨v, n, _, _, rfl⟩ := zipIdx_of_infix beyond
  rcases List.eq_nil_or_concat m with rfl | ⟨m, c, rfl⟩
  · exact absurd rfl some
  cases n with
  | nil => exact absurd rfl more
  | cons d n =>
    have last := before (c, u.length + m.length) (by simp [List.zipIdx_append]) (d, v.length)
      List.mem_cons_self
    rw [ofRun_zipIdx (by simp), ofRun_zipIdx (by simp), List.length_concat]
    exact Nat.succ_le_of_lt last

end Token

namespace Text
variable {a m b : Text} {c : Char}

theorem settled_of_isEdge (edge : isEdge c = true) : Settled c ∧ Unicode.isCased c = false := by
  have known : c = '\'' ∨ c = '-' := by simpa [isEdge] using edge
  rcases known with rfl | rfl
  · decide +kernel
  · decide +kernel

theorem lower_edges (front : ∀ c ∈ a, isEdge c = true) (back : ∀ c ∈ b, isEdge c = true) :
    lower (a ++ (m ++ b)) = a ++ (lower m ++ b) := by
  have inside : lowerAmid a.reverse m b = lower m :=
    lowerAmid_eq_lower_iff.mpr <| keepsSigmas_of_uncased
      (fun c member => (settled_of_isEdge (front c member)).2)
      (fun c member => (settled_of_isEdge (back c member)).2)
  rw [lower_append, inside,
    lowerAmid_of_lowered fun c member => (settled_of_isEdge (front c member)).1,
    lowerAmid_of_lowered fun c member => (settled_of_isEdge (back c member)).1]

theorem edgeless_iff : m = a ++ (m ++ b) ↔ a = [] ∧ b = [] := by
  constructor
  · intro same
    have lengths := congrArg List.length same
    simp only [List.length_append] at lengths
    exact ⟨List.length_eq_zero_iff.mp (by omega), List.length_eq_zero_iff.mp (by omega)⟩
  · rintro ⟨rfl, rfl⟩
    simp

theorem dropWhile_edges {p : Char → Bool} (some : m ≠ []) (front : ∀ c ∈ a, p c = true)
    (trimmed : Trimmed p m) (b : Text) : (a ++ (m ++ b)).dropWhile p = m ++ b := by
  have stays : (m ++ b).dropWhile p = m ++ b := dropWhile_of_head? fun c first => by
    rw [List.head?_append_of_ne_nil _ some] at first
    exact trimmed.1 c first
  rw [List.dropWhile_append_of_pos front, stays]

theorem trimBy_edges {p : Char → Bool} (front : ∀ c ∈ a, p c = true) (trimmed : Trimmed p m)
    (back : ∀ c ∈ b, p c = true) : trimBy p (a ++ (m ++ b)) = m := by
  by_cases none : m = []
  · have all : ∀ c ∈ a ++ (m ++ b), p c = true := by
      rw [none]
      exact List.forall_mem_append.mpr ⟨front, back⟩
    rw [trimBy, List.dropWhile_eq_nil_iff.mpr all, none]
    rfl
  · have turned : Trimmed p m.reverse := ⟨by simpa using trimmed.2, by simpa using trimmed.1⟩
    have behind := dropWhile_edges (a := b.reverse) (by simpa using none) (by simpa using back)
      turned []
    rw [List.append_nil, ← List.reverse_append] at behind
    rw [trimBy, dropWhile_edges none front trimmed, behind, List.reverse_reverse]

end Text

namespace Token
open Text
variable {t a m b : Text} {token word : Token}

def settle (token : Token) : Option Token :=
  TokenFilter.stripEdges ['\'', '-'] { token with text := lower token.text }

theorem tokens_standard (t : Text) :
    Analyzer.standard.tokens t = renumber ((scan t).filterMap settle) := by
  simp only [Analyzer.tokens, Analyzer.standard, TokenFilter.run, List.foldl, List.filterMap_map]
  rfl

theorem settle_eq (split : token.text = a ++ (m ++ b)) (front : ∀ c ∈ a, isEdge c = true)
    (trimmed : Trimmed isEdge m) (back : ∀ c ∈ b, isEdge c = true) :
    settle token =
      if m = [] then none
      else if a = [] ∧ b = [] then some { token with text := lower m }
      else some { token with
        text := lower m, start := token.start + a.length,
        stop := token.start + a.length + (lower m).length } := by
  have trimmedLower := steady_isEdge.trimmed_lower trimmed
  have whole : lower token.text = a ++ (lower m ++ b) := by rw [split, lower_edges front back]
  have bare : trimBy ['\'', '-'].contains (lower token.text) = lower m := by
    rw [whole]
    exact trimBy_edges front trimmedLower back
  have same : lower m = lower token.text ↔ a = [] ∧ b = [] := by rw [whole, edgeless_iff]
  simp only [settle, TokenFilter.stripEdges, bare, List.isEmpty_iff, lower_eq_nil, same]
  by_cases none : m = []
  · rw [if_pos none, if_pos none]
  rw [if_neg none, if_neg none]
  by_cases clean : a = [] ∧ b = []
  · rw [if_pos clean, if_pos clean, same.mpr clean]
  · have kept : (lower token.text).dropWhile ['\'', '-'].contains = lower m ++ b := by
      rw [whole]
      exact dropWhile_edges (mt lower_eq_nil.mp none) front trimmedLower b
    have cut : (lower token.text).length - (lower m ++ b).length = a.length := by
      rw [whole, List.length_append]
      omega
    rw [if_neg clean, if_neg clean, kept, cut]

theorem covers_of_settle (covers : Covers t token.text token) (kept : settle token = some word)
    (clean : 'İ' ∈ token.text → Trimmed isEdge token.text) :
    ∃ m, m ≠ [] ∧ word.text = lower m ∧ Covers t m word ∧
      token.start ≤ word.start ∧ word.stop ≤ token.stop := by
  obtain ⟨a, b, split, front, back⟩ := trimBy_split isEdge token.text
  generalize inside : trimBy isEdge token.text = m at split
  have trimmed : Trimmed isEdge m := inside ▸ trimmed_trimBy isEdge token.text
  obtain ⟨u, v, rfl, start, stop⟩ := covers
  rw [settle_eq split front trimmed back] at kept
  rw [split] at stop ⊢
  by_cases none : m = []
  · rw [if_pos none] at kept
    cases kept
  rw [if_neg none] at kept
  refine ⟨m, none, ?_⟩
  by_cases edgeless : a = [] ∧ b = []
  · obtain ⟨rfl, rfl⟩ := edgeless
    rw [if_pos ⟨rfl, rfl⟩] at kept
    obtain rfl := Option.some.inj kept
    exact ⟨rfl, ⟨u, v, by simp, start, by simpa using stop⟩, le_rfl, le_rfl⟩
  · have plain : 'İ' ∉ m := by
      intro dotted
      have all : Trimmed isEdge token.text :=
        clean (split ▸ List.mem_append_right a (List.mem_append_left b dotted))
      rw [trimBy_of_trimmed all] at inside
      exact edgeless (edgeless_iff.mp (inside.symm.trans split))
    have length : (lower m).length = m.length := by
      rw [length_lower, List.count_eq_zero.mpr plain, Nat.add_zero]
    rw [if_neg edgeless, length] at kept
    obtain rfl := Option.some.inj kept
    simp only [List.length_append] at stop
    refine ⟨rfl, ⟨u ++ a, b ++ v, by simp, ?_, ?_⟩, ?_, ?_⟩
    all_goals simp only [List.length_append]
    all_goals omega

theorem exists_settle {c : Char} (member : c ∈ token.text) (inner : isEdge c = false) :
    ∃ word, settle token = some word := by
  have inside : c ∈ trimBy isEdge token.text := mem_trimBy member inner
  obtain ⟨a, b, split, front, back⟩ := trimBy_split isEdge token.text
  rw [settle_eq split front (trimmed_trimBy isEdge token.text) back,
    if_neg (List.ne_nil_of_mem inside)]
  split
  · exact ⟨_, rfl⟩
  · exact ⟨_, rfl⟩

theorem trimmed_of_settle (covers : Covers t token.text token) (kept : settle token = some word)
    (within : word.stop ≤ t.length) (sliced : lower (word.slice t) = word.text)
    (dotted : 'İ' ∈ token.text) : Trimmed isEdge token.text := by
  have inside : 'İ' ∈ trimBy isEdge token.text := mem_trimBy dotted (by decide)
  obtain ⟨a, b, split, front, back⟩ := trimBy_split isEdge token.text
  have trimmed := trimmed_trimBy isEdge token.text
  generalize trimBy isEdge token.text = m at split trimmed inside
  obtain ⟨u, v, whole, start, stop⟩ := covers
  rw [settle_eq split front trimmed back, if_neg (List.ne_nil_of_mem inside)] at kept
  by_cases edgeless : a = [] ∧ b = []
  · obtain ⟨rfl, rfl⟩ := edgeless
    simpa [split] using trimmed
  rw [if_neg edgeless] at kept
  obtain rfl := Option.some.inj kept
  have place : t = (u ++ a) ++ (m ++ (b ++ v)) := by simp [whole, split]
  have cut : (t.take (token.start + a.length + (lower m).length)).drop (token.start + a.length) =
      m ++ (b ++ v).take ((lower m).length - m.length) := by
    rw [place, start, ← List.length_append, List.drop_take, List.drop_left, Nat.add_sub_cancel_left,
      List.take_append, List.take_of_length_le (length_lower m ▸ Nat.le_add_right _ _)]
  -- the slice has all of the word in it and as many characters more as the word has dots
  simp only [slice, cut] at sliced
  have lengths := congrArg List.length sliced
  simp only [length_lower, List.length_append, List.length_take, List.count_append] at lengths
  have room := congrArg List.length place
  simp only [List.length_append, length_lower] at room within
  have dots : 0 < m.count 'İ' := List.count_pos_iff.mpr inside
  omega

end Token

/-- Whether tokens point into a text: they are numbered in order, and each stands in the text behind
the one before it, where the text in lower case is the text of the token. -/
structure PointInto (t : Text) (tokens : List Token) : Prop where
  numbered : tokens.map (·.position) = List.range tokens.length
  bounded : ∀ token ∈ tokens, token.start < token.stop ∧ token.stop ≤ t.length
  sliced : ∀ token ∈ tokens, Text.lower (token.slice t) = token.text
  ordered : tokens.IsChain fun a b => a.stop ≤ b.start

namespace Analyzer
open Token
variable {t run : Text} {token word : Token}

theorem pointInto_of_clean
    (clean : ∀ run ∈ runs isWordPart t, 'İ' ∈ run → Text.Trimmed Text.isEdge run) :
    PointInto t (standard.tokens t) := by
  have place (token : Token) (known : token ∈ scan t) (word : Token)
      (kept : settle token = some word) : ∃ m, m ≠ [] ∧ word.text = Text.lower m ∧ Covers t m word ∧
        token.start ≤ word.start ∧ word.stop ≤ token.stop := by
    refine covers_of_settle (covers_of_mem_scan known) kept (clean _ ?_)
    rw [← map_text_scan]
    exact List.mem_map_of_mem known
  have each : ∀ word ∈ (scan t).filterMap settle,
      (word.start < word.stop ∧ word.stop ≤ t.length) ∧ Text.lower (word.slice t) = word.text := by
    intro word member
    obtain ⟨token, known, kept⟩ := List.mem_filterMap.mp member
    obtain ⟨m, some, text, covers, _⟩ := place token known word kept
    refine ⟨⟨?_, covers.stop_le⟩, by rw [covers.slice_eq, text]⟩
    obtain ⟨u, v, _, start, stop⟩ := covers
    have := List.length_pos_iff.mpr some
    omega
  rw [tokens_standard]
  constructor
  case numbered => rw [map_position_renumber, renumber, List.length_map, List.length_zipIdx]
  case bounded =>
    exact (forall_mem_renumber (fun _ _ => rfl) _).mpr fun word member => (each word member).1
  case sliced =>
    exact (forall_mem_renumber (fun _ _ => rfl) _).mpr fun word member => (each word member).2
  case ordered =>
    apply List.Pairwise.isChain
    refine (pairwise_renumber (R := fun a b => a.2 ≤ b.1)).mpr (List.pairwise_filterMap.mpr ?_)
    refine (scan_ordered t).imp_of_mem fun here there before first one second two => ?_
    obtain ⟨_, _, _, _, _, reach⟩ := place _ here first one
    obtain ⟨_, _, _, _, begins, _⟩ := place _ there second two
    exact reach.trans (before.trans begins)

theorem clean_of_pointInto (points : PointInto t (standard.tokens t))
    (known : run ∈ runs isWordPart t) (dotted : 'İ' ∈ run) : Text.Trimmed Text.isEdge run := by
  rw [← map_text_scan] at known
  obtain ⟨token, scanned, rfl⟩ := List.mem_map.mp known
  obtain ⟨word, kept⟩ := exists_settle dotted (by decide)
  have member : word ∈ (scan t).filterMap settle := List.mem_filterMap.mpr ⟨token, scanned, kept⟩
  rw [tokens_standard] at points
  have bounded := (forall_mem_renumber (fun _ _ => rfl) _).mp points.bounded word member
  have sliced := (forall_mem_renumber (fun _ _ => rfl) _).mp points.sliced word member
  exact trimmed_of_settle (covers_of_mem_scan scanned) kept bounded.2 sliced dotted

/-- The tokens of the standard analysis point into their text exactly if no run of word characters
has both an `İ` and an edge. -/
theorem tokens_pointInto_iff (t : Text) : PointInto t (standard.tokens t) ↔
    ∀ run ∈ runs isWordPart t, 'İ' ∈ run → Text.Trimmed Text.isEdge run :=
  ⟨fun points _ => clean_of_pointInto points, pointInto_of_clean⟩

theorem dotted_word_reaches_past_end :
    standard.tokens "'İ".toList = [⟨"i\u0307".toList, 0, 1, 3⟩] ∧
      ¬PointInto "'İ".toList (standard.tokens "'İ".toList) := by
  have tokens : standard.tokens "'İ".toList = [⟨"i\u0307".toList, 0, 1, 3⟩] := by decide +kernel
  refine ⟨tokens, fun points => ?_⟩
  rw [tokens] at points
  have bounded := points.bounded _ (List.mem_singleton_self _)
  exact absurd bounded.2 (by decide)

end Analyzer
end Concordance
