import Concordance.Proofs.QueryNotation
import Mathlib.Algebra.Group.Nat.Even

/-! Where phrases come from. A phrase is read from behind a quote up to the next one, or to the end.
Quotes in a run that a sign takes neither begin nor end a phrase. So a phrase stands between two
quotes that belong together, an even number of quotes being in front of it, exactly if the quotes in
the runs that signs take before it are even in number. -/
namespace Concordance.QueryToken
open Unicode

/-- The runs that signs at the beginning of a word take, each up to the next blank. -/
def signedRuns : Text → List Text
  | [] => []
  | c :: rest =>
    if isQuote c then signedRuns ((rest.dropWhile (!isQuote ·)).drop 1)
    else if isBlank c then signedRuns rest
    else match modifier? c with
      | some _ => rest.takeWhile (!isBlank ·) :: signedRuns (rest.dropWhile (!isBlank ·))
      | none => signedRuns (rest.dropWhile continuesWord)
termination_by t => t.length
decreasing_by
  all_goals
    have quoted := (List.dropWhile_suffix (!isQuote ·) (l := rest)).length_le
    have signed := (List.dropWhile_suffix (!isBlank ·) (l := rest)).length_le
    have plain := (List.dropWhile_suffix continuesWord (l := rest)).length_le
    simp only [List.length_cons, List.length_drop]
    omega

section Reading
variable {c : Char} {v w rest : Text} {kind : TokenKind}

theorem isQuote_quote : isQuote '"' = true := by decide

theorem parse_open (unquoted : '"' ∉ v) :
    parse ('"' :: v) = unlessEmpty .phrase (Text.trim v) := by
  have inside := not_isQuote_of_not_mem unquoted
  rw [parse, if_pos isQuote_quote, List.takeWhile_eq_self_iff.mpr inside,
    List.dropWhile_eq_nil_iff.mpr inside, List.drop_nil, parse_nil, List.append_nil]

theorem signedRuns_nil : signedRuns [] = [] := by rw [signedRuns]

theorem signedRuns_quoted (unquoted : '"' ∉ v) (rest : Text) :
    signedRuns ('"' :: (v ++ '"' :: rest)) = signedRuns rest := by
  have left := (Text.span_exact (not_isQuote_of_not_mem unquoted)
    (by rintro c ⟨⟩; rfl : ∀ c ∈ ('"' :: rest).head?, (!isQuote c) = false)).2
  rw [signedRuns, if_pos isQuote_quote, left, List.drop_one, List.tail_cons]

theorem signedRuns_blank (blank : isBlank c = true) (rest : Text) :
    signedRuns (c :: rest) = signedRuns rest := by
  rw [signedRuns]
  simp [not_isQuote_of_isBlank blank, blank]

theorem signedRuns_signed (sign : modifier? c = some kind) (unbroken : Text.Unbroken v)
    (ends : ∀ d ∈ rest.head?, isBlank d = true) :
    signedRuns (c :: (v ++ rest)) = v :: signedRuns rest := by
  have plain := plain_of_modifier? sign
  obtain ⟨taken, left⟩ : (v ++ rest).takeWhile (!isBlank ·) = v ∧
      (v ++ rest).dropWhile (!isBlank ·) = rest :=
    Text.span_exact (by simpa [Text.Unbroken] using unbroken) (by simpa using ends)
  rw [signedRuns]
  simp [plain, sign, taken, left]

theorem signedRuns_word (nonempty : w ≠ []) (continues : ∀ c ∈ w, continuesWord c = true)
    (unsigned : ∀ c ∈ w.head?, modifier? c = none)
    (ends : ∀ c ∈ rest.head?, continuesWord c = false) :
    signedRuns (w ++ rest) = signedRuns rest := by
  cases w with
  | nil => exact absurd rfl nonempty
  | cons c w =>
    obtain ⟨first, further⟩ := List.forall_mem_cons.mp continues
    have plain : isBlank c = false ∧ isQuote c = false := by simpa [continuesWord] using first
    have left := (Text.span_exact further ends).2
    rw [List.cons_append, signedRuns]
    simp [plain, unsigned c rfl, left]

theorem written_induction {motive : Text → Prop} (nil : motive [])
    (quoted : ∀ v rest, '"' ∉ v → motive rest → motive ('"' :: (v ++ '"' :: rest)))
    (opened : ∀ v, '"' ∉ v → motive ('"' :: v))
    (blank : ∀ c rest, isBlank c = true → motive rest → motive (c :: rest))
    (signed : ∀ c kind run rest, modifier? c = some kind → Text.Unbroken run →
      (∀ d ∈ rest.head?, isBlank d = true) → motive rest → motive (c :: (run ++ rest)))
    (word : ∀ w rest, w ≠ [] → (∀ c ∈ w, continuesWord c = true) →
      (∀ c ∈ w.head?, modifier? c = none) → (∀ c ∈ rest.head?, continuesWord c = false) →
      motive rest → motive (w ++ rest)) (t : Text) : motive t := by
  induction t using parse_induction with
  | nil => exact nil
  | phrase c rest quote ih =>
    obtain rfl : c = '"' := by simpa [isQuote] using quote
    have unquoted : '"' ∉ rest.takeWhile (!isQuote ·) := fun inside =>
      absurd (List.mem_takeWhile_imp inside) (by decide)
    have split := List.takeWhile_append_dropWhile (p := (!isQuote ·)) (l := rest)
    cases left : rest.dropWhile (!isQuote ·) with
    | nil =>
      rw [left, List.append_nil] at split
      exact opened rest (split ▸ unquoted)
    | cons d behind =>
      have first : d ∈ (rest.dropWhile (!isQuote ·)).head? := by simp [left]
      obtain rfl : d = '"' := by simpa [isQuote] using Text.head?_dropWhile first
      rw [left] at ih split
      rw [← split]
      exact quoted _ behind unquoted ih
  | blank c rest _ blank' ih => exact blank c rest blank' ih
  | modified c rest quote blank' kind sign ih =>
    have ends : ∀ d ∈ (rest.dropWhile (!isBlank ·)).head?, isBlank d = true := fun d first => by
      simpa using Text.head?_dropWhile first
    have unbroken : Text.Unbroken (rest.takeWhile (!isBlank ·)) := fun d inside => by
      simpa using List.mem_takeWhile_imp inside
    have whole := signed c kind _ _ sign unbroken ends ih
    rwa [List.takeWhile_append_dropWhile] at whole
  | word c rest quote blank' sign ih =>
    have continues : ∀ d ∈ c :: rest.takeWhile continuesWord, continuesWord d = true :=
      List.forall_mem_cons.mpr
        ⟨by simp [continuesWord, quote, blank'], fun d => List.mem_takeWhile_imp⟩
    have whole := word (c :: rest.takeWhile continuesWord) (rest.dropWhile continuesWord)
      (List.cons_ne_nil _ _) continues (by rintro d ⟨⟩; exact sign)
      (fun d first => Text.head?_dropWhile first) ih
    rwa [List.cons_append, List.takeWhile_append_dropWhile] at whole

theorem modifier?_ne_phrase (sign : modifier? c = some kind) : kind ≠ .phrase := by
  obtain ⟨_, rfl⟩ | ⟨_, rfl⟩ := modifier?_cases sign <;> decide

theorem ofWord_ne_phrase (w : Text) : (ofWord w).kind ≠ .phrase := by
  unfold ofWord
  split <;> simp

end Reading

structure Stretch (query front v back : Text) : Prop where
  split : query = front ++ '"' :: (v ++ back)
  unquoted : '"' ∉ v
  ends : ∀ c ∈ back.head?, c = '"'

/-- Reading takes the front of a query off as if it stood alone, and is then outside of phrases: the
quotes in the front that stand in no run behind a sign come in pairs. -/
structure Reached (query front : Text) : Prop where
  runs : signedRuns front <+: signedRuns query
  parity : Even (front.count '"' + (signedRuns front).flatten.count '"')

def StandsQuoted (value query : Text) : Prop :=
  ∃ front v back, Stretch query front v back ∧ value = Text.trim v ∧ Reached query front

section Stretches
variable {query rest front v back part : Text} {runs : List Text} {token : QueryToken}

theorem Stretch.behind (stretch : Stretch rest front v back) (part : Text) :
    Stretch (part ++ rest) (part ++ front) v back where
  split := by rw [stretch.split, List.append_assoc]
  unquoted := stretch.unquoted
  ends := stretch.ends

theorem reached_nil (query : Text) : Reached query [] where
  runs := signedRuns_nil ▸ List.nil_prefix
  parity := by simp [signedRuns_nil]

theorem Reached.behind (reached : Reached rest front) (begins : front <+: rest)
    (reads : ∀ t, (∀ c ∈ t.head?, c ∈ rest.head?) →
      signedRuns (part ++ t) = runs ++ signedRuns t)
    (even : Even (part.count '"' + runs.flatten.count '"')) :
    Reached (part ++ rest) (part ++ front) := by
  have first : ∀ c ∈ front.head?, c ∈ rest.head? := by
    rintro c own
    obtain ⟨further, rfl⟩ := begins
    rw [List.head?_append, Option.or_eq_some_iff.mpr (.inl own)]
    rfl
  constructor
  · rw [reads front first, reads rest fun _ => id]
    exact (List.prefix_append_right_inj runs).mpr reached.runs
  · rw [reads front first, List.flatten_append, List.count_append, List.count_append,
      Nat.add_add_add_comm]
    exact even.add reached.parity

theorem StandsQuoted.behind (stands : StandsQuoted v rest) (part : Text) (runs : List Text)
    (reads : ∀ t, (∀ c ∈ t.head?, c ∈ rest.head?) →
      signedRuns (part ++ t) = runs ++ signedRuns t)
    (even : Even (part.count '"' + runs.flatten.count '"')) : StandsQuoted v (part ++ rest) := by
  obtain ⟨front, w, back, stretch, value, reached⟩ := stands
  have begins : front <+: rest := ⟨_, stretch.split.symm⟩
  exact ⟨_, w, back, stretch.behind part, value, reached.behind begins reads even⟩

theorem standsQuoted_first (unquoted : '"' ∉ v) (ends : ∀ c ∈ back.head?, c = '"') :
    StandsQuoted (Text.trim v) ('"' :: (v ++ back)) :=
  ⟨[], v, back, ⟨rfl, unquoted, ends⟩, rfl, reached_nil _⟩

theorem phrase_standsQuoted (member : token ∈ parse query) (phrase : token.kind = .phrase) :
    StandsQuoted token.value query := by
  induction query using written_induction with
  | nil =>
    rw [parse_nil] at member
    cases member
  | quoted v rest unquoted ih =>
    rw [parse_quoted unquoted] at member
    rcases List.mem_append.mp member with here | further
    · obtain ⟨_, rfl⟩ := mem_unlessEmpty.mp here
      exact standsQuoted_first unquoted (by rintro c ⟨⟩; rfl)
    · have whole : '"' :: (v ++ '"' :: rest) = ('"' :: (v ++ ['"'])) ++ rest := by simp
      rw [whole]
      -- the phrase in front adds two quotes, and no run
      refine (ih further).behind _ [] (fun t _ => ?_) ⟨1, ?_⟩
      · simpa using signedRuns_quoted unquoted t
      · simp [List.count_eq_zero.mpr unquoted]
  | opened v unquoted =>
    rw [parse_open unquoted] at member
    obtain ⟨_, rfl⟩ := mem_unlessEmpty.mp member
    rw [← List.append_nil ('"' :: v)]
    exact standsQuoted_first unquoted (by rintro c ⟨⟩)
  | blank c rest blank ih =>
    rw [parse_blank blank] at member
    have other : c ≠ '"' := by simpa [isQuote] using not_isQuote_of_isBlank blank
    refine (ih member).behind [c] [] (fun t _ => ?_) ?_
    · exact signedRuns_blank blank t
    · simp [other]
  | signed c kind run rest sign unbroken ends ih =>
    rw [parse_signed sign unbroken ends] at member
    have other : c ≠ '"' := by simpa [isQuote] using (plain_of_modifier? sign).1
    rcases List.mem_append.mp member with here | further
    · obtain ⟨_, rfl⟩ := mem_unlessEmpty.mp here
      exact absurd phrase (modifier?_ne_phrase sign)
    · refine (ih further).behind (c :: run) [run] (fun t first => ?_) ?_
      · exact signedRuns_signed sign unbroken fun d own => ends d (first d own)
      · simp [other]
  | word w rest nonempty continues unsigned ends ih =>
    rw [parse_word nonempty continues unsigned ends] at member
    rcases List.mem_cons.mp member with rfl | further
    · exact absurd phrase (ofWord_ne_phrase w)
    · have unquoted : '"' ∉ w := fun inside => absurd (continues _ inside) (by decide)
      refine (ih further).behind w [] (fun t first => ?_) ?_
      · exact signedRuns_word nonempty continues unsigned fun d own => ends d (first d own)
      · simp [List.count_eq_zero.mpr unquoted]

theorem even_count_flatten (each : ∀ run ∈ runs, Even (run.count '"')) :
    Even (runs.flatten.count '"') := by
  induction runs with
  | nil => exact ⟨0, rfl⟩
  | cons run runs ih =>
    obtain ⟨first, others⟩ := List.forall_mem_cons.mp each
    rw [List.flatten_cons, List.count_append]
    exact first.add (ih others)

theorem Stretch.closed (stretch : Stretch query front v back) (whole : Even (query.count '"'))
    (before : Even (front.count '"')) : back.head? = some '"' := by
  cases back with
  | nil =>
    rw [stretch.split, List.append_nil, List.count_append, List.count_cons_self,
      List.count_eq_zero.mpr stretch.unquoted, Nat.even_add] at whole
    exact absurd (whole.mp before) (by decide)
  | cons c back => exact congrArg some (stretch.ends c rfl)

theorem Stretch.at_place (stretch : Stretch query front v back) :
    front.length < query.length ∧ query.take front.length = front ∧
      query[front.length]? = some '"' ∧
      (query.drop (front.length + 1)).takeWhile (!isQuote ·) = v := by
  obtain ⟨rfl, unquoted, ends⟩ := stretch
  refine ⟨by simp, List.take_left, by simp, ?_⟩
  rw [List.drop_length_add_append, List.drop_one, List.tail_cons]
  refine (Text.span_exact (not_isQuote_of_not_mem unquoted) fun c first => ?_).1
  rw [ends c first]
  rfl

/-- Every phrase is the trimmed text behind some quote of the query, up to the next quote or the
end. The quotes in front of it are even in number exactly if those in the runs that signs take there
are; the text then stands between two quotes that belong together, if the quotes of the query are
even in number. So no other text becomes a phrase if every run behind a sign has its quotes in
pairs. -/
theorem phrases_stand_between_quotes (member : token ∈ parse query)
    (phrase : token.kind = .phrase) :
    ∃ front v back, Stretch query front v back ∧ token.value = Text.trim v ∧
      (Even (front.count '"') ↔ Even ((signedRuns front).flatten.count '"')) ∧
      (Even (query.count '"') → Even (front.count '"') → back.head? = some '"') ∧
      ((∀ run ∈ signedRuns query, Even (run.count '"')) → Even (front.count '"')) := by
  obtain ⟨front, v, back, stretch, value, reached⟩ := phrase_standsQuoted member phrase
  have parity := Nat.even_add.mp reached.parity
  refine ⟨front, v, back, stretch, value, parity, stretch.closed, fun paired => ?_⟩
  exact parity.mpr (even_count_flatten fun run inside => paired run (reached.runs.subset inside))

def pairedQuery : Text := "-\"x\" \" a b\" +\"c\"".toList

theorem paired_phrase_between_quotes :
    Even (pairedQuery.count '"') ∧
    (∀ run ∈ signedRuns pairedQuery, Even (run.count '"')) ∧
    ⟨.phrase, "a b".toList⟩ ∈ parse pairedQuery ∧
    ∃ front v back, Stretch pairedQuery front v back ∧ Even (front.count '"') ∧
      back.head? = some '"' ∧ "a b".toList = Text.trim v := by
  have even : Even (pairedQuery.count '"') := by decide
  have paired : ∀ run ∈ signedRuns pairedQuery, Even (run.count '"') := by decide +kernel
  have member : ⟨.phrase, "a b".toList⟩ ∈ parse pairedQuery := by decide +kernel
  obtain ⟨front, v, back, stretch, value, _, closed, before⟩ :=
    phrases_stand_between_quotes member rfl
  have outside := before paired
  exact ⟨even, paired, member, front, v, back, stretch, outside, closed even outside, value⟩

def brokenQuery : Text := "+\"a b\" c \"d e\"".toList

theorem text_outside_quotes_becomes_phrase :
    ¬∀ query : Text, Even (query.count '"') → ∀ token ∈ parse query, token.kind = .phrase →
      ∃ front v back, Stretch query front v back ∧ Even (front.count '"') ∧
        back.head? = some '"' ∧ token.value = Text.trim v := by
  intro all
  have member : ⟨.phrase, "c".toList⟩ ∈ parse brokenQuery := by decide +kernel
  obtain ⟨front, v, back, stretch, even, _, value⟩ := all brokenQuery (by decide) _ member rfl
  obtain ⟨inside, taken, quote, between⟩ := stretch.at_place
  have none : ∀ n < brokenQuery.length, brokenQuery[n]? = some '"' →
      Even ((brokenQuery.take n).count '"') →
      Text.trim ((brokenQuery.drop (n + 1)).takeWhile (!isQuote ·)) ≠ "c".toList := by
    decide
  rw [← taken] at even
  rw [← between] at value
  exact none _ inside quote even value.symm

end Stretches
end Concordance.QueryToken
