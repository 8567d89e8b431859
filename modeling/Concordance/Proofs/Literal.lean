import Concordance.Proofs.NumberText
import Concordance.Proofs.Quoted
import Concordance.Value.Literal

/-! Literals can be told apart. The literal of a plain value at the start of a text is known from
the text, as long as what follows it starts with a delimiter, so values of equal literals are
equal. -/
namespace Concordance

def Text.isDelimiter (c : Char) : Bool := c = ',' || c = ':' || c = ']' || c = '\x7d'

/-- Whether a text can follow a literal. -/
def Text.Follows (rest : Text) : Prop := rest.head?.all isDelimiter = true

namespace Value
variable {a b : Value} {r s : Text}

inductive Plain : Value → Prop
  | null : Plain .null
  | bool (b : Bool) : Plain (.bool b)
  | int (n : Int) : Plain (.int n)
  | real (x : Binary64) (double : x.IsDouble) : Plain (.real x)
  | text (t : Text) : Plain (.text t)
  | list (items : List Value) (each : ∀ item ∈ items, Plain item) : Plain (.list items)
  | map (entries : List (Text × Value)) (each : ∀ entry ∈ entries, Plain entry.2) :
    Plain (.map entries)
  | table (entries : List (Value × Value)) (keys : ∀ entry ∈ entries, Plain entry.1)
    (each : ∀ entry ∈ entries, Plain entry.2) (other : ∃ entry ∈ entries, entry.1.isText = false) :
    Plain (.table entries)

inductive Opening where
  | word | number | quote | bracket | brace
deriving DecidableEq

def openingOf (c : Char) : Opening :=
  if Text.isQuote c then .quote else if c = '[' then .bracket else if c = '\x7b' then .brace
  else if Binary64.isNumeric c then .number else .word

def opening : Value → Opening
  | int _ | real _ => .number
  | text _ => .quote
  | list _ => .bracket
  | map _ | table _ => .brace
  | _ => .word

theorem mem_ofInt {n : Int} {c : Char} (member : c ∈ Text.ofInt n) :
    c.isDigit = true ∨ c = '-' := by
  cases n with
  | ofNat n => exact .inl (Text.isDigit_of_mem_ofNat member)
  | negSucc n =>
    rcases List.mem_cons.mp member with rfl | member
    · exact .inr rfl
    · exact .inl (Text.isDigit_of_mem_ofNat member)

theorem ofInt_numeric {n : Int} {c : Char} (member : c ∈ Text.ofInt n) :
    Binary64.isNumeric c = true := by
  rcases mem_ofInt member with digit | rfl
  · exact Binary64.isNumeric_of_isDigit digit
  · rfl

theorem text_ne_nil (x : Binary64) : x.text ≠ [] := by
  rcases (Binary64.text_characters x).2 with mark | mark | mark <;> exact List.ne_nil_of_mem mark

theorem ofInt_ne_nil (n : Int) : Text.ofInt n ≠ [] := by
  cases n with
  | ofNat n => exact Text.ofNat_ne_nil n
  | negSucc n => exact List.cons_ne_nil _ _

theorem openingOf_numeric {c : Char} (numeric : Binary64.isNumeric c = true) :
    openingOf c = .number ∧ Text.isDelimiter c = false := by
  have apart (d : Char) (other : Binary64.isNumeric d = false) : c ≠ d := by
    rintro rfl
    exact Bool.false_ne_true (other.symm.trans numeric)
  simp only [openingOf, Text.isQuote, Text.isDelimiter, numeric, apart '\'' rfl, apart '"' rfl,
    apart '[' rfl, apart '\x7b' rfl, apart ',' rfl, apart ':' rfl, apart ']' rfl, apart '\x7d' rfl]
  decide

theorem openingOf_numeral {t : Text} (some : t ≠ [])
    (numeric : ∀ c ∈ t, Binary64.isNumeric c = true) :
    ∃ c rest, t = c :: rest ∧ openingOf c = .number ∧ Text.isDelimiter c = false := by
  obtain ⟨c, rest, rfl⟩ := List.exists_cons_of_ne_nil some
  exact ⟨c, rest, rfl, openingOf_numeric (numeric c List.mem_cons_self)⟩

theorem openingOf_quote {c : Char} (quote : Text.isQuote c = true) :
    openingOf c = .quote ∧ Text.isDelimiter c = false := by
  simp only [Text.isQuote, Bool.or_eq_true, decide_eq_true_eq] at quote
  rcases quote with rfl | rfl <;> decide

theorem literal_opening (plain : Plain a) :
    ∃ c rest, a.literal = c :: rest ∧ openingOf c = a.opening ∧ Text.isDelimiter c = false := by
  cases plain with
  | null => exact ⟨'N', _, rfl, by decide, by decide⟩
  | bool b => cases b <;> exact ⟨_, _, rfl, by decide, by decide⟩
  | int n =>
    rw [literal]
    exact openingOf_numeral (ofInt_ne_nil n) fun _ => ofInt_numeric
  | real x double =>
    rw [literal]
    exact openingOf_numeral (text_ne_nil x) (Binary64.text_characters x).1
  | text t => exact ⟨_, _, by rw [literal, Text.quoted], openingOf_quote (Text.isQuote_quoteFor t)⟩
  | list items each => exact ⟨'[', _, by rw [literal, enclose], rfl, rfl⟩
  | map entries each => exact ⟨'\x7b', _, by rw [literal, enclose], rfl, rfl⟩
  | table entries keys each other => exact ⟨'\x7b', _, by rw [literal, enclose], rfl, rfl⟩

theorem opening_eq (first : Plain a) (second : Plain b) (same : a.literal ++ r = b.literal ++ s) :
    a.opening = b.opening := by
  obtain ⟨c, _, left, kind, _⟩ := literal_opening first
  obtain ⟨d, _, right, other, _⟩ := literal_opening second
  rw [left, right] at same
  rw [← kind, ← other, (List.cons.inj same).1]

theorem append_inj_of_follows {t u : Text} (first : ∀ c ∈ t, Text.isDelimiter c = false)
    (second : ∀ c ∈ u, Text.isDelimiter c = false) (ends : Text.Follows r) (stops : Text.Follows s)
    (same : t ++ r = u ++ s) : t = u ∧ r = s := by
  have cut {t rest : Text} (inside : ∀ c ∈ t, Text.isDelimiter c = false)
      (follows : Text.Follows rest) : (t ++ rest).takeWhile (!Text.isDelimiter ·) = t :=
    (Text.span_exact (by simpa using inside)
      (by simpa [Text.Follows, Option.all_eq_true] using follows)).1
  have head : t = u := by rw [← cut first ends, same, cut second stops]
  subst head
  exact ⟨rfl, List.append_cancel_left same⟩

section Items
variable {α : Type} {write : α → Text} {P : α → Prop} {closing : Char} {as bs : List α}

/-- Whether an item at the start of a text is known from how it is written. -/
def Readable (write : α → Text) (P : α → Prop) (a : α) : Prop :=
  ∀ b r s, P b → Text.Follows r → Text.Follows s → write a ++ r = write b ++ s → a = b ∧ r = s

def Begins (write : α → Text) (a : α) : Prop :=
  ∃ c rest, write a = c :: rest ∧ Text.isDelimiter c = false

def further (write : α → Text) (as : List α) : Text := (as.map write).flatMap ([',', ' '] ++ ·)

theorem follows_further (final : Text.isDelimiter closing = true) (as : List α) (r : Text) :
    Text.Follows (further write as ++ closing :: r) := by
  cases as with
  | nil => simpa [further, Text.Follows] using final
  | cons a as => simp [further, Text.Follows, Text.isDelimiter]

theorem further_append_inj (final : Text.isDelimiter closing = true) (apart : closing ≠ ',')
    (each : ∀ a ∈ as, Readable write P a) (others : ∀ b ∈ bs, P b)
    (same : further write as ++ closing :: r = further write bs ++ closing :: s) :
    as = bs ∧ r = s := by
  induction as generalizing bs with
  | nil =>
    cases bs with
    | nil => exact ⟨rfl, (List.cons.inj same).2⟩
    | cons b bs => exact absurd (List.cons.inj same).1 apart
  | cons a as ih =>
    cases bs with
    | nil => exact absurd (List.cons.inj same).1.symm apart
    | cons b bs =>
      obtain ⟨readable, later⟩ := List.forall_mem_cons.mp each
      obtain ⟨first, beyond⟩ := List.forall_mem_cons.mp others
      have written : write a ++ (further write as ++ closing :: r) =
          write b ++ (further write bs ++ closing :: s) := by
        simpa [further] using same
      obtain ⟨rfl, rest⟩ := readable b _ _ first (follows_further final as r)
        (follows_further final bs s) written
      obtain ⟨rfl, rfl⟩ := ih later beyond rest
      exact ⟨rfl, rfl⟩

theorem items_append_inj (final : Text.isDelimiter closing = true) (apart : closing ≠ ',')
    (each : ∀ a ∈ as, Readable write P a ∧ Begins write a)
    (others : ∀ b ∈ bs, P b ∧ Begins write b)
    (same : Text.join [',', ' '] (as.map write) ++ closing :: r =
      Text.join [',', ' '] (bs.map write) ++ closing :: s) : as = bs ∧ r = s := by
  cases as with
  | nil =>
    cases bs with
    | nil => exact ⟨rfl, (List.cons.inj same).2⟩
    | cons b bs =>
      obtain ⟨c, rest, begins, inside⟩ := (others b List.mem_cons_self).2
      rw [List.map_cons, Text.join_cons, begins] at same
      rw [← (List.cons.inj same).1, final] at inside
      exact absurd inside (by decide)
  | cons a as =>
    cases bs with
    | nil =>
      obtain ⟨c, rest, begins, inside⟩ := (each a List.mem_cons_self).2
      rw [List.map_cons, Text.join_cons, begins] at same
      rw [(List.cons.inj same).1, final] at inside
      exact absurd inside (by decide)
    | cons b bs =>
      obtain ⟨⟨readable, _⟩, later⟩ := List.forall_mem_cons.mp each
      obtain ⟨⟨first, _⟩, beyond⟩ := List.forall_mem_cons.mp others
      rw [List.map_cons, List.map_cons, Text.join_cons, Text.join_cons, List.append_assoc,
        List.append_assoc] at same
      obtain ⟨rfl, rest⟩ := readable b _ _ first (follows_further final as r)
        (follows_further final bs s) same
      obtain ⟨rfl, rfl⟩ := further_append_inj final apart (fun a member => (later a member).1)
        (fun b member => (beyond b member).1) rest
      exact ⟨rfl, rfl⟩

end Items

theorem literals_eq_map (items : List Value) : literals items = items.map literal := by
  induction items with
  | nil => rfl
  | cons item items ih => rw [literals, ih, List.map_cons]

def entryLiteral (entry : Value × Value) : Text :=
  entry.1.literal ++ ':' :: ' ' :: entry.2.literal

theorem pairLiterals_eq_map (entries : List (Value × Value)) :
    pairLiterals entries = entries.map entryLiteral := by
  induction entries with
  | nil => rfl
  | cons entry entries ih => rw [pairLiterals, ih, List.map_cons, entryLiteral]

theorem entryLiterals_eq_map (entries : List (Text × Value)) : entryLiterals entries =
    (entries.map fun entry => (text entry.1, entry.2)).map entryLiteral := by
  induction entries with
  | nil => rfl
  | cons entry entries ih =>
    rw [entryLiterals, ih, List.map_cons, List.map_cons, entryLiteral, literal]

theorem literal_of_entries {entries : List (Value × Value)} (some : a.entries? = some entries) :
    a.literal = '\x7b' :: (Text.join [',', ' '] (entries.map entryLiteral) ++ ['\x7d']) := by
  cases a with
  | map fields =>
    cases some
    rw [literal, enclose, entryLiterals_eq_map]
  | table pairs =>
    cases some
    rw [literal, enclose, pairLiterals_eq_map]
  | _ => cases some

theorem entries?_injective {entries : List (Value × Value)} (first : Plain a) (second : Plain b)
    (mine : a.entries? = some entries) (others : b.entries? = some entries) : a = b := by
  have fieldsInjective :
      Function.Injective fun field : Text × Value => (text field.1, field.2) := by
    rintro ⟨name, value⟩ ⟨other, more⟩ same
    simpa using same
  have named {fields : List (Text × Value)} {pairs : List (Value × Value)}
      (same : fields.map (fun field => (text field.1, field.2)) = pairs)
      (other : ∃ entry ∈ pairs, entry.1.isText = false) : False := by
    subst same
    obtain ⟨entry, member, apart⟩ := other
    obtain ⟨field, _, rfl⟩ := List.mem_map.mp member
    exact absurd apart (by simp [isText])
  cases first with
  | map fields _ =>
    cases mine
    cases second with
    | map more _ =>
      rw [List.map_injective_iff.mpr fieldsInjective (Option.some.inj others)]
    | table pairs _ _ other => exact (named (Option.some.inj others).symm other).elim
    | _ => cases others
  | table pairs _ _ other =>
    cases mine
    cases second with
    | map fields _ => exact (named (Option.some.inj others) other).elim
    | table more _ _ _ => rw [Option.some.inj others]
    | _ => cases others
  | _ => cases mine

theorem begins_literal (plain : Plain a) : Begins literal a := by
  obtain ⟨c, rest, same, _, inside⟩ := literal_opening plain
  exact ⟨c, rest, same, inside⟩

theorem begins_entryLiteral {entry : Value × Value} (plain : Plain entry.1) :
    Begins entryLiteral entry := by
  obtain ⟨c, rest, same, inside⟩ := begins_literal plain
  exact ⟨c, rest ++ ':' :: ' ' :: entry.2.literal, by rw [entryLiteral, same]; rfl, inside⟩

theorem readable_text (t : Text) : Readable literal Plain (text t) := by
  intro b r s plain _ _ same
  have kind := opening_eq (.text t) plain same
  cases plain <;> cases kind
  case text u =>
    rw [literal, literal] at same
    obtain ⟨rfl, rfl⟩ := Text.quoted_append_inj same
    exact ⟨rfl, rfl⟩

theorem follows_colon (rest : Text) : Text.Follows (':' :: rest) := rfl

theorem readable_entry {entry : Value × Value} (key : Readable literal Plain entry.1)
    (value : Readable literal Plain entry.2) :
    Readable entryLiteral (fun e => Plain e.1 ∧ Plain e.2) entry := by
  rintro ⟨k, v⟩ r s ⟨plain, other⟩ ends stops same
  simp only [entryLiteral, List.append_assoc, List.cons_append] at same
  obtain ⟨keys, rest⟩ := key k _ _ plain (follows_colon _) (follows_colon _) same
  simp only [List.cons.injEq, true_and] at rest
  obtain ⟨values, rfl⟩ := value v r s other ends stops rest
  exact ⟨Prod.ext keys values, rfl⟩

theorem plain_of_mem_entries {entries : List (Value × Value)} (plain : Plain a)
    (mine : a.entries? = some entries) : ∀ entry ∈ entries, Plain entry.1 ∧ Plain entry.2 := by
  cases plain with
  | map fields each =>
    cases mine
    intro entry member
    obtain ⟨field, known, rfl⟩ := List.mem_map.mp member
    exact ⟨.text field.1, each field known⟩
  | table pairs keys each _ =>
    cases mine
    exact fun entry member => ⟨keys entry member, each entry member⟩
  | _ => cases mine

theorem readable_of_entries {entries : List (Value × Value)} (plain : Plain a)
    (mine : a.entries? = some entries)
    (each : ∀ entry ∈ entries, Readable literal Plain entry.1 ∧ Readable literal Plain entry.2) :
    Readable literal Plain a := by
  intro b r s other _ _ same
  have kind := opening_eq plain other same
  obtain ⟨more, others⟩ : ∃ more, b.entries? = some more := by
    cases plain <;> cases mine <;> cases other <;> first | exact ⟨_, rfl⟩ | cases kind
  rw [literal_of_entries mine, literal_of_entries others] at same
  simp only [List.cons_append, List.append_assoc, List.cons.injEq, true_and,
    List.nil_append] at same
  have written := plain_of_mem_entries plain mine
  have known := plain_of_mem_entries other others
  obtain ⟨rfl, rfl⟩ := items_append_inj rfl (by decide)
    (fun entry member => ⟨readable_entry (each entry member).1 (each entry member).2,
      begins_entryLiteral (written entry member).1⟩)
    (fun entry member => ⟨known entry member, begins_entryLiteral (known entry member).1⟩) same
  exact ⟨entries?_injective plain other mine others, rfl⟩

theorem undelimited_of_all {t : Text} (all : t.all (!Text.isDelimiter ·) = true) :
    ∀ c ∈ t, Text.isDelimiter c = false := by
  simpa using all

theorem literal_undelimited (plain : Plain a) (atom : a.opening = .word ∨ a.opening = .number) :
    ∀ c ∈ a.literal, Text.isDelimiter c = false := by
  cases plain with
  | null => exact undelimited_of_all rfl
  | bool b => cases b <;> exact undelimited_of_all rfl
  | int n => exact fun c member => (openingOf_numeric (ofInt_numeric member)).2
  | real x double =>
    exact fun c member => (openingOf_numeric ((Binary64.text_characters x).1 c member)).2
  | _ => simp [opening] at atom

theorem ofInt_ne_text (n : Int) (x : Binary64) : Text.ofInt n ≠ x.text := by
  intro same
  have digital : ∀ c ∈ x.text, c.isDigit = true ∨ c = '-' := same ▸ fun c => mem_ofInt
  rcases (Binary64.text_characters x).2 with mark | mark | mark <;>
    exact absurd (digital _ mark) (by decide)

theorem atom_injective (first : Plain a) (second : Plain b)
    (atom : a.opening = .word ∨ a.opening = .number) (kind : a.opening = b.opening)
    (same : a.literal = b.literal) : a = b := by
  cases first <;> cases second <;> simp only [opening, reduceCtorEq, or_self] at atom kind
  case null.null => rfl
  case null.bool b => cases b <;> exact absurd same (by decide)
  case bool.null b => cases b <;> exact absurd same (by decide)
  case bool.bool b c => cases b <;> cases c <;> first | rfl | exact absurd same (by decide)
  case int.int m n => rw [Text.ofInt_injective same]
  case int.real n x double => exact absurd same (ofInt_ne_text n x)
  case real.int x double n => exact absurd same.symm (ofInt_ne_text n x)
  case real.real x double y other => rw [Binary64.text_injective double other same]

/-- The literal of a plain value is known from any text that it starts. -/
theorem Plain.readable (plain : Plain a) : Readable literal Plain a := by
  have atom {a : Value} (plain : Plain a) (atom : a.opening = .word ∨ a.opening = .number) :
      Readable literal Plain a := by
    intro b r s other ends stops same
    have kind := opening_eq plain other same
    obtain ⟨equal, rest⟩ := append_inj_of_follows (literal_undelimited plain atom)
      (literal_undelimited other (kind ▸ atom)) ends stops same
    exact ⟨atom_injective plain other atom kind equal, rest⟩
  induction plain with
  | null => exact atom .null (.inl rfl)
  | bool b => exact atom (.bool b) (.inl rfl)
  | int n => exact atom (.int n) (.inr rfl)
  | real x double => exact atom (.real x double) (.inr rfl)
  | text t => exact readable_text t
  | list items each ih =>
    intro b r s other _ _ same
    have kind := opening_eq (.list items each) other same
    cases other <;> simp only [opening, reduceCtorEq] at kind
    case list others plain =>
      simp only [literal, enclose, literals_eq_map, List.cons_append, List.append_assoc,
        List.cons.injEq, true_and, List.nil_append] at same
      obtain ⟨rfl, rfl⟩ := items_append_inj rfl (by decide)
        (fun item member => ⟨ih item member, begins_literal (each item member)⟩)
        (fun item member => ⟨plain item member, begins_literal (plain item member)⟩) same
      exact ⟨rfl, rfl⟩
  | map entries each ih =>
    refine readable_of_entries (.map entries each) rfl fun entry member => ?_
    obtain ⟨field, known, rfl⟩ := List.mem_map.mp member
    exact ⟨readable_text field.1, ih field known⟩
  | table entries keys each other firsts seconds =>
    exact readable_of_entries (.table entries keys each other) rfl fun entry member =>
      ⟨firsts entry member, seconds entry member⟩

end Value
end Concordance
