import Concordance.Unicode.Blank
import Concordance.Unicode.Casing

/-! Text is a list of characters, so lengths, offsets and cuts count code points. This module
holds what searching needs of it: maximal runs, trimming, lower case, and the leftmost
non-overlapping occurrences of one text in another. -/
namespace Concordance

abbrev Text := List Char

/-- The maximal runs of elements with a property, in order. An element joins the run that starts
right behind it. -/
def runs {α : Type} (p : α → Bool) : List α → List (List α)
  | [] => []
  | x :: rest =>
    if p x then
      match rest, runs p rest with
      | y :: _, run :: more => if p y then (x :: run) :: more else [x] :: run :: more
      | _, more => [x] :: more
    else runs p rest

namespace Text

open Unicode

def parts (t : Text) : List Text := runs (fun c => !isBlank c) t

def trimBy (p : Char → Bool) (t : Text) : Text :=
  ((t.dropWhile p).reverse.dropWhile p).reverse

def trim (t : Text) : Text := trimBy isBlank t

def join (separator : Text) (ts : List Text) : Text := List.intercalate separator ts

/-- A capital sigma ends a word when a letter with case precedes it and none follows; marks and
apostrophes between them do not count. -/
def endsWord (before after : Text) : Bool :=
  (before.dropWhile isCaseIgnorable).head?.any isCased &&
    !(after.dropWhile isCaseIgnorable).head?.any isCased

/-- Lower case of one character between the characters `before` it, nearest first, and those
`after` it. -/
def lowerBetween (before : Text) (c : Char) (after : Text) : Text :=
  if c = 'İ' then ['i', '\u0307']
  else if c = 'Σ' then [if endsWord before after then 'ς' else 'σ']
  else [lowerChar c]

def lowerFrom (before : Text) : Text → Text
  | [] => []
  | c :: after => lowerBetween before c after ++ lowerFrom (c :: before) after

def lower (t : Text) : Text := lowerFrom [] t

def lowerAscii (t : Text) : Text := t.map Char.toLower

def occursIn (needle : Text) : Text → Bool
  | [] => needle.isEmpty
  | c :: rest => needle.isPrefixOf (c :: rest) || occursIn needle rest

/-- Offsets of the leftmost non-overlapping occurrences, the text beginning at `offset` and its
first `skip` characters belonging to the occurrence before. -/
def occurrencesFrom (needle : Text) (offset skip : Nat) : Text → List Nat
  | [] => []
  | c :: rest =>
    match skip with
    | skip + 1 => occurrencesFrom needle (offset + 1) skip rest
    | 0 =>
      if needle.isPrefixOf (c :: rest) then
        offset :: occurrencesFrom needle (offset + 1) (needle.length - 1) rest
      else occurrencesFrom needle (offset + 1) 0 rest

def occurrences (needle t : Text) : List Nat := occurrencesFrom needle 0 0 t

def precedes : Text → Text → Bool
  | [], _ => true
  | _ :: _, [] => false
  | c :: s, d :: t => c.toNat < d.toNat || (c == d && precedes s t)

/-- The place of a text among words in ascending order: in front of the first that does not come
before it. The stretch of places it can be in is halved until one is left. -/
def placeAmong (words : Array Text) (t : Text) (low high : Nat) (inside : high ≤ words.size) :
    Nat :=
  if more : low < high then
    if precedes t words[(low + high) / 2] then
      placeAmong words t low ((low + high) / 2) (by omega)
    else placeAmong words t ((low + high) / 2 + 1) high inside
  else low
termination_by high - low

def clip (limit : Nat) (t : Text) : Text :=
  if t.length ≤ limit then t else t.take limit ++ ['.', '.', '.']

def ofNat (n : Nat) : Text := Nat.toDigits 10 n

def ofInt : Int → Text
  | .ofNat n => ofNat n
  | .negSucc n => '-' :: ofNat (n + 1)

theorem join_cons (separator t : Text) (ts : List Text) :
    join separator (t :: ts) = t ++ ts.flatMap (separator ++ ·) := by
  induction ts generalizing t with
  | nil => simp [join]
  | cons u ts ih =>
    rw [join, List.intercalate_cons_cons, ← join, ih, List.flatMap_cons, List.append_assoc,
      List.append_assoc]

theorem span_exact {p : Char → Bool} {t rest : Text} (inside : ∀ c ∈ t, p c = true)
    (ends : ∀ c ∈ rest.head?, p c = false) :
    (t ++ rest).takeWhile p = t ∧ (t ++ rest).dropWhile p = rest := by
  rw [List.takeWhile_append_of_pos inside, List.dropWhile_append_of_pos inside]
  cases rest with
  | nil => simp
  | cons c rest => simp [ends c rfl]

theorem occursIn_self (t : Text) : occursIn t t = true := by
  cases t with
  | nil => rfl
  | cons c t => simp [occursIn]

end Text
end Concordance
