import Concordance.Calendar.Moment
import Concordance.Number.Reading

/-! Reading moments from text in the formats of ISO 8601: calendar and week dates, with hyphens or
without, then any one character, then a time with colons or without, a fraction of the last
component, and an offset or the `Z` of universal time. Only ASCII digits are read. A NUL behind a
complete clock ends the text. -/
namespace Concordance.Moment

def charAt (t : Text) (i : Nat) : Char := t[i]?.getD '\x00'

def takeDigits? (n : Nat) (t : Text) : Option (Nat × Text) :=
  let digits := t.take n
  if digits.length = n && digits.all Char.isDigit then some (Text.digitsValue digits, t.drop n)
  else none

def readDate? (t : Text) : Option Date := do
  let (year, rest) ← takeDigits? 4 t
  let hyphens := charAt rest 0 == '-'
  let rest := if hyphens then rest.drop 1 else rest
  if charAt rest 0 == 'W' then
    let (week, rest) ← takeDigits? 2 (rest.drop 1)
    if rest.isEmpty then Date.ofWeek? year week 1
    else
      if hyphens && charAt rest 0 != '-' then none
      else
        let (day, _) ← takeDigits? 1 (if hyphens then rest.drop 1 else rest)
        Date.ofWeek? year week day
  else
    let (month, rest) ← takeDigits? 2 rest
    if hyphens && charAt rest 0 != '-' then none
    else
      let (day, _) ← takeDigits? 2 (if hyphens then rest.drop 1 else rest)
      Date.ofCivil? year month day

/-- How many characters belong to the date. The forms differ in their fifth and sixth characters;
a week date without hyphens ends with its day if an odd number of digits follows the week, as a
time has an even number. A hyphen behind a week and before two digits begins a time. -/
def dateLength? (t : Text) : Option Nat :=
  let size := t.length
  if size < 7 then none
  else if size = 7 then some 7
  else if charAt t 4 == '-' then
    if charAt t 5 == 'W' then
      if charAt t 8 == '-' then
        if size = 9 then none
        else if (charAt t 10).isDigit then some 8 else some 10
      else some 8
    else some 10
  else if charAt t 4 == 'W' then
    let stop := 7 + ((t.drop 7).takeWhile Char.isDigit).length
    if stop < 9 then some stop else if stop % 2 = 0 then some 7 else some 8
  else some 8

structure Clock where
  hour : Nat := 0
  minute : Nat := 0
  second : Nat := 0
  micro : Nat := 0

def isOver (t : Text) : Bool := t.head?.all (· == '\x00')

/-- Reads a fraction of a second: six digits count, further ones are passed over. The second result
says whether the text was over then. -/
def readFraction? (clock : Clock) (t : Text) : Option (Clock × Bool) := do
  let size := min t.length 6
  let (value, rest) ← takeDigits? size t
  pure ({ clock with micro := value * Nat.pow 10 (6 - size) }, isOver (rest.dropWhile Char.isDigit))

inductive ClockStep where
  | finished (complete : Bool)
  | component (rest : Text)
  | fraction (rest : Text)
  | malformed

/-- Decides how a clock goes on. A single ASCII character that is left ends it, incompletely unless
it is a NUL. -/
def clockStep (colons : Bool) (t : Text) : ClockStep :=
  match t with
  | [] => .finished true
  | c :: rest =>
    if rest.isEmpty && c.toNat < 0x80 then .finished (isOver t)
    else if colons && c == ':' then .component rest
    else if c == '.' || c == ',' then .fraction rest
    else if !colons then .component t
    else .malformed

/-- Reads a text as a clock. The second result says whether the text was well finished: an
unfinished time is only allowed in front of an offset. Whatever follows the seconds is their
fraction. -/
def readClock? (t : Text) : Option (Clock × Bool) := do
  let (hour, rest) ← takeDigits? 2 t
  let colons := charAt rest 0 == ':'
  let clock : Clock := { hour }
  match clockStep colons rest with
  | .malformed => none
  | .finished complete => pure (clock, complete)
  | .fraction rest => readFraction? clock rest
  | .component rest =>
    let (minute, rest) ← takeDigits? 2 rest
    let clock := { clock with minute }
    match clockStep colons rest with
    | .malformed => none
    | .finished complete => pure (clock, complete)
    | .fraction rest => readFraction? clock rest
    | .component rest =>
      let (second, rest) ← takeDigits? 2 rest
      let clock := { clock with second }
      match clockStep colons rest with
      | .malformed => none
      | .finished complete => pure (clock, complete)
      | .fraction rest | .component rest => readFraction? clock rest

/-- The offset of a clock with a sign. It must be less than a day; microseconds alone do not make
an offset. -/
def offsetOf? (negative : Bool) (clock : Clock) : Option Int :=
  let seconds := (clock.hour * 60 + clock.minute) * 60 + clock.second
  if seconds = 0 then some 0
  else
    let micros := seconds * 1000000 + clock.micro
    if micros < microsPerDay then some (Binary64.signed negative micros) else none

def ofClock? (date : Date) (clock : Clock) (offset : Option Int) : Option Moment :=
  if clock.hour < 24 && clock.minute < 60 && clock.second < 60 then
    some ⟨date, clock.hour, clock.minute, clock.second, clock.micro, offset⟩
  else none

def isOffsetSign (c : Char) : Bool := c == '+' || c == '-' || c == 'Z'

def readOffset? (sign : Char) (t : Text) : Option Int := do
  if sign == 'Z' then if isOver t then some 0 else none
  else
    let (ahead, complete) ← readClock? t
    if complete then offsetOf? (sign == '-') ahead else none

def readTime? (date : Date) (t : Text) : Option Moment := do
  let (clock, complete) ← readClock? (t.takeWhile fun c => !isOffsetSign c)
  match t.dropWhile fun c => !isOffsetSign c with
  | [] => if complete then ofClock? date clock none else none
  | sign :: rest => ofClock? date clock (some (← readOffset? sign rest))

def read? (t : Text) : Option Moment := do
  let size ← dateLength? t
  let date ← readDate? (t.take size)
  match t.drop size with
  | [] => pure (ofDate date)
  | _ :: rest => readTime? date rest

end Concordance.Moment
