import Concordance.Text.Basic

/-! Days of the proleptic Gregorian calendar, years 1 to 9999. A date is ranked by its day number,
1 for the first of January of the year 1. -/
namespace Concordance

structure Date where
  year : Nat
  month : Nat
  day : Nat
deriving DecidableEq, Inhabited, Repr

namespace Date

def isLeap (year : Nat) : Bool := year % 4 == 0 && (year % 100 != 0 || year % 400 == 0)

def daysInMonth (year month : Nat) : Nat :=
  if month = 2 then (if isLeap year then 29 else 28)
  else if month = 4 || month = 6 || month = 9 || month = 11 then 30
  else 31

def daysBeforeYear (year : Nat) : Nat :=
  let y := year - 1
  y * 365 + y / 4 - y / 100 + y / 400

def daysBeforeMonth (year month : Nat) : Nat :=
  ((List.range (month - 1)).map fun m => daysInMonth year (m + 1)).foldr (· + ·) 0

def ofCivil? (year month day : Nat) : Option Date :=
  if 1 ≤ year && year ≤ 9999 && 1 ≤ month && month ≤ 12 &&
      1 ≤ day && day ≤ daysInMonth year month
  then some ⟨year, month, day⟩ else none

def ordinal (d : Date) : Nat := daysBeforeYear d.year + daysBeforeMonth d.year d.month + d.day

def monthAndDay (year n month : Nat) : Nat → Nat × Nat
  | 0 => (month, n + 1)
  | months + 1 =>
    if n < daysInMonth year month then (month, n + 1)
    else monthAndDay year (n - daysInMonth year month) (month + 1) months

/-- The date of a day number from 1 on, found by whole cycles of 400, 100, 4 years and one year.
The last day of a cycle belongs to the year it ends. -/
def ofOrdinal (n : Nat) : Date :=
  let rest := n - 1
  let cycles := rest / 146097
  let rest := rest % 146097
  let centuries := min (rest / 36524) 3
  let rest := rest - centuries * 36524
  let leaps := rest / 1461
  let rest := rest % 1461
  let years := min (rest / 365) 3
  let rest := rest - years * 365
  let year := cycles * 400 + centuries * 100 + leaps * 4 + years + 1
  let (month, day) := monthAndDay year rest 1 11
  ⟨year, month, day⟩

def weekday (d : Date) : Nat := (d.ordinal + 6) % 7

def hasLongWeekYear (year : Nat) : Bool :=
  let first := weekday ⟨year, 1, 1⟩
  first == 3 || (first == 2 && isLeap year)

/-- The date of a day, Monday being 1, in a week of a year. Week 1 holds the first Thursday. -/
def ofWeek? (year week day : Nat) : Option Date :=
  if 1 ≤ year && 1 ≤ week && (week ≤ 52 || (week = 53 && hasLongWeekYear year)) &&
      1 ≤ day && day ≤ 7 then
    let first := ordinal ⟨year, 1, 1⟩
    let startsLate := 3 < weekday ⟨year, 1, 1⟩
    let monday := first + (if startsLate then 7 else 0) - weekday ⟨year, 1, 1⟩
    let date := ofOrdinal (monday + (week - 1) * 7 + day - 1)
    if date.year ≤ 9999 && 1 ≤ monday + (week - 1) * 7 + day - 1 then some date else none
  else none

def padded (width n : Nat) : Text :=
  let digits := Text.ofNat n
  List.replicate (width - digits.length) '0' ++ digits

def text (d : Date) : Text :=
  padded 4 d.year ++ '-' :: padded 2 d.month ++ '-' :: padded 2 d.day

example : (ofCivil? 2024 2 29).map ordinal = some 738945 := by decide
example : ofOrdinal 738945 = ⟨2024, 2, 29⟩ := by decide
example : ofWeek? 2020 53 7 = some ⟨2021, 1, 3⟩ := by decide

end Date
end Concordance
