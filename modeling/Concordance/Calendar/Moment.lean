import Concordance.Calendar.Date

/-! Moments: a date with a time of day in microseconds and, if known, the offset from universal
time. Moments are compared by their microsecond in universal time; one without an offset is taken
to be in universal time. -/
namespace Concordance

structure Moment where
  date : Date
  hour : Nat
  minute : Nat
  second : Nat
  micro : Nat
  offset : Option Int
deriving DecidableEq, Inhabited, Repr

namespace Moment

def microsPerDay : Nat := 86400000000

def timeOfDay (m : Moment) : Nat :=
  ((m.hour * 60 + m.minute) * 60 + m.second) * 1000000 + m.micro

def instant (m : Moment) : Int :=
  (m.date.ordinal * microsPerDay + m.timeOfDay : Nat) - m.offset.getD 0

def ofDate (d : Date) : Moment := ⟨d, 0, 0, 0, 0, none⟩

def epochDay : Nat := 719163

/-- The first second of the year 1, counted from 1970. -/
def firstSecond : Int := -62135596800
def lastSecond : Int := 253402300799

def ofEpoch (seconds : Int) (micro : Nat) : Moment :=
  let day := (epochDay + seconds.fdiv 86400).toNat
  let time := (seconds.fmod 86400).toNat
  ⟨Date.ofOrdinal day, time / 3600, time / 60 % 60, time % 60, micro, some 0⟩

def offsetText (offset : Int) : Text :=
  let size := offset.natAbs
  let seconds := size / 1000000
  let micro := size % 1000000
  (if offset < 0 then '-' else '+') ::
    (Date.padded 2 (seconds / 3600) ++ ':' :: Date.padded 2 (seconds / 60 % 60) ++
      (if seconds % 60 = 0 && micro = 0 then []
       else ':' :: (Date.padded 2 (seconds % 60) ++
        (if micro = 0 then [] else '.' :: Date.padded 6 micro))))

def timeText (m : Moment) : Text :=
  Date.padded 2 m.hour ++ ':' :: Date.padded 2 m.minute ++ ':' :: Date.padded 2 m.second ++
    (if m.micro = 0 then [] else '.' :: Date.padded 6 m.micro)

def text (separator : Char) (m : Moment) : Text :=
  m.date.text ++ separator :: m.timeText ++ (m.offset.map offsetText).getD []

end Moment
end Concordance
