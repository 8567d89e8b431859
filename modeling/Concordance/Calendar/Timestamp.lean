import Concordance.Value.Basic

/-! Timestamps: seconds since 1970 in universal time as a moment of the calendar. Fractions are
rounded to microseconds, a half to the even one. -/
namespace Concordance

inductive TimestampError where
  | notANumber
  | outOfRange
  | unnamedYear
  | year (n : Int)
deriving DecidableEq, Repr

def TimestampError.message : TimestampError → Text
  | notANumber => "Invalid value NaN (not a number)".toList
  | outOfRange => "timestamp out of range for platform time_t".toList
  | unnamedYear => "[Errno 75] Value too large for defined data type".toList
  | year n => "year ".toList ++ Text.ofInt n ++ " is out of range".toList

namespace Moment

def splitSeconds (negative : Bool) (quanta : Nat) : Int × Int :=
  let fraction := Binary64.finite false (quanta % Binary64.unit) * .ofNat 1000000
  let micros := match fraction with
    | .finite _ q => Binary64.roundHalfEven q Binary64.unit
    | _ => 0
  let total := Binary64.signed negative (quanta / Binary64.unit * 1000000 + micros)
  (total.fdiv 1000000, total.fmod 1000000)

def yearOf (seconds : Int) : Int :=
  let day := seconds.fdiv 86400 + epochDay - 1
  (Date.ofOrdinal (day.fmod 146097 + 1).toNat).year + 400 * day.fdiv 146097

def ofSeconds (seconds : Int) (micro : Nat) : Except TimestampError Moment :=
  if seconds < -0x8000000000000000 || 0x8000000000000000 ≤ seconds then .error .outOfRange
  else if firstSecond ≤ seconds && seconds ≤ lastSecond then .ok (ofEpoch seconds micro)
  else
    let year := yearOf seconds
    if year - 1900 < -0x80000000 || 0x80000000 ≤ year - 1900 then .error .unnamedYear
    else .error (.year year)

def ofTimestamp : Value.Quantity → Except TimestampError Moment
  | .whole n => ofSeconds n 0
  | .real .nan => .error .notANumber
  | .real (.infinite _) => .error .outOfRange
  | .real (.finite negative quanta) =>
    let (seconds, micro) := splitSeconds negative quanta
    ofSeconds seconds micro.toNat

end Moment
end Concordance
