import Concordance.Value.Basic

/-! Components: the parts of numbers and dates that have names. A number is seen as a complex one
and, if it is an integer, as a fraction. -/
namespace Concordance

namespace Date

def first : Date := ⟨1, 1, 1⟩
def last : Date := ⟨9999, 12, 31⟩

def numbers (d : Date) : List (Text × Nat) :=
  [("year".toList, d.year), ("month".toList, d.month), ("day".toList, d.day)]

end Date

namespace Moment

def numbers (m : Moment) : List (Text × Nat) :=
  m.date.numbers ++
    [("hour".toList, m.hour), ("minute".toList, m.minute), ("second".toList, m.second),
     ("microsecond".toList, m.micro), ("fold".toList, 0)]

def zoneText (offset : Int) : Text :=
  "UTC".toList ++ if offset = 0 then [] else offsetText offset

def first : Moment := ofDate .first
def last : Moment := ⟨.last, 23, 59, 59, 999999, none⟩

end Moment

namespace Value

def ofNumbers (numbers : List (Text × Nat)) : Fields :=
  numbers.map fun (name, n) => (name, int n)

def components : Value → Fields
  | bool b => integerParts (if b then 1 else 0)
  | int n => integerParts n
  | real x => [("real".toList, real x), ("imag".toList, real .zero)]
  | date d => ofNumbers d.numbers ++
      [("min".toList, date .first), ("max".toList, date .last),
       ("resolution".toList, foreign "1 day, 0:00:00".toList)]
  | moment m => ofNumbers m.numbers ++
      [("min".toList, moment .first), ("max".toList, moment .last),
       ("resolution".toList, foreign "0:00:00.000001".toList),
       ("tzinfo".toList, (m.offset.map fun offset => foreign (Moment.zoneText offset)).getD null)]
  | _ => []
where
  integerParts (n : Int) : Fields :=
    [("real".toList, int n), ("imag".toList, int 0),
     ("numerator".toList, int n), ("denominator".toList, int 1)]

def component? (value : Value) (name : Text) : Option Value := value.components.get? name

end Value
end Concordance
