import Concordance.Number.Shortest
import Concordance.Text.Basic

/-! Written forms of floating-point numbers. All write the shortest decimal; a `Layout` says
which exponents are written positionally and how the others are shown. -/
namespace Concordance

structure NumberLayout where
  least : Int
  greatest : Int
  exponentDigits : Nat

namespace NumberLayout

def literal : NumberLayout := ⟨-4, 15, 2⟩

def json : NumberLayout := ⟨-5, 15, 1⟩

def zeros (n : Nat) : Text := List.replicate n '0'

def writeExponent (layout : NumberLayout) (exponent : Int) : Text :=
  let digits := Text.ofNat exponent.natAbs
  'e' :: (if exponent < 0 then '-' else '+') ::
    (zeros (layout.exponentDigits - digits.length) ++ digits)

/-- A positive decimal: positional with at least one place, or with an exponent behind one
leading digit. -/
def write (layout : NumberLayout) (d : Binary64.Decimal) : Text :=
  let digits := Text.ofNat d.digits
  let leading : Int := d.exponent + digits.length - 1
  if leading < layout.least || layout.greatest < leading then
    let mantissa := match digits with
      | first :: second :: rest => first :: '.' :: second :: rest
      | one => one
    mantissa ++ layout.writeExponent leading
  else if leading < 0 then
    '0' :: '.' :: (zeros (-leading - 1).toNat ++ digits)
  else
    let whole := digits.take (leading + 1).toNat
    let places := digits.drop (leading + 1).toNat
    whole ++ zeros ((leading + 1).toNat - digits.length) ++
      '.' :: (if places.isEmpty then ['0'] else places)

def writeFinite (layout : NumberLayout) (negative : Bool) (quanta : Nat) : Text :=
  let body := if quanta = 0 then ['0', '.', '0'] else layout.write (Binary64.shortest quanta)
  if negative then '-' :: body else body

end NumberLayout

def Binary64.text : Binary64 → Text
  | .nan => "nan".toList
  | .infinite negative => if negative then "-inf".toList else "inf".toList
  | .finite negative quanta => NumberLayout.literal.writeFinite negative quanta

end Concordance
