import Concordance.Number.Shortest
import Concordance.Text.Basic

/-! Decimals of a given precision. The exact value is rounded once, a half to the even digit.
`fixed` gives a count of places, `scientific` a count of places behind one leading digit, `general`
a count of significant digits in the shorter of the two forms. -/
namespace Concordance.Binary64

def padLeft (width : Nat) (digits : Text) : Text :=
  List.replicate (width - digits.length) '0' ++ digits

def withPoint (point : Bool) (places : Text) : Text :=
  if places.isEmpty && !point then [] else '.' :: places

def fixed (point : Bool) (places quanta : Nat) : Text :=
  let digits := padLeft (places + 1) (Text.ofNat (roundHalfEven (quanta * Nat.pow 10 places) unit))
  let whole := digits.length - places
  digits.take whole ++ withPoint point (digits.drop whole)

def significant (places quanta : Nat) : Text × Int :=
  if quanta = 0 then (List.replicate (places + 1) '0', 0)
  else
    let exponent := leadingExponent quanta
    let shift := places - exponent
    let digits := Text.ofNat
      (if 0 ≤ shift then roundHalfEven (quanta * Nat.pow 10 shift.toNat) unit
       else roundHalfEven quanta (unit * Nat.pow 10 (-shift).toNat))
    if digits.length ≤ places + 1 then (digits, exponent)
    else (digits.take (places + 1), exponent + 1)

def exponentText (exponent : Int) : Text :=
  'e' :: (if exponent < 0 then '-' else '+') :: padLeft 2 (Text.ofNat exponent.natAbs)

def scientific (point : Bool) (places quanta : Nat) : Text :=
  let (digits, exponent) := significant places quanta
  digits.take 1 ++ withPoint point (digits.drop 1) ++ exponentText exponent

def dropTrailingZeros (digits : Text) : Text := (digits.reverse.dropWhile (· == '0')).reverse

/-- A count of significant digits, of which trailing zeros are dropped unless the point is asked
for; an exponent is written below -4 and from the count of digits on. -/
def general (point : Bool) (precision quanta : Nat) : Text :=
  let count := max precision 1
  let (digits, exponent) := significant (count - 1) quanta
  let trim (places : Text) : Text := if point then places else dropTrailingZeros places
  if exponent < -4 || (count : Int) ≤ exponent then
    digits.take 1 ++ withPoint point (trim (digits.drop 1)) ++ exponentText exponent
  else if exponent < 0 then
    '0' :: withPoint point (trim (List.replicate (-exponent - 1).toNat '0' ++ digits))
  else
    let whole := (exponent + 1).toNat
    digits.take whole ++ withPoint point (trim (digits.drop whole))

end Concordance.Binary64
