import Concordance.Number.Binary64

/-! The shortest decimal of a floating-point number: the fewest digits that read back as the
number, and of those the nearest to it. The decimals that read back are those of the interval
halfway to both neighbours. -/
namespace Concordance.Binary64

structure Decimal where
  digits : Nat
  exponent : Int
deriving DecidableEq, Inhabited, Repr

def reachesPower (quanta : Nat) (exponent : Int) : Bool :=
  if 0 ≤ exponent then Nat.pow 10 exponent.toNat * unit ≤ quanta
  else unit ≤ quanta * Nat.pow 10 (-exponent).toNat

/-- The exponent of the leading decimal digit of a positive count of quanta. The binary exponent
gives it up to one. -/
def leadingExponent (quanta : Nat) : Int :=
  let guess := (((quanta.log2 : Int) - 1074) * 30103).fdiv 100000 - 1
  if reachesPower quanta (guess + 2) then guess + 2
  else if reachesPower quanta (guess + 1) then guess + 1
  else guess

def doubledQuotient (digits : Nat) (exponent : Int) : Nat × Nat :=
  if 0 ≤ exponent then (2 * digits * Nat.pow 10 exponent.toNat * unit, 1)
  else (2 * digits * unit, Nat.pow 10 (-exponent).toNat)

/-- Whether a decimal rounds to the given number of quanta. An end of the interval belongs to it
if the number's last binary digit is even. -/
def roundsTo (quanta digits : Nat) (exponent : Int) : Bool :=
  let step := spacing quanta
  let below := if quanta = Nat.pow 2 quanta.log2 && 1 < step then step / 2 else step
  let (num, den) := doubledQuotient digits exponent
  let low := (2 * quanta - below) * den
  let high := (2 * quanta + step) * den
  if quanta / step % 2 = 0 then low ≤ num && num ≤ high else low < num && num < high

/-- The decimal on a grid of powers of ten that rounds to the number, if there is one: the grid
point below it, or the one above, or the nearer of them. -/
def onGrid? (quanta : Nat) (exponent : Int) : Option Decimal :=
  let (num, den) :=
    if 0 ≤ exponent then (quanta, unit * Nat.pow 10 exponent.toNat)
    else (quanta * Nat.pow 10 (-exponent).toNat, unit)
  let down := num / den
  match roundsTo quanta down exponent, roundsTo quanta (down + 1) exponent with
  | true, true => some ⟨roundHalfEven num den, exponent⟩
  | true, false => some ⟨down, exponent⟩
  | false, true => some ⟨down + 1, exponent⟩
  | false, false => none

def search (quanta : Nat) (exponent : Int) : Nat → Decimal
  | 0 => ⟨quanta, 0⟩
  | grids + 1 => (onGrid? quanta exponent).getD (search quanta (exponent - 1) grids)

def Decimal.normalize (d : Decimal) : Nat → Decimal
  | 0 => d
  | fuel + 1 =>
    if d.digits % 10 = 0 then Decimal.normalize ⟨d.digits / 10, d.exponent + 1⟩ fuel else d

def shortest (quanta : Nat) : Decimal :=
  (search quanta (leadingExponent quanta) 17).normalize 17

end Concordance.Binary64
