/-! The 64-bit binary floating-point numbers. Every finite one is a whole multiple of the smallest
positive one, the quantum 2^-1074, so a finite number is a sign and a count of quanta, order is
the order of integers, and every operation is an exact rational rounded once by `nearest`. -/
namespace Concordance

inductive Binary64 where
  | nan
  | infinite (negative : Bool)
  | finite (negative : Bool) (quanta : Nat)
deriving DecidableEq, Inhabited, Repr

namespace Binary64

def unit : Nat := Nat.pow 2 1074

def bound : Nat := Nat.pow 2 2098

/-- The integer nearest to a quotient; of two equally near the even one. -/
def roundHalfEven (num den : Nat) : Nat :=
  let q := num / den
  let r := num % den
  if 2 * r < den then q else if den < 2 * r then q + 1 else q + q % 2

def spacing (quanta : Nat) : Nat := Nat.pow 2 (quanta.log2 - 52)

/-- The number nearest to a quotient of quanta; of two equally near the one with the even last
digit. What rounds to 2^1024 is infinite. -/
def nearest (negative : Bool) (num den : Nat) : Binary64 :=
  let step := spacing (num / den)
  let quanta := roundHalfEven num (den * step) * step
  if quanta < bound then finite negative quanta else infinite negative

protected def zero : Binary64 := finite false 0

def ofNat (n : Nat) : Binary64 := nearest false (n * unit) 1

def ofInt (n : Int) : Binary64 := nearest (n < 0) (n.natAbs * unit) 1

def ofRatio (num den : Nat) : Binary64 := nearest false (num * unit) den

def negate : Binary64 → Binary64
  | nan => nan
  | infinite s => infinite !s
  | finite s q => finite (!s) q

def signed (negative : Bool) (quanta : Nat) : Int := if negative then -(quanta : Int) else quanta

/-- The sum. A sum of zero is negative only if both terms are. -/
def add : Binary64 → Binary64 → Binary64
  | nan, _ => nan
  | _, nan => nan
  | infinite s, infinite t => if s = t then infinite s else nan
  | infinite s, finite .. => infinite s
  | finite .., infinite t => infinite t
  | finite s q, finite t r =>
    let total := signed s q + signed t r
    if total = 0 then finite (s && t) 0 else nearest (total < 0) total.natAbs 1

def mul : Binary64 → Binary64 → Binary64
  | nan, _ => nan
  | _, nan => nan
  | infinite s, infinite t => infinite (s != t)
  | infinite s, finite t r => if r = 0 then nan else infinite (s != t)
  | finite s q, infinite t => if q = 0 then nan else infinite (s != t)
  | finite s q, finite t r => nearest (s != t) (q * r) unit

def div : Binary64 → Binary64 → Binary64
  | nan, _ => nan
  | _, nan => nan
  | infinite _, infinite _ => nan
  | infinite s, finite t _ => infinite (s != t)
  | finite s _, infinite t => finite (s != t) 0
  | finite s q, finite t r =>
    if r = 0 then (if q = 0 then nan else infinite (s != t)) else nearest (s != t) (q * unit) r

instance : Add Binary64 := ⟨add⟩
instance : Mul Binary64 := ⟨mul⟩
instance : Div Binary64 := ⟨div⟩
instance : Neg Binary64 := ⟨negate⟩

def lt : Binary64 → Binary64 → Bool
  | nan, _ => false
  | _, nan => false
  | infinite s, infinite t => s && !t
  | infinite s, finite .. => s
  | finite .., infinite t => !t
  | finite s q, finite t r => signed s q < signed t r

def eq : Binary64 → Binary64 → Bool
  | nan, _ => false
  | _, nan => false
  | infinite s, infinite t => s == t
  | finite s q, finite t r => signed s q == signed t r
  | _, _ => false

def le (x y : Binary64) : Bool := lt x y || eq x y

def isNaN : Binary64 → Bool
  | nan => true
  | _ => false

def isFinite : Binary64 → Bool
  | finite .. => true
  | _ => false

def floor? : Binary64 → Option Int
  | finite s q => some ((signed s q).fdiv unit)
  | _ => none

def toInt? : Binary64 → Option Int
  | finite s q => if q % unit = 0 then some ((signed s q).fdiv unit) else none
  | _ => none

/-- The number nearest to `digits` times a power of ten. Exponents so great that the result is
infinite, or so small that it is zero, are settled by the count of digits alone. -/
def ofDecimal (negative : Bool) (digits : Nat) (exponent : Int) : Binary64 :=
  let size : Int := (Nat.toDigits 10 digits).length
  if digits = 0 || size + exponent < -400 then finite negative 0
  else if 400 < size + exponent then infinite negative
  else if 0 ≤ exponent then nearest negative (digits * Nat.pow 10 exponent.toNat * unit) 1
  else nearest negative (digits * unit) (Nat.pow 10 (-exponent).toNat)

def half : Binary64 := finite false (Nat.pow 2 1073)

theorem lt_irrefl (x : Binary64) : lt x x = false := by
  cases x <;> simp [lt]

theorem eq_comm (x y : Binary64) : eq x y = eq y x := by
  cases x <;> cases y <;> simp [eq, Bool.beq_comm]

end Binary64
end Concordance
