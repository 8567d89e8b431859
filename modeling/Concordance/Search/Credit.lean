import Concordance.Failure
import Concordance.Number.Binary64
import Concordance.Value.Basic

/-! The arithmetic of scores. Scores are sums and products that are rounded to an integer at the
end; what numbers they are computed in is left open. Searching computes in binary floating point,
where an integer may be too large and a sum infinite. -/
namespace Concordance

class Credit (α : Type) where
  none : α
  ofNat : Nat → Except Failure α
  ofFraction : Binary64 → α
  add : α → α → α
  mul : α → α → α
  exceeds : α → α → Bool
  round : α → Except Failure Int

namespace Binary64

def inRange : Binary64 → Except Failure Binary64
  | infinite _ => .error .integerTooLarge
  | x => .ok x

def ofInt? (n : Int) : Except Failure Binary64 := inRange (ofInt n)

def floor : Binary64 → Except Failure Int
  | nan => .error .nanToInteger
  | infinite _ => .error .infiniteToInteger
  | finite s q => .ok ((signed s q).fdiv unit)

/-- The nearest integer, a half being rounded up: half is added, with the rounding that any sum
has, and the floor taken. -/
def roundHalfUp (x : Binary64) : Except Failure Int := (x + half).floor

instance : Credit Binary64 where
  none := .zero
  ofNat n := ofInt? n
  ofFraction x := x
  add := Binary64.add
  mul := Binary64.mul
  exceeds x y := Binary64.lt y x
  round := roundHalfUp

end Binary64

namespace Value

def Quantity.toReal : Quantity → Except Failure Binary64
  | whole n => Binary64.ofInt? n
  | real x => .ok x

/-- A number rounded to the nearest integer, a half up. To other values no half can be added. -/
def roundHalfUp (value : Value) : Except Failure Int :=
  match value, value.quantity? with
  | _, some q => do (← q.toReal).roundHalfUp
  | .text _, _ | .list _, _ => .error (.notJoinable value.typeName "float".toList)
  | _, _ => .error (.unsupported ['+'] value.fullTypeName "float".toList)

end Value
end Concordance
