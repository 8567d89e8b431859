import Concordance.Failure
import Concordance.Value.Basic

/-! Values that have to be of some kind where they are used. -/
namespace Concordance.Value

/-- The named values of a value, which must all be named by texts; none of what is no map. -/
def requireFields : Value → Except Failure Fields
  | table _ => .error .nameNotText
  | value => .ok (value.fields?.getD [])

def requireMembers (value : Value) : Except Failure (List Value) :=
  value.members?.elim (.error (.notACollection value.fullTypeName)) .ok

end Concordance.Value
