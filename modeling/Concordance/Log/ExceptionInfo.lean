import Concordance.Raised
import Concordance.Value.Basic

/-! What a record knows of an exception: one that was raised, or any value in its place. Such a
value is taken for a type, an exception and a trace, which it cannot be: it can only be shown if it
has nothing in their places. -/
namespace Concordance

inductive ExceptionInfo where
  | raised (r : Raised)
  | value (v : Value)
deriving Inhabited

namespace ExceptionInfo

inductive Error where
  | noParts (typeName : Text)
  | textTooShort | listTooShort
  | missingKey (n : Nat)
  | missingAttribute (typeName wanted : Text)
deriving DecidableEq, Repr

def Error.message : Error → Text
  | noParts typeName => '\'' :: typeName ++ "' object is not subscriptable".toList
  | textTooShort => "string index out of range".toList
  | listTooShort => "list index out of range".toList
  | missingKey n => Text.ofNat n
  | missingAttribute typeName wanted =>
    '\'' :: typeName ++ "' object has no attribute '".toList ++ wanted ++ ['\'']

def part (value : Value) (n : Nat) : Except Error Value :=
  match value with
  | .text t => (t[n]?.map fun c => Value.text [c]).elim (.error .textTooShort) .ok
  | .list items => items[n]?.elim (.error .listTooShort) .ok
  | .map _ | .table _ => (value.under? (.int n)).elim (.error (.missingKey n)) .ok
  | _ => .error (.noParts value.fullTypeName)

def requireNull (wanted : String) (value : Value) : Except Error Unit :=
  if value.isNull then .ok ()
  else .error (.missingAttribute value.fullTypeName wanted.toList)

def text : ExceptionInfo → Except Error Text
  | raised r => .ok r.text
  | value v => do
    let trace ← part v 2
    discard (part v 0)
    let exception ← part v 1
    requireNull "tb_frame" trace
    requireNull "__suppress_context__" exception
    pure "NoneType: None".toList

end ExceptionInfo
end Concordance
