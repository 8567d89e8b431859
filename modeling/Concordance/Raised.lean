import Concordance.Text.Quoted

/-! Exceptions as others see them: the name of their type and their message. -/
namespace Concordance

structure Raised where
  type : Text
  message : Text
deriving DecidableEq, Inhabited, Repr

namespace Raised

/-- An exception made of a text. A missing key is shown as a literal, all others as they are. -/
def ofText (type t : Text) : Raised :=
  { type, message := if type = "KeyError".toList then Text.quoted t else t }

def text (r : Raised) : Text :=
  if r.message.isEmpty then r.type else r.type ++ ':' :: ' ' :: r.message

end Raised
end Concordance
