import Concordance.Log.Level
import Concordance.Number.Rounded
import Concordance.Number.Text

/-! What is reported while a collection is indexed and searched. -/
namespace Concordance

structure LogEvent where
  logger : Text
  level : Int
  message : Text
  hasException : Bool := false
deriving DecidableEq, Inhabited, Repr

namespace LogEvent

def milliseconds (places : Nat) (elapsed : Binary64) : Text :=
  let number := match elapsed with
    | .finite negative quanta =>
      (if negative then ['-'] else []) ++ Binary64.fixed false places quanta
    | other => other.text
  number ++ ['m', 's']

def indexLogger : Text := "fast_search.search.index".toList
def retrieverLogger : Text := "fast_search.search.retriever".toList
def booleanLogger : Text := "fast_search.search.boolean".toList
def engineLogger : Text := "fast_search.engine".toList

end LogEvent
end Concordance
