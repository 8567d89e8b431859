import Concordance.Failure
import Concordance.Validation

/-! What a search answers. -/
namespace Concordance

inductive SearchType where
  | fast | boolean
deriving DecidableEq, Inhabited, Repr

def SearchType.name : SearchType → Text
  | fast => "fast".toList
  | boolean => "boolean".toList

structure Match where
  docId : Nat
  score : Int
  rank : Nat
  matchCount : Nat
  searchType : SearchType
  highlighted : Text
deriving DecidableEq, Inhabited, Repr

inductive SearchError where
  | invalidOptions (issues : List Issue)
  | notReady
  | failed (f : Failure)
deriving DecidableEq, Repr

def SearchError.message : SearchError → Text
  | invalidOptions _ => "ValidationError".toList
  | notReady => "Index not ready".toList
  | failed f => f.message

structure SearchResponse where
  query : Text
  results : List Match := []
  total : Nat := 0
  cached : Bool := false
  error : Option SearchError := none
  searchType : Option SearchType := none
deriving DecidableEq, Repr

end Concordance
