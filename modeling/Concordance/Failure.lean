import Concordance.Text.Quoted

/-! What can go wrong while values are used and documents are read, scored and filtered. -/
namespace Concordance

inductive Failure where
  | extraction (reason : Text)
  | unreadableText (typeName : Text)
  | unshowableText (typeName : Text)
  | nameNotText
  | keyNotText (typeName : Text)
  | notJoinable (sequence other : Text)
  | unsupported (operation left right : Text)
  | unordered (left right : Text)
  | integerRequired
  | notACollection (typeName : Text)
  | notARecord (typeName : Text)
  | notConvertible (typeName target : Text)
  | unhashable (typeName : Text)
  | missingAttribute (typeName name : Text)
  | integerTooLong
  | sizeTooLarge
  | integerTooLarge
  | infiniteToInteger
  | nanToInteger
  | quotientTooLarge
  | negativeWindow
  | unknownOperator (value : Text)
  | noSuchDocument
deriving DecidableEq, Inhabited, Repr

namespace Failure

def message : Failure → Text
  | extraction reason => reason
  | unreadableText typeName =>
    '\'' :: typeName ++ "' object has no attribute 'lower'".toList
  | unshowableText typeName =>
    "expected string or bytes-like object, got '".toList ++ typeName ++ ['\'']
  | nameNotText => "keywords must be strings".toList
  | keyNotText typeName => "attribute name must be string, not '".toList ++ typeName ++ ['\'']
  | notJoinable sequence other =>
    "can only concatenate ".toList ++ sequence ++ " (not \"".toList ++ other ++ "\") to ".toList ++
      sequence
  | unsupported operation left right =>
    "unsupported operand type(s) for ".toList ++ operation ++ ": '".toList ++ left ++
      "' and '".toList ++ right ++ ['\'']
  | unordered left right =>
    "'>' not supported between instances of '".toList ++ left ++ "' and '".toList ++ right ++ ['\'']
  | integerRequired => "an integer is required".toList
  | notACollection typeName => '\'' :: typeName ++ "' object is not iterable".toList
  | notARecord typeName => '\'' :: typeName ++ "' object has no attribute 'get'".toList
  | notConvertible typeName target =>
    '\'' :: typeName ++ "' object cannot be converted to '".toList ++ target ++ ['\'']
  | unhashable typeName => "unhashable type: '".toList ++ typeName ++ ['\'']
  | missingAttribute typeName name =>
    '\'' :: typeName ++ "' object has no attribute '".toList ++ name ++ ['\'']
  | integerTooLong =>
    ("Exceeds the limit (4300 digits) for integer string conversion; " ++
      "use sys.set_int_max_str_digits() to increase the limit").toList
  | sizeTooLarge => "Python int too large to convert to C ssize_t".toList
  | integerTooLarge => "int too large to convert to float".toList
  | infiniteToInteger => "cannot convert float infinity to integer".toList
  | nanToInteger => "cannot convert float NaN to integer".toList
  | quotientTooLarge => "integer division result too large for a float".toList
  | negativeWindow => "maxlen must be non-negative".toList
  | unknownOperator value => Text.quoted value ++ " is not a valid BooleanOperator".toList
  | noSuchDocument => "tuple index out of range".toList

end Failure
end Concordance
