import Concordance.Failure
import Concordance.Value.Basic

/-! What keeps a value from being written into a key. The value is taken apart into plain data
first: an object that has a writer of its own is left to that, and one that lists fields, as those of
record types do, is asked of what kind each of them is and becomes a map. What is left is written
out, but no integer of too many digits. -/
namespace Concordance.Value

def digitLimit : Nat := 4300

mutual

/-- What a value holds, with the keys of maps or without: all that is no collection itself, and each
set behind its members. -/
def parts (keys : Bool) : Value → List Value
  | list items => partsOfAll keys items
  | set members => partsOfAll keys members ++ [set members]
  | map entries => partsUnder keys entries
  | table entries => partsOfPairs keys entries
  | value => [value]

def partsOfAll (keys : Bool) : List Value → List Value
  | [] => []
  | value :: rest => parts keys value ++ partsOfAll keys rest

def partsUnder (keys : Bool) : List (Text × Value) → List Value
  | [] => []
  | (_, value) :: rest => parts keys value ++ partsUnder keys rest

def partsOfPairs (keys : Bool) : List (Value × Value) → List Value
  | [] => []
  | (key, value) :: rest =>
    (if keys then parts keys key else []) ++ parts keys value ++ partsOfPairs keys rest

end

def attribute? (name : Text) : Value → Option Value
  | note _ _ attributes => Fields.get? attributes name
  | _ => none

def writer? (value : Value) : Option Value := value.attribute? "__pydantic_serializer__".toList

def listed? (value : Value) : Option Value := value.attribute? "__dataclass_fields__".toList

def writerObstacle? (value : Value) : Option Failure :=
  value.writer?.map fun writer => .notConvertible writer.fullTypeName "SchemaSerializer".toList

/-- Why an object that lists fields cannot be taken apart: one of them does not say what it is. -/
def listingObstacle? (value : Value) : Option Failure :=
  value.listed?.bind fun listed =>
    match listed.entries? with
    | none => some (.notConvertible listed.fullTypeName "PyDict".toList)
    | some entries =>
      let kind := "_field_type".toList
      (entries.find? fun (_, field) => (field.attribute? kind).isNone).map fun (_, field) =>
        .missingAttribute field.fullTypeName kind

def partObstacle? : Value → Option Failure
  -- an object that has become a map cannot be put back into its set
  | set members => if members.any (·.listed?.isSome) then some (.unhashable "dict".toList) else none
  | value => (writerObstacle? value).or (listingObstacle? value)

def isOverlong : Value → Bool
  | int n => Nat.pow 10 digitLimit ≤ n.natAbs
  | _ => false

/-- Why a value cannot be written into a key. A set is gone through in any order, so of several
obstacles in it any may be met first. -/
def obstacle? (value : Value) : Option Failure :=
  ((value.parts false).findSome? partObstacle?).or
    (if (value.parts true).any isOverlong then some .integerTooLong else none)

end Concordance.Value
