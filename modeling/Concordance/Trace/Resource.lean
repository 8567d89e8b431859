import Concordance.Failure
import Concordance.Trace.Attribute

/-! Resources: the attributes by which the telemetry of a service is told from that of others. -/
namespace Concordance.Resource

def nameKey : Text := "service.name".toList
def executableKey : Text := "process.executable.name".toList

def typeName : Value → Text
  | .list _ => "tuple".toList
  | value => value.fullTypeName

def unknownName (attributes : Fields) : Except Failure Text :=
  let word := "unknown_service".toList
  match attributes.get? executableKey with
  | none => .ok word
  | some (.text name) => .ok (if name.isEmpty then word else word ++ ':' :: name)
  | some value =>
    if value.isTruthy then .error (.notJoinable "str".toList (typeName value)) else .ok word

def ofService (service : Value) (attributes : Fields) : Except Failure Fields := do
  let given := Fields.putAll [(nameKey, service)] attributes
  let cleaned : Fields :=
    given.foldl (fun cleaned (name, value) => Attribute.put cleaned name value) []
  if (cleaned.get? nameKey).any Value.isTruthy then pure cleaned
  else pure (cleaned.put nameKey (.text (← unknownName cleaned)))

end Concordance.Resource
