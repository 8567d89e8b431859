import Concordance.Failure
import Concordance.Settings
import Concordance.Value.Component
import Concordance.Value.Literal

/-! Documents and their text. A document is a record, whose text is put together from its text
fields, or a note, which gives its text itself and may fail to. -/
namespace Concordance

inductive Document where
  | record (fields : Fields)
  | table (entries : List (Value × Value))
  | note (text : Value) (failure : Option Text) (attributes : Fields)
deriving Inhabited

structure FieldPlan where
  primary : Text
  secondary : List Text
  known : List Text
  maxExtraLength : Nat
deriving Inhabited

def Settings.fieldPlan (s : Settings) : FieldPlan :=
  { primary := s.primaryField, secondary := s.secondaryFields, known := s.knownFields,
    maxExtraLength := s.maxExtraFieldLength }

namespace FieldPlan

def primaryParts (plan : FieldPlan) (fields : Fields) : List Text :=
  match fields.get? plan.primary with
  | some (.text t) => [t]
  | _ => []

def secondaryParts (plan : FieldPlan) (fields : Fields) : List Text :=
  plan.secondary.filterMap fun name =>
    match fields.get? name with
    | some (.text t) => if t.isEmpty then none else some t
    | _ => none

def extraText? (plan : FieldPlan) : Value → Option Text
  | .text t => if 0 < t.length && t.length < plan.maxExtraLength then some t else none
  | _ => none

def extraParts (plan : FieldPlan) (fields : Fields) : List Text :=
  fields.filterMap fun (name, value) =>
    if plan.known.contains name then none else plan.extraText? value

def extraPartsOfTable (plan : FieldPlan) (entries : List (Value × Value)) : List Text :=
  entries.filterMap fun (key, value) =>
    match key with
    | .text name => if plan.known.contains name then none else plan.extraText? value
    | _ => plan.extraText? value

def join (plan : FieldPlan) (fields : Fields) (extra : List Text) : Text :=
  Text.trim (Text.join [' '] (plan.primaryParts fields ++ plan.secondaryParts fields ++ extra))

def searchableText (plan : FieldPlan) (fields : Fields) : Text :=
  plan.join fields (plan.extraParts fields)

def searchableTextOfTable (plan : FieldPlan) (entries : List (Value × Value)) : Text :=
  plan.join ((Value.table entries).fields?.getD []) (plan.extraPartsOfTable entries)

end FieldPlan

namespace Document

def ofValue? : Value → Option Document
  | .map fields => some (.record fields)
  | .table entries => some (.table entries)
  | .note text failure attributes => some (.note text failure attributes)
  | _ => none

/-- What a document gives as its text: any value, or the reason of its failure. -/
def given (plan : FieldPlan) : Document → Except Text Value
  | record fields => .ok (.text (plan.searchableText fields))
  | table entries => .ok (.text (plan.searchableTextOfTable entries))
  | note _ (some reason) _ => .error reason
  | note text none _ => .ok text

def isNote : Document → Bool
  | record _ | table _ => false
  | note .. => true

def ofEntries (entries : List (Value × Value)) : Document :=
  match Value.mapOf entries with
  | .map fields => .record fields
  | _ => .table entries

def edit (removed : List Value) (put entries : List (Value × Value)) : Document :=
  let kept := entries.filter fun (key, _) => !removed.any key.sameMember
  ofEntries (put.foldl (fun entries (key, value) => Value.putEntry key value entries) kept)

def entries? : Document → Option (List (Value × Value))
  | record fields => (Value.map fields).entries?
  | table entries => some entries
  | note .. => none

def change (removed : List Value) (put : List (Value × Value)) (d : Document) : Document :=
  (d.entries?.map (edit removed put)).getD d

def speak (text : Value) : Document → Document
  | note _ _ attributes => .note text none attributes
  | d => d

def silence (reason : Text) : Document → Document
  | note text _ attributes => .note text (some reason) attributes
  | d => d

def setAttributes (more : Fields) : Document → Document
  | note text failure attributes => .note text failure (attributes.putAll more)
  | d => d

def literal : Document → Text
  | record fields => "MappingDocument(".toList ++ (Value.map fields).literal ++ [')']
  | table entries => "MappingDocument(".toList ++ (Value.table entries).literal ++ [')']
  | note .. => "<Note>".toList

end Document

namespace Value

/-- The fields found in a record's own fields, or else in those under `metadata` or `data`. -/
def nestedField? (fields : Fields) (name : Text) : Option Value :=
  match fields.get? name with
  | some value => some value
  | none =>
    ["metadata".toList, "data".toList].findSome? fun key =>
      ((fields.get? key).bind fields?).bind (Fields.get? · name)

def field (record : Value) (name : Text) : Value :=
  match record with
  | .note _ _ attributes => (Fields.get? attributes name).getD .null
  | value =>
    match value.fields? with
    | some fields => (nestedField? fields name).getD .null
    | none => (value.component? name).getD .null

def valueUnder (record : Value) : Value → Except Failure Value
  | .text name => .ok (record.field name)
  | key =>
    if record.entries?.isNone then .error (.keyNotText key.fullTypeName)
    else
      let inner := ["metadata", "data"].filterMap fun name => record.under? (.text name.toList)
      .ok (((record :: inner).findSome? (·.under? key)).getD .null)

end Value

def FieldPlan.textOfRecord (plan : FieldPlan) : Value → Except Failure Text
  | .map fields => .ok (plan.searchableText fields)
  | .table entries => .ok (plan.searchableTextOfTable entries)
  | value => .error (.notARecord value.fullTypeName)

def Document.toValue : Document → Value
  | .record fields => .map fields
  | .table entries => .table entries
  | .note text failure attributes => .note text failure attributes

end Concordance
