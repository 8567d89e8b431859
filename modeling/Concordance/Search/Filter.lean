import Concordance.Calendar.Reading
import Concordance.Document
import Concordance.Search.Credit

/-! Metadata filters: conditions on a field of a record. A record without the field, or with nothing
in it, satisfies none. -/
namespace Concordance

inductive FilterKind where
  | category | number | boolean | text | date
deriving DecidableEq, Inhabited, Repr

namespace FilterKind

def name : FilterKind → Text
  | category => "category".toList
  | number => "number".toList
  | boolean => "boolean".toList
  | text => "text".toList
  | date => "date".toList

def all : List FilterKind := [category, number, boolean, text, date]

def ofName? (t : Text) : Option FilterKind := all.find? fun kind => kind.name == t

end FilterKind

structure MetadataFilter where
  kind : FilterKind
  value : Value
deriving Inhabited

namespace Value

def toNumber? : Value → Except Failure (Option Binary64)
  | bool b => .ok (some (.ofNat (if b then 1 else 0)))
  | int n => do
    let x ← Binary64.ofInt? n
    pure (some x)
  | real x => .ok (if x.isNaN then none else some x)
  | text t => .ok ((Binary64.read? t).filter (!·.isNaN))
  | _ => .ok none

def spellOffset (t : Text) : Text := t.flatMap fun c => if c = 'Z' then "+00:00".toList else [c]

def toMoment? : Value → Option Moment
  | moment m => some m
  | date d => some (.ofDate d)
  | text t => Moment.read? (spellOffset (Text.trim t))
  | _ => none

def range (value : Value) : Value × Value :=
  let stop (name : String) : Value := (value.fields?.bind (Fields.get? · name.toList)).getD null
  (stop "min", stop "max")

end Value

namespace MetadataFilter

def inCategory (actual expected : Value) : Bool :=
  match expected with
  | .list items | .set items => items.any fun item => item.display == actual.display
  | value => actual.display == value.display

/-- Whether a number is not on the wrong side of an end of a range, if there is that end. -/
def withinEnd (wrong : Binary64 → Bool) (stop : Value) : Except Failure Bool :=
  if stop.isNull then .ok true
  else do
    match ← stop.toNumber? with
    | none => pure false
    | some x => pure (!wrong x)

def inNumberRange (actual expected : Value) : Except Failure Bool := do
  match ← actual.toNumber? with
  | none => pure false
  | some x =>
    let (low, high) := expected.range
    if ← withinEnd (fun l => Binary64.lt x l) low then withinEnd (fun h => Binary64.lt h x) high
    else pure false

def hasTruth (actual expected : Value) : Bool :=
  let wanted := match expected with
    | .bool b => b
    | .text t => Text.lower t == "true".toList
    | _ => false
  actual.isTruthy == wanted

def containsText (actual expected : Value) : Bool :=
  Text.occursIn (Text.lower expected.display) (Text.lower actual.display)

def withinTime (wrong : Int → Bool) (stop : Value) : Bool :=
  !stop.isTruthy || stop.toMoment?.any fun m => !wrong m.instant

def inDateRange (actual expected : Value) : Bool :=
  match actual.toMoment? with
  | none => false
  | some m =>
    let (low, high) := expected.range
    withinTime (m.instant < ·) low && withinTime (· < m.instant) high

def accepts (filter : MetadataFilter) (actual : Value) : Except Failure Bool :=
  match filter.kind with
  | .category => .ok (inCategory actual filter.value)
  | .number => inNumberRange actual filter.value
  | .boolean => .ok (hasTruth actual filter.value)
  | .text => .ok (containsText actual filter.value)
  | .date => .ok (inDateRange actual filter.value)

def isMissing : Value → Bool
  | .null => true
  | .text t => t.isEmpty
  | _ => false

def acceptsPresent (filter : MetadataFilter) (actual : Value) : Except Failure Bool :=
  if isMissing actual then .ok false else filter.accepts actual

def matchesField (record : Value) (name : Text) (filter : MetadataFilter) : Except Failure Bool :=
  filter.acceptsPresent (record.field name)

/-- Whether a record satisfies all filters. They are tried in order up to the first that fails. -/
def matchesAll (record : Value) : List (Text × MetadataFilter) → Except Failure Bool
  | [] => .ok true
  | (name, filter) :: rest => do
    if ← matchesField record name filter then matchesAll record rest else pure false

def matchesEntries (record : Value) : List (Value × MetadataFilter) → Except Failure Bool
  | [] => .ok true
  | (key, filter) :: rest => do
    let actual ← record.valueUnder key
    if ← filter.acceptsPresent actual then matchesEntries record rest else pure false

end MetadataFilter
end Concordance
