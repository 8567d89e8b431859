import Concordance.Calendar.Moment
import Concordance.Number.Binary64
import Concordance.Text.Basic

/-! Data values: what records hold, filters compare, settings are read from and logs show. Maps
keep the order in which their keys were first put. -/
namespace Concordance

inductive Value where
  | null
  | bool (b : Bool)
  | int (n : Int)
  | real (x : Binary64)
  | text (t : Text)
  | list (items : List Value)
  | map (entries : List (Text × Value))
  | table (entries : List (Value × Value))
  | set (members : List Value)
  | date (d : Date)
  | moment (m : Moment)
  /-- A value of a type unknown here; only its text can be seen. -/
  | foreign (shown : Text)
  /-- A document of its own: the value it gives as its text, unless giving it fails, and its
  attributes. -/
  | note (text : Value) (failure : Option Text) (attributes : List (Text × Value))
deriving Inhabited, Repr

abbrev Fields := List (Text × Value)

namespace Fields

def get? (fields : Fields) (name : Text) : Option Value := fields.lookup name

def put (fields : Fields) (name : Text) (value : Value) : Fields :=
  match fields with
  | [] => [(name, value)]
  | (known, old) :: rest =>
    if known = name then (name, value) :: rest else (known, old) :: put rest name value

def putAll (fields more : Fields) : Fields :=
  more.foldl (fun fields (name, value) => fields.put name value) fields

def erase (fields : Fields) (name : Text) : Fields := fields.filter (·.1 != name)

def ofList (entries : List (Text × Value)) : Fields := putAll [] entries

theorem get?_put_self (fields : Fields) (name : Text) (value : Value) :
    (fields.put name value).get? name = some value := by
  induction fields with
  | nil => simp [put, get?]
  | cons entry rest ih =>
    obtain ⟨known, old⟩ := entry
    by_cases same : known = name
    · simp [put, get?, same]
    · have other : (name == known) = false := by simpa using fun h => same h.symm
      simpa [put, get?, same, List.lookup_cons, other] using ih

theorem get?_put_of_ne (fields : Fields) {name other : Text} (value : Value) (ne : other ≠ name) :
    (fields.put name value).get? other = fields.get? other := by
  have apart : (other == name) = false := by simpa using ne
  induction fields with
  | nil => simp [put, get?, ne]
  | cons entry rest ih =>
    obtain ⟨known, old⟩ := entry
    by_cases same : known = name
    · subst same
      simp [put, get?, List.lookup_cons, apart]
    · simp only [get?] at ih
      simp [put, get?, same, List.lookup_cons, ih]

end Fields

namespace Value

def typeName : Value → Text
  | null => "NoneType".toList
  | bool _ => "bool".toList
  | int _ => "int".toList
  | real _ => "float".toList
  | text _ => "str".toList
  | list _ => "list".toList
  | map _ | table _ => "dict".toList
  | set _ => "set".toList
  | date _ => "date".toList
  | moment _ => "datetime".toList
  | foreign _ => "Opaque".toList
  | note .. => "Note".toList

def fullTypeName : Value → Text
  | date _ => "datetime.date".toList
  | moment _ => "datetime.datetime".toList
  | value => value.typeName

def isTruthy : Value → Bool
  | null => false
  | bool b => b
  | int n => n != 0
  | real (.finite _ quanta) => quanta != 0
  | real _ => true
  | text t => !t.isEmpty
  | list items => !items.isEmpty
  | map entries => !entries.isEmpty
  | table entries => !entries.isEmpty
  | set members => !members.isEmpty
  | date _ | moment _ | foreign _ | note .. => true

def isNull : Value → Bool
  | null => true
  | _ => false

def isTruth : Value → Bool
  | bool _ => true
  | _ => false

def isText : Value → Bool
  | text _ => true
  | _ => false

def fields? : Value → Option Fields
  | map fields => some fields
  | table entries => some (entries.filterMap fun (key, value) =>
      match key with
      | text name => some (name, value)
      | _ => none)
  | _ => none

def entries? : Value → Option (List (Value × Value))
  | map fields => some (fields.map fun (name, value) => (text name, value))
  | table entries => some entries
  | _ => none

def members? : Value → Option (List Value)
  | list items => some items
  | set members => some members
  | text t => some (t.map fun c => text [c])
  | map fields => some (fields.map fun entry => text entry.1)
  | table entries => some (entries.map (·.1))
  | _ => none

inductive Quantity where
  | whole (n : Int)
  | real (x : Binary64)
deriving DecidableEq, Inhabited, Repr

def quantity? : Value → Option Quantity
  | bool b => some (.whole (if b then 1 else 0))
  | int n => some (.whole n)
  | real x => some (.real x)
  | _ => none

def Quantity.lt : Quantity → Quantity → Bool
  | .whole m, .whole n => m < n
  | .real x, .real y => Binary64.lt x y
  | .whole m, .real (.finite s q) => m * Binary64.unit < Binary64.signed s q
  | .real (.finite s q), .whole n => Binary64.signed s q < n * Binary64.unit
  | .whole _, .real (.infinite negative) => !negative
  | .real (.infinite negative), .whole _ => negative
  | _, _ => false

def Quantity.eq : Quantity → Quantity → Bool
  | .whole m, .whole n => m == n
  | .real x, .real y => Binary64.eq x y
  | .whole m, .real x | .real x, .whole m => x.toInt? == some m

/-- Equality of members of a set. Numbers are equal by value whatever their type. -/
def sameMember : Value → Value → Bool
  | null, null => true
  | text s, text t => s == t
  | date c, date d => c == d
  | moment m, moment n => m.offset.isSome == n.offset.isSome && m.instant == n.instant
  | a, b =>
    match a.quantity?, b.quantity? with
    | some p, some q => p.eq q
    | _, _ => false

def memberLt? : Value → Value → Option Bool
  | text s, text t => some (s != t && Text.precedes s t)
  | date c, date d => some (c.ordinal < d.ordinal)
  | moment m, moment n =>
    if m.offset.isSome == n.offset.isSome then some (m.instant < n.instant) else none
  | a, b =>
    match a.quantity?, b.quantity? with
    | some p, some q => some (p.lt q)
    | _, _ => none

def sortMembers (members : List Value) : List Value :=
  if members.all fun a => members.all fun b => (a.memberLt? b).isSome then
    members.mergeSort fun a b => !(b.memberLt? a).getD false
  else members

def under? (value key : Value) : Option Value :=
  value.entries?.bind fun entries => (entries.find? fun entry => entry.1.sameMember key).map (·.2)

def putEntry (key value : Value) : List (Value × Value) → List (Value × Value)
  | [] => [(key, value)]
  | (known, old) :: rest =>
    if known.sameMember key then (known, value) :: rest else (known, old) :: putEntry key value rest

/-- The map of the given entries, in the order in which their keys first stand. -/
def mapOf (entries : List (Value × Value)) : Value :=
  match entries.mapM fun (key, value) => match key with
    | text name => some (name, value)
    | _ => none with
  | some fields => map (Fields.ofList fields)
  | none => table (entries.foldl (fun map (key, value) => putEntry key value map) [])

/-- The set of the given values, each once, in ascending order if there is one. -/
def setOf (values : List Value) : Value :=
  set (sortMembers (values.foldl (fun members v =>
    if members.any (·.sameMember v) then members else members ++ [v]) []))

end Value
end Concordance
