import Concordance.Search.Filter
import Concordance.Validation
import Concordance.Value.Obstacle

/-! Options of a search, how they are read from data, and the key under which searches with the
same effect are known. -/
namespace Concordance

structure SearchOptions where
  maxResults : Option Nat := none
  fuzzy : Option Bool := none
  filters : List (Text × MetadataFilter) := []
deriving Inhabited

structure OptionsKey where
  limit : Option Nat
  fuzzy : Bool
  filters : List (Text × Text)
deriving DecidableEq, Inhabited, Repr

namespace MetadataFilter

def read (value : Value) : Read MetadataFilter :=
  match value.fields? with
  | some fields =>
    match Fields.get? fields "type".toList with
    | none => .error [⟨[.name "type".toList], .present⟩]
    | some (.text t) =>
      match FilterKind.ofName? t with
      | some kind => .ok ⟨kind, (Fields.get? fields "value".toList).getD .null⟩
      | none => .error [⟨[.name "type".toList], .oneOf⟩]
    | some _ => .error [⟨[.name "type".toList], .oneOf⟩]
  | none => Read.fail .modelKind

/-- The step to the value under a key. Integers of 64 bits are steps of their own, all other keys
but texts are written as literals. -/
def keyStep (key : Value) : Step :=
  match key, key.quantity? with
  | .text name, _ => .name name
  | _, some (.whole n) => if Read.isWord n then .index n else .name key.literal
  | _, _ => .name key.literal

def readEntry (key value : Value) : Read (Text × MetadataFilter) :=
  let name := Read.under (.name "[key]".toList) (Read.text key)
  Read.under (keyStep key) (Read.both name (read value))

def readAll (value : Value) : Read (List (Text × MetadataFilter)) :=
  match value.entries? with
  | some entries => Read.each (fun (key, value) => readEntry key value) entries
  | none => Read.fail .mapKind

/-- The filter as a literal, which tells apart values of different type. -/
def literal (filter : MetadataFilter) : Text :=
  (Value.map [("type".toList, .text filter.kind.name), ("value".toList, filter.value)]).literal

end MetadataFilter

namespace SearchOptions

def optional {α : Type} (read : Value → Read α) : Value → Read (Option α)
  | .null => .ok none
  | value => (read value).map some

def option {α : Type} (fields : Fields) (name : String) (read : Value → Read α) (default : α) :
    Read α :=
  match fields.get? name.toList with
  | none => .ok default
  | some value => Read.under (.name name.toList) (read value)

def read (value : Value) : Read SearchOptions :=
  match value.fields? with
  | some fields =>
    let maxResults := option fields "max_results" (optional (Read.natural 0)) none
    let fuzzy := option fields "fuzzy" (optional Read.truth) none
    let filters := option fields "metadata_filters" MetadataFilter.readAll []
    (Read.both maxResults (Read.both fuzzy filters)).map fun (maxResults, fuzzy, filters) =>
      { maxResults, fuzzy, filters }
  | none => Read.fail .modelKind

def limit (o : SearchOptions) : Option Nat := o.maxResults.filter (· != 0)

def cap {α : Type} (o : SearchOptions) (results : List α) : List α :=
  match o.limit with
  | none => results
  | some n => results.take n

def isFuzzy (o : SearchOptions) (s : Settings) : Bool := o.fuzzy.getD s.defaultFuzzy

def key (o : SearchOptions) (s : Settings) : OptionsKey :=
  { limit := o.limit, fuzzy := o.isFuzzy s
    filters := (o.filters.map fun (name, filter) => (name, filter.literal)).mergeSort
      fun a b => Text.precedes a.1 b.1 }

/-- Why the key of options cannot be written: what the first filter that has no literal says. -/
def obstacle? (o : SearchOptions) : Option Failure :=
  o.filters.findSome? fun (_, filter) => filter.value.obstacle?

end SearchOptions
end Concordance
