import Concordance.Value.Literal

/-! Attributes: named values that describe a span or a resource. Numbers, texts, truth values,
nothing, and lists and maps of these are kept. Of any other value only its text is kept, and keys
in maps become texts. -/
namespace Concordance.Attribute

def nameOf? (key : Value) : Option Text := if key.isTruthy then some key.display else none

mutual

def clean : Value → Value
  | .null => .null
  | .bool b => .bool b
  | .int n => .int n
  | .real x => .real x
  | .text t => .text t
  | .list items => .list (cleanItems items)
  | .map entries => .map (Fields.ofList (cleanEntries entries))
  | .table entries => .map (Fields.ofList (cleanPairs entries))
  | value => .text value.display

def cleanItems : List Value → List Value
  | [] => []
  | item :: rest => clean item :: cleanItems rest

def cleanEntries : List (Text × Value) → List (Text × Value)
  | [] => []
  | (name, value) :: rest =>
    if name.isEmpty then cleanEntries rest else (name, clean value) :: cleanEntries rest

def cleanPairs : List (Value × Value) → List (Text × Value)
  | [] => []
  | (key, value) :: rest =>
    match nameOf? key with
    | some name => (name, clean value) :: cleanPairs rest
    | none => cleanPairs rest

end

def put (attributes : Fields) (name : Text) (value : Value) : Fields :=
  if name.isEmpty then attributes else attributes.erase name ++ [(name, clean value)]

def putLatest (limit : Nat) (attributes more : Fields) : Fields :=
  more.foldl (fun attributes (name, value) =>
    let attributes := put attributes name value
    attributes.drop (attributes.length - limit)) attributes

end Concordance.Attribute
