import Concordance.Number.Lenient
import Concordance.Value.Basic

/-! Reading typed values out of data. A reader gives a value or the list of issues found; an issue
names the place and the rule that was broken. Numbers and truth values may be written as text. -/
namespace Concordance

inductive Step where
  | name (t : Text)
  | index (i : Int)
deriving DecidableEq, Inhabited, Repr

inductive Rule where
  | integerText | integerSize | integerFraction | integerFinite | integerKind
  | realText | realKind
  | truthText | truthKind
  | textKind | listKind | mapKind | modelKind
  | atLeast | above | atMost
  | present | oneOf
  | penaltyRange
deriving DecidableEq, Inhabited, Repr

def Rule.code : Rule → Text
  | integerText => "int_parsing".toList
  | integerSize => "int_parsing_size".toList
  | integerFraction => "int_from_float".toList
  | integerFinite => "finite_number".toList
  | integerKind => "int_type".toList
  | realText => "float_parsing".toList
  | realKind => "float_type".toList
  | truthText => "bool_parsing".toList
  | truthKind => "bool_type".toList
  | textKind => "string_type".toList
  | listKind => "list_type".toList
  | mapKind => "dict_type".toList
  | modelKind => "model_type".toList
  | atLeast => "greater_than_equal".toList
  | above => "greater_than".toList
  | atMost => "less_than_equal".toList
  | present => "missing".toList
  | oneOf => "literal_error".toList
  | penaltyRange => "value_error".toList

def Rule.message? : Rule → Option Text
  | penaltyRange => some "Value error, long_document_penalty must be in the interval (0, 1]".toList
  | _ => none

structure Issue where
  location : List Step
  rule : Rule
deriving DecidableEq, Inhabited, Repr

def Issue.under (step : Step) (issue : Issue) : Issue :=
  { issue with location := step :: issue.location }

abbrev Read (α : Type) := Except (List Issue) α

namespace Read

def fail {α : Type} (rule : Rule) : Read α := .error [⟨[], rule⟩]

def require (holds : Bool) (rule : Rule) : Read Unit := if holds then .ok () else fail rule

def isWord (n : Int) : Bool := -0x8000000000000000 ≤ n && n < 0x8000000000000000

/-- An integer out of a floating-point number, which must be less than 2^63 in size. -/
def wholePart (x : Binary64) : Read Int :=
  if !x.isFinite then fail .integerFinite
  else match x.toInt? with
    | some n => if n.natAbs < 0x8000000000000000 then .ok n else fail .integerSize
    | none => fail .integerFraction

def integer : Value → Read Int
  | .int n => .ok n
  | .bool b => .ok (if b then 1 else 0)
  | .real x => wholePart x
  | .text t =>
    match Lenient.integer t with
    | .integer n => .ok n
    | .tooLong => fail .integerSize
    | .malformed => fail .integerText
  | _ => fail .integerKind

def natural (least : Nat) (value : Value) : Read Nat := do
  let n ← integer value
  require (least ≤ n) .atLeast
  pure n.toNat

def real : Value → Read Binary64
  | .real x => .ok x
  | .int n =>
    match Binary64.ofInt n with
    | .infinite _ => fail .realKind
    | x => .ok x
  | .bool b => .ok (Binary64.ofNat (if b then 1 else 0))
  | .text t =>
    match Lenient.real? t with
    | some x => .ok x
    | none => fail .realText
  | _ => fail .realKind

def yesWords : List Text := ["1", "on", "t", "true", "y", "yes"].map String.toList
def noWords : List Text := ["0", "off", "f", "false", "n", "no"].map String.toList

def truthOf (n : Int) : Read Bool :=
  if n = 1 then .ok true else if n = 0 then .ok false else fail .truthText

/-- A truth value. Numbers that are no integers of 64 bits are not even looked at. -/
def truth : Value → Read Bool
  | .bool b => .ok b
  | .int n => if isWord n then truthOf n else fail .truthKind
  | .real x =>
    match wholePart x with
    | .ok n => truthOf n
    | .error _ => fail .truthKind
  | .text t =>
    let word := Text.lowerAscii t
    if yesWords.contains word then .ok true
    else if noWords.contains word then .ok false else fail .truthText
  | _ => fail .truthKind

def text : Value → Read Text
  | .text t => .ok t
  | _ => fail .textKind

def issues {α : Type} : Read α → List Issue
  | .ok _ => []
  | .error found => found

def both {α β : Type} (first : Read α) (second : Read β) : Read (α × β) :=
  match first, second with
  | .ok x, .ok y => .ok (x, y)
  | first, second => .error (issues first ++ issues second)

def under {α : Type} (step : Step) (read : Read α) : Read α :=
  read.mapError (·.map (Issue.under step))

def each {α β : Type} (read : α → Read β) : List α → Read (List β)
  | [] => .ok []
  | x :: rest => (both (read x) (each read rest)).map fun (y, ys) => y :: ys

def texts : Value → Read (List Text)
  | .list items | .set items =>
    each (fun (item, i) => under (.index i) (text item)) items.zipIdx
  | _ => fail .listKind

end Read
end Concordance
