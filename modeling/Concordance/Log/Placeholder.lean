import Concordance.Text.Basic

/-! Messages with placeholders. A percent sign begins a placeholder: an optional key in parentheses,
flags, a width, a precision, and the letter of a conversion. Two percent signs stand for one. A
message is read as a list of pieces, whatever it holds; what is wrong with a placeholder is found
when its turn to be filled in comes. -/
namespace Concordance

inductive Extent where
  | count (n : Nat)
  | argument
deriving DecidableEq, Inhabited, Repr

structure Placeholder where
  key : Option (Text × Bool) := none
  leftAligned : Bool := false
  plus : Bool := false
  blank : Bool := false
  alternate : Bool := false
  zero : Bool := false
  width : Option Extent := none
  precision : Option Extent := none
  conversion : Option (Char × Nat) := none
deriving DecidableEq, Inhabited, Repr

inductive Piece where
  | plain (c : Char)
  | placeholder (p : Placeholder)
deriving DecidableEq, Inhabited, Repr

namespace Placeholder

inductive Stage where
  | sign | key (depth : Nat) | flags | width | widthEnd | point | precision | precisionEnd | size
deriving DecidableEq, Repr

abbrev Progress := Placeholder × Option Stage

def complete (position : Nat) (p : Placeholder) (c : Char) : Progress :=
  ({ p with conversion := some (c, position) }, none)

def readSize (position : Nat) (p : Placeholder) (c : Char) : Progress :=
  if c = 'h' || c = 'l' || c = 'L' then (p, some .size) else complete position p c

def readPoint (position : Nat) (p : Placeholder) (c : Char) : Progress :=
  if c = '.' then ({ p with precision := some (.count 0) }, some .point)
  else readSize position p c

def digitOf (c : Char) : Nat := c.toNat - '0'.toNat

def extend (e : Option Extent) (c : Char) : Option Extent :=
  match e with
  | some (.count n) => some (.count (10 * n + digitOf c))
  | _ => some (.count (digitOf c))

def readWidth (position : Nat) (p : Placeholder) (c : Char) : Progress :=
  if c = '*' then ({ p with width := some .argument }, some .widthEnd)
  else if c.isDigit then ({ p with width := extend none c }, some .width)
  else readPoint position p c

def readFlag (position : Nat) (p : Placeholder) (c : Char) : Progress :=
  if c = '-' then ({ p with leftAligned := true }, some .flags)
  else if c = '+' then ({ p with plus := true }, some .flags)
  else if c = ' ' then ({ p with blank := true }, some .flags)
  else if c = '#' then ({ p with alternate := true }, some .flags)
  else if c = '0' then ({ p with zero := true }, some .flags)
  else readWidth position p c

def readKey (p : Placeholder) (depth : Nat) (c : Char) : Progress :=
  let key := (p.key.map (·.1)).getD []
  if c = ')' && depth = 1 then ({ p with key := some (key, true) }, some .flags)
  else
    let depth := if c = '(' then depth + 1 else if c = ')' then depth - 1 else depth
    ({ p with key := some (key ++ [c], false) }, some (.key depth))

def read (position : Nat) (p : Placeholder) (stage : Stage) (c : Char) : Progress :=
  match stage with
  | .sign => if c = '(' then ({ p with key := some ([], false) }, some (.key 1))
             else readFlag position p c
  | .key depth => readKey p depth c
  | .flags => readFlag position p c
  | .width => if c.isDigit then ({ p with width := extend p.width c }, some .width)
              else readPoint position p c
  | .widthEnd => readPoint position p c
  | .point => if c = '*' then ({ p with precision := some .argument }, some .precisionEnd)
              else if c.isDigit then ({ p with precision := extend none c }, some .precision)
              else readSize position p c
  | .precision => if c.isDigit then ({ p with precision := extend p.precision c }, some .precision)
                  else readSize position p c
  | .precisionEnd => readSize position p c
  | .size => complete position p c

/-- The pieces of a message from a position on, inside a placeholder or not. -/
def pieces (position : Nat) (current : Option (Placeholder × Stage)) : Text → List Piece
  | [] => (current.map fun (p, _) => Piece.placeholder p).toList
  | c :: rest =>
    match current with
    | none =>
      if c = '%' then pieces (position + 1) (some ({}, .sign)) rest
      else .plain c :: pieces (position + 1) none rest
    | some (p, stage) =>
      if c = '%' && stage = .sign then .plain '%' :: pieces (position + 1) none rest
      else match read position p stage c with
      | (p, some stage) => pieces (position + 1) (some (p, stage)) rest
      | (p, none) => .placeholder p :: pieces (position + 1) none rest

end Placeholder
end Concordance
