import Concordance.Number.Text
import Concordance.Text.Quoted
import Concordance.Value.Literal

/-! Writing data as JSON on one line without blanks. Only quotes, backslashes and control characters
are escaped. Dates are written in ISO form, sets as lists, numbers that are not finite as `null`,
and values of unknown type as their text. -/
namespace Concordance.Json

inductive WriteError where
  | integerRange
  | keyNotText
  | notCharacters
  | tooDeep
deriving DecidableEq, Repr

def WriteError.message : WriteError → Text
  | integerRange => "Integer exceeds 64-bit range".toList
  | keyNotText => "Dict key must be str".toList
  | notCharacters => "str is not valid UTF-8: surrogates not allowed".toList
  | tooDeep => "Recursion limit reached".toList

def writeChar (c : Char) : Text :=
  if c = '"' then ['\\', '"']
  else if c = '\\' then ['\\', '\\']
  else if c = '\x08' then ['\\', 'b']
  else if c = '\t' then ['\\', 't']
  else if c = '\n' then ['\\', 'n']
  else if c = '\x0c' then ['\\', 'f']
  else if c = '\r' then ['\\', 'r']
  else if c.toNat < 0x20 then '\\' :: 'u' :: Text.hexDigits 4 c.toNat
  else [c]

def writeText (t : Text) : Text := '"' :: (t.flatMap writeChar ++ ['"'])

def writeInteger (n : Int) : Except WriteError Text :=
  if -0x8000000000000000 ≤ n && n < 0x10000000000000000 then .ok (Text.ofInt n)
  else .error .integerRange

def writeReal : Binary64 → Text
  | .finite negative quanta => NumberLayout.json.writeFinite negative quanta
  | _ => "null".toList

/-- An offset in hours and minutes, half a minute and more counting as one. -/
def writeOffset (offset : Int) : Text :=
  let seconds := if offset < 0 then (-(offset.fdiv 1000000)).toNat else (offset / 1000000).toNat
  let minutes := seconds / 60 % 60 + if 30 ≤ seconds % 60 then 1 else 0
  (if offset < 0 then '-' else '+') ::
    (Date.padded 2 (seconds / 3600) ++ ':' :: Date.padded 2 minutes)

def writeMoment (m : Moment) : Text :=
  m.date.text ++ 'T' :: m.timeText ++ (m.offset.map writeOffset).getD []

def brackets (items : List Text) : Text := '[' :: (Text.join [','] items ++ [']'])

def braces (items : List Text) : Text := '\x7b' :: (Text.join [','] items ++ ['\x7d'])

def maxDepth : Nat := 254

def within {α : Type} (room : Nat) (inside : Nat → Except WriteError α) : Except WriteError α :=
  match room with
  | 0 => .error .tooDeep
  | room + 1 => inside room

mutual

/-- Writes a value with room for lists and maps inside each other. Only an empty list needs none. -/
def writeWithin (room : Nat) : Value → Except WriteError Text
  | .null => .ok "null".toList
  | .bool b => .ok (if b then "true".toList else "false".toList)
  | .int n => writeInteger n
  | .real x => .ok (writeReal x)
  | .text t => .ok (writeText t)
  | .list [] | .set [] => .ok "[]".toList
  | .list (item :: items) | .set (item :: items) =>
    within room fun room => do
      let first ← writeWithin room item
      pure (brackets (first :: (← writeAll room items)))
  | .map entries => within room fun room => (writeEntries room entries).map braces
  | .table entries => within room fun room => (writePairs room entries).map braces
  | .date d => .ok (writeText d.text)
  | .moment m => .ok (writeText (writeMoment m))
  | .foreign shown => .ok (writeText shown)
  | .note text failure attributes => .ok (writeText (Value.note text failure attributes).display)

def writeAll (room : Nat) : List Value → Except WriteError (List Text)
  | [] => .ok []
  | value :: rest => do
    let first ← writeWithin room value
    pure (first :: (← writeAll room rest))

def writeEntries (room : Nat) : List (Text × Value) → Except WriteError (List Text)
  | [] => .ok []
  | (name, value) :: rest => do
    let first ← writeWithin room value
    pure ((writeText name ++ ':' :: first) :: (← writeEntries room rest))

def writePairs (room : Nat) : List (Value × Value) → Except WriteError (List Text)
  | [] => .ok []
  | (.text name, value) :: rest => do
    let first ← writeWithin room value
    pure ((writeText name ++ ':' :: first) :: (← writePairs room rest))
  | _ :: _ => .error .keyNotText

end

def write (value : Value) : Except WriteError Text := writeWithin maxDepth value

example : write (.list [.int 1, .text ['"', '\n']]) = .ok "[1,\"\\\"\\n\"]".toList := by rfl

end Concordance.Json
