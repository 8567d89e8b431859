import Concordance.Number.Reading
import Concordance.Value.Basic

/-! Reading JSON text as data. Beyond the standard, the words `NaN`, `Infinity` and `-Infinity` are
numbers, and of a name given twice in an object the last value counts. Every call of the value
reader uses up a character, so the length of the text bounds the depth. -/
namespace Concordance.Json

def isSpace (c : Char) : Bool := c == ' ' || c == '\t' || c == '\n' || c == '\r'

def skipSpace (t : Text) : Text := t.dropWhile isSpace

def takeWord? (word t : Text) : Option Text :=
  if word.isPrefixOf t then some (t.drop word.length) else none

def hexValue? (c : Char) : Option Nat :=
  if c.isDigit then some (c.toNat - '0'.toNat)
  else if 'a' ≤ c && c ≤ 'f' then some (c.toNat - 'a'.toNat + 10)
  else if 'A' ≤ c && c ≤ 'F' then some (c.toNat - 'A'.toNat + 10)
  else none

def takeUnit? : Text → Option (Nat × Text)
  | a :: b :: c :: d :: rest => do
    let a ← hexValue? a
    let b ← hexValue? b
    let c ← hexValue? c
    let d ← hexValue? d
    pure (((a * 16 + b) * 16 + c) * 16 + d, rest)
  | _ => none

def takeLow? (t : Text) : Option (Nat × Text) := do
  let rest ← takeWord? ['\\', 'u'] t
  let (low, rest) ← takeUnit? rest
  if 0xdc00 ≤ low && low < 0xe000 then pure (low, rest) else none

def takeEscape? : Text → Option (Char × Text)
  | '"' :: rest => some ('"', rest)
  | '\\' :: rest => some ('\\', rest)
  | '/' :: rest => some ('/', rest)
  | 'b' :: rest => some ('\x08', rest)
  | 'f' :: rest => some ('\x0c', rest)
  | 'n' :: rest => some ('\n', rest)
  | 'r' :: rest => some ('\r', rest)
  | 't' :: rest => some ('\t', rest)
  | 'u' :: rest => do
    let (unit, rest) ← takeUnit? rest
    if 0xd800 ≤ unit && unit < 0xdc00 then
      match takeLow? rest with
      | some (low, rest) =>
        pure (Char.ofNat (0x10000 + (unit - 0xd800) * 0x400 + (low - 0xdc00)), rest)
      | none => pure ('\ufffd', rest)
    else if 0xdc00 ≤ unit && unit < 0xe000 then pure ('\ufffd', rest)
    else pure (Char.ofNat unit, rest)
  | _ => none

def takeString? : Nat → Text → Option (Text × Text)
  | 0, _ => none
  | fuel + 1, t =>
    match t with
    | [] => none
    | '"' :: rest => some ([], rest)
    | '\\' :: rest => do
      let (c, rest) ← takeEscape? rest
      let (more, rest) ← takeString? fuel rest
      pure (c :: more, rest)
    | c :: rest =>
      if c.toNat < 0x20 then none
      else do
        let (more, rest) ← takeString? fuel rest
        pure (c :: more, rest)

def takePlaces (t : Text) : Text × Text :=
  match t with
  | '.' :: rest =>
    let places := rest.takeWhile Char.isDigit
    if places.isEmpty then ([], t) else ('.' :: places, rest.dropWhile Char.isDigit)
  | _ => ([], t)

def takePower (t : Text) : Text × Text :=
  match t with
  | mark :: rest =>
    let sign := rest.takeWhile fun c => c == '+' || c == '-'
    let behind := rest.drop sign.length
    let digits := behind.takeWhile Char.isDigit
    if mark.toLower = 'e' && sign.length ≤ 1 && !digits.isEmpty then
      (mark :: (sign ++ digits), behind.dropWhile Char.isDigit)
    else ([], t)
  | [] => ([], t)

def maxDigits : Nat := 4300

/-- Splits off a number. Without fraction and exponent it is an integer, which must not be too
long. -/
def takeNumber? (t : Text) : Option (Value × Text) :=
  let (negative, body) := match t with
    | '-' :: rest => (true, rest)
    | _ => (false, t)
  let whole := match body with
    | '0' :: _ => ['0']
    | _ => body.takeWhile Char.isDigit
  if whole.isEmpty then none
  else
    let (places, rest) := takePlaces (body.drop whole.length)
    let (power, rest) := takePower rest
    if places.isEmpty && power.isEmpty then
      if maxDigits < whole.length then none
      else some (.int (Binary64.signed negative (Text.digitsValue whole)), rest)
    else
      (Binary64.readDigits? negative (whole ++ places ++ power)).map fun x => (.real x, rest)

def words : List (Text × Value) :=
  [("null".toList, .null), ("true".toList, .bool true), ("false".toList, .bool false),
   ("NaN".toList, .real .nan), ("Infinity".toList, .real (.infinite false)),
   ("-Infinity".toList, .real (.infinite true))]

def takeNamed? (t : Text) : Option (Value × Text) :=
  words.findSome? fun (word, value) => (takeWord? word t).map fun rest => (value, rest)

mutual

def takeValue? : Nat → Text → Option (Value × Text)
  | 0, _ => none
  | fuel + 1, t =>
    match t with
    | '"' :: rest => (takeString? (rest.length + 1) rest).map fun (s, rest) => (.text s, rest)
    | '[' :: rest =>
      match skipSpace rest with
      | ']' :: rest => some (.list [], rest)
      | rest => (takeItems? fuel rest).map fun (items, rest) => (.list items, rest)
    | '\x7b' :: rest =>
      match skipSpace rest with
      | '\x7d' :: rest => some (.map [], rest)
      | rest =>
        (takeEntries? fuel rest).map fun (entries, rest) => (.map (Fields.ofList entries), rest)
    | _ => (takeNamed? t).orElse fun _ => takeNumber? t

def takeItems? : Nat → Text → Option (List Value × Text)
  | 0, _ => none
  | fuel + 1, t => do
    let (value, rest) ← takeValue? fuel t
    match skipSpace rest with
    | ']' :: rest => pure ([value], rest)
    | ',' :: rest =>
      let (more, rest) ← takeItems? fuel (skipSpace rest)
      pure (value :: more, rest)
    | _ => none

def takeEntries? : Nat → Text → Option (List (Text × Value) × Text)
  | 0, _ => none
  | fuel + 1, t =>
    match t with
    | '"' :: rest => do
      let (name, rest) ← takeString? (rest.length + 1) rest
      match skipSpace rest with
      | ':' :: rest =>
        let (value, rest) ← takeValue? fuel (skipSpace rest)
        match skipSpace rest with
        | '\x7d' :: rest => pure ([(name, value)], rest)
        | ',' :: rest =>
          let (more, rest) ← takeEntries? fuel (skipSpace rest)
          pure ((name, value) :: more, rest)
        | _ => none
      | _ => none
    | _ => none

end

def read? (t : Text) : Option Value := do
  let (value, rest) ← takeValue? (t.length + 1) (skipSpace t)
  if (skipSpace rest).isEmpty then pure value else none

end Concordance.Json
