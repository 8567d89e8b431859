import Concordance.Number.Reading

/-! Numbers as settings spell them. A strict integer is an optional minus sign and digits that do
not begin with a needless zero. A lenient one is made strict by taking off blanks, a plus sign,
leading zeros, a fraction of zeros and single underscores. Only ASCII digits are read. -/
namespace Concordance.Lenient

def isBlank (c : Char) : Bool :=
  Unicode.isBlank c && !(0x1c ≤ c.toNat && c.toNat ≤ 0x1f)

def dropUnderscores? (t : Text) : Option Text :=
  if t.head? = some '_' || t.getLast? = some '_' || Text.occursIn ['_', '_'] t then none
  else some (t.filter (· != '_'))

/-! Integers. -/

inductive Outcome where
  | integer (n : Int)
  | tooLong
  | malformed
deriving DecidableEq, Repr

def maxLength : Nat := 4300

def takeMinus : Text → Text × Text
  | '-' :: rest => (['-'], rest)
  | t => ([], t)

def isTooLong (t : Text) : Bool :=
  let (minus, body) := takeMinus t
  body.head? != some '0' && maxLength < minus.length + (body.takeWhile Char.isDigit).length

def strict? (t : Text) : Option Int :=
  let (minus, body) := takeMinus t
  if !body.isEmpty && body.all Char.isDigit && (body.head? != some '0' || body.length = 1) then
    some (Binary64.signed (!minus.isEmpty) (Text.digitsValue body))
  else none

/-- Drops zeros and underscores in front of a digit or a minus sign. The last one stays if a point
or nothing follows. -/
def dropZerosBehind (last : Char) : Text → Option Text
  | [] => some [last]
  | c :: rest =>
    if c = '0' || c = '_' then dropZerosBehind c rest
    else if c = '.' then some (last :: c :: rest)
    else if c = '-' || c.isDigit then some (c :: rest) else none

def dropZeros? : Text → Option Text
  | [] => none
  | c :: rest =>
    if c = '0' then dropZerosBehind c rest
    else if c = '-' || c.isDigit then some (c :: rest) else none

def dropFraction (t : Text) : Text :=
  let places := (t.dropWhile (· != '.')).drop 1
  if !places.isEmpty && places.all (· == '0') then t.takeWhile (· != '.') else t

def dropPlus : Text → Text
  | '+' :: rest => rest
  | t => t

def toStrict? (t : Text) : Option Text :=
  (dropZeros? (dropPlus (Text.trimBy isBlank t))).map fun body =>
    let body := dropFraction body
    (dropUnderscores? body).getD body

/-- Reads an integer. The length counts only if it is strict as it stands. -/
def integer (t : Text) : Outcome :=
  if isTooLong t then .tooLong
  else match strict? t with
    | some n => .integer n
    | none =>
      match ((toStrict? t).filter (!isTooLong ·)).bind strict? with
      | some n => .integer n
      | none => .malformed

/-! Real numbers. -/

/-- Reads a floating-point number: blanks or underscores may be taken off, but not both. -/
def real? (t : Text) : Option Binary64 :=
  match Binary64.readNumeral? (Text.trimBy isBlank t) with
  | some x => some x
  | none => (dropUnderscores? t).bind Binary64.readNumeral?

example : integer " +0_7.00 ".toList = .integer 7 := by decide
example : integer "0-9".toList = .integer (-9) := by decide
example : integer "2.".toList = .malformed := by decide

end Concordance.Lenient
