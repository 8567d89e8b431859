import Concordance.Failure
import Concordance.Log.Placeholder
import Concordance.Number.Rounded
import Concordance.Search.Credit
import Concordance.Value.Literal

/-! Filling in the placeholders of a message, one after the other, with values that are converted
to text by the letter of the placeholder and aligned in its width. -/
namespace Concordance
namespace Placeholder

inductive Error where
  | incomplete | incompleteKey
  | tooFewArguments | tooManyArguments
  | noMapping
  | missingKey (key : Text)
  | extentNotInteger
  | notANumber (conversion : Char) (typeName : Text)
  | notAnInteger (conversion : Char) (typeName : Text)
  | notReal (typeName : Text)
  | notACharacter
  | characterRange
  | unknown (conversion : Char) (position : Nat)
  | keyInList
  | widthTooBig | precisionTooBig
  | widthOutOfRange | precisionOutOfRange
  | tooManyDigits
  | outOfMemory
  | arithmetic (f : Failure)
deriving DecidableEq, Repr

def Error.message : Error → Text
  | incomplete => "incomplete format".toList
  | incompleteKey => "incomplete format key".toList
  | tooFewArguments => "not enough arguments for format string".toList
  | tooManyArguments => "not all arguments converted during string formatting".toList
  | noMapping => "format requires a mapping".toList
  | missingKey key => Text.quoted key
  | extentNotInteger => "* wants int".toList
  | notANumber conversion typeName =>
    '%' :: conversion :: (" format: a real number is required, not ".toList ++ typeName)
  | notAnInteger conversion typeName =>
    '%' :: conversion :: (" format: an integer is required, not ".toList ++ typeName)
  | notReal typeName => "must be real number, not ".toList ++ typeName
  | notACharacter => "%c requires int or char".toList
  | characterRange => "%c arg not in range(0x110000)".toList
  | unknown conversion position =>
    "unsupported format character '".toList ++
      (if 31 < conversion.toNat && conversion.toNat < 128 then conversion else '?') ::
      ("' (0x".toList ++ Nat.toDigits 16 conversion.toNat ++ ") at index ".toList ++
        Text.ofNat position)
  | keyInList => "list indices must be integers or slices, not str".toList
  | widthTooBig => "width too big".toList
  | precisionTooBig => "precision too big".toList
  | widthOutOfRange => "Python int too large to convert to C ssize_t".toList
  | precisionOutOfRange => "Python int too large to convert to C int".toList
  | tooManyDigits => "precision too large".toList
  | outOfMemory => []
  | arithmetic f => f.message

structure Supply where
  waiting : List Value
  mapping : Option Value := none
  spare : Bool := false

namespace Supply

/-- The arguments of a message. A map that is the only one is looked up by keys. -/
def ofArguments : List Value → Supply
  | [.map (entry :: rest)] =>
    { waiting := [.map (entry :: rest)], mapping := some (.map (entry :: rest)), spare := true }
  | [.table entries] =>
    { waiting := [.table entries], mapping := some (.table entries), spare := true }
  | values => { waiting := values }

def take (s : Supply) : Except Error (Value × Supply) :=
  match s.waiting with
  | [] => .error .tooFewArguments
  | value :: rest => .ok (value, { s with waiting := rest })

def select (s : Supply) (key : Option (Text × Bool)) : Except Error Supply :=
  match key, s.mapping with
  | none, _ => .ok s
  | some _, none => .error .noMapping
  | some (_, false), some _ => .error .incompleteKey
  | some (_, true), some (.list _) => .error .keyInList
  | some (name, true), some mapping =>
    match (mapping.fields?.bind (Fields.get? · name)) with
    | some value => .ok { s with waiting := [value] }
    | none => .error (.missingKey name)

def extent (limit : Nat) (written given : Error) (s : Supply) :
    Option Extent → Except Error (Option Int × Supply)
  | none => .ok (none, s)
  | some (.count n) => if n ≤ limit then .ok (some n, s) else .error written
  | some .argument => do
    let (value, s) ← s.take
    match value with
    | .int n => if -limit - 1 ≤ n && n ≤ limit then pure (some n, s) else throw given
    | .bool b => pure (some (if b then 1 else 0), s)
    | _ => throw .extentNotInteger

def maxWidth : Nat := 0x7fffffffffffffff
def maxPrecision : Nat := 0x7fffffff

end Supply

/-- A message that is filled in. A code that is no character but one half of a pair is `none`. -/
abbrev Filled := List (Option Char)

def Filled.ofText (t : Text) : Filled := t.map some

/-- A character repeated `n` times. Of a message no more than `room` characters are looked at, so no
more than one above that are written. -/
def padding (room n : Nat) (c : Char) : Text := List.replicate (min n (room + 1)) c

structure Body where
  negative : Bool := false
  signed : Bool := false
  mark : Text := []
  text : Filled
  omitted : Nat := 0
  numeric : Bool := false

def asciiOnly (t : Text) : Text :=
  t.flatMap fun c =>
    if c.toNat < 0x80 then [c]
    else if c.toNat < 0x100 then '\\' :: 'x' :: Text.hexDigits 2 c.toNat
    else if c.toNat < 0x10000 then '\\' :: 'u' :: Text.hexDigits 4 c.toNat
    else '\\' :: 'U' :: Text.hexDigits 8 c.toNat

def truncated (conversion : Char) (value : Value) : Except Error Int :=
  match value.quantity? with
  | some (.whole n) => .ok n
  | some (.real .nan) => .error (.arithmetic .nanToInteger)
  | some (.real (.infinite _)) => .error (.arithmetic .infiniteToInteger)
  | some (.real (.finite s q)) => .ok (Binary64.signed s (q / Binary64.unit))
  | none => .error (.notANumber conversion value.fullTypeName)

def exactInteger (conversion : Char) (value : Value) : Except Error Int :=
  match value.quantity? with
  | some (.whole n) => .ok n
  | _ => .error (.notAnInteger conversion value.fullTypeName)

def upperIf (upper : Bool) (t : Text) : Text := if upper then t.map Char.toUpper else t

def maxDigits : Nat := 0x7ffffffc

def integerBody (room base : Nat) (upper : Bool) (digits : Nat) (mark : Text) (n : Int) :
    Except Error Body :=
  if maxDigits < digits then .error .tooManyDigits
  else
    let written := Nat.toDigits base n.natAbs
    let zeros := padding room (digits - written.length) '0'
    .ok { negative := n < 0, signed := true, mark := upperIf upper mark, numeric := true
          text := .ofText (zeros ++ upperIf upper written)
          omitted := (digits - written.length) - zeros.length }

def maxPlaces : Nat := 1100

/-- A real number in one of the three decimal forms. Of its places only those are computed that are
looked at. -/
def realBody (p : Placeholder) (room : Nat) (form : Char) (upper : Bool) (precision : Nat)
    (value : Value) : Except Error Body := do
  let x ← match value.quantity? with
    | some q => q.toReal.mapError Error.arithmetic
    | none => throw (.notReal value.fullTypeName)
  let places := min precision (room + maxPlaces)
  let (negative, text) := match x with
    | .nan => (false, "nan".toList)
    | .infinite s => (s, "inf".toList)
    | .finite s q =>
      (s, if form = 'f' then Binary64.fixed p.alternate places q
          else if form = 'e' then Binary64.scientific p.alternate places q
          else Binary64.general p.alternate places q)
  pure { negative, signed := true, text := .ofText (upperIf upper text), numeric := true
         omitted := if x.isFinite && (form ≠ 'g' || p.alternate) then precision - places else 0 }

def codeOf (n : Nat) : Option Char :=
  if 0xD800 ≤ n && n < 0xE000 then none else some (Char.ofNat n)

def characterBody : Value → Except Error Body
  | .text [c] => .ok { text := [some c] }
  | .int n =>
    if 0 ≤ n && n < 0x110000 then .ok { text := [codeOf n.toNat] } else .error .characterRange
  | .bool b => .ok { text := [codeOf (if b then 1 else 0)] }
  | _ => .error .notACharacter

def body (p : Placeholder) (room : Nat) (conversion : Char) (position : Nat)
    (precision : Option Nat) (value : Value) : Except Error Body :=
  let cut (t : Text) : Except Error Body := .ok { text := .ofText ((precision.map t.take).getD t) }
  let integer (base : Nat) (upper : Bool) (mark : Text) (n : Int) : Except Error Body :=
    integerBody room base upper (precision.getD 0) (if p.alternate then mark else []) n
  let real (form : Char) (upper : Bool) : Except Error Body :=
    p.realBody room form upper (precision.getD 6) value
  match conversion with
  | 's' => cut value.display
  | 'r' => cut value.literal
  | 'a' => cut (asciiOnly value.literal)
  | 'd' | 'i' | 'u' => truncated conversion value >>= integer 10 false []
  | 'o' => exactInteger 'o' value >>= integer 8 false ['0', 'o']
  | 'x' => exactInteger 'x' value >>= integer 16 false ['0', 'x']
  | 'X' => exactInteger 'X' value >>= integer 16 true ['0', 'x']
  | 'f' | 'F' => real 'f' (conversion == 'F')
  | 'e' | 'E' => real 'e' (conversion == 'E')
  | 'g' | 'G' => real 'g' (conversion == 'G')
  | 'c' => characterBody value
  | _ => .error (.unknown conversion position)

/-- Aligns a body in a width: with zeros behind the sign and the mark, or with blanks on either
side. -/
def align (p : Placeholder) (room : Nat) (leftAligned : Bool) (width : Nat) (b : Body) : Filled :=
  let sign : Text := if b.negative then ['-'] else if !b.signed then []
    else if p.plus then ['+'] else if p.blank then [' '] else []
  let front : Filled := .ofText (sign ++ b.mark)
  let missing := width - (front.length + b.text.length + b.omitted)
  if leftAligned then front ++ b.text ++ .ofText (padding room missing ' ')
  else if p.zero && b.numeric then front ++ .ofText (padding room missing '0') ++ b.text
  else .ofText (padding room missing ' ') ++ front ++ b.text

def memory : Nat := 0x400000000

def fill (p : Placeholder) (room : Nat) (s : Supply) : Except Error (Filled × Supply) := do
  let s ← s.select p.key
  let (width, s) ← s.extent Supply.maxWidth .widthTooBig .widthOutOfRange p.width
  let (precision, s) ← s.extent Supply.maxPrecision .precisionTooBig .precisionOutOfRange
    p.precision
  match p.conversion with
  | none => throw .incomplete
  | some (conversion, position) =>
    let (value, s) ← s.take
    let b ← p.body room conversion position (precision.map Int.toNat) value
    let width := width.getD 0
    if memory ≤ width.natAbs then throw .outOfMemory
    pure (p.align room (p.leftAligned || width < 0) width.natAbs b, s)

def fillAll (room : Nat) (s : Supply) : List Piece → Except Error (Filled × Supply)
  | [] => .ok ([], s)
  | .plain c :: rest => do
    let (text, s) ← fillAll room s rest
    pure (some c :: text, s)
  | .placeholder p :: rest => do
    let (first, s) ← p.fill room s
    let (text, s) ← fillAll room s rest
    pure (first ++ text, s)

/-- A message with its placeholders filled in, of which `room` characters are looked at. All
arguments must be used, but a map need not. -/
def format (room : Nat) (message : Text) (s : Supply) : Except Error Filled := do
  let (text, left) ← fillAll room s (pieces 0 none message)
  if left.waiting.isEmpty || left.spare then pure text else throw .tooManyArguments

end Placeholder
end Concordance
