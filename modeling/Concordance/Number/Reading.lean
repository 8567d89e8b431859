import Concordance.Number.Binary64
import Concordance.Text.Basic
import Concordance.Unicode.Digit

/-! Reading numbers from text. Numerals have an optional sign, digits with an optional point and
an optional exponent, or spell infinity or NaN in any letter case. Two spellings are accepted: the
liberal one of field values, with digits and blanks of every script, and the plain one of
settings, in ASCII. -/
namespace Concordance

namespace Text

def digitsValue (digits : Text) : Nat :=
  digits.foldl (fun value c => 10 * value + (c.toNat - '0'.toNat)) 0

def takeSign : Text → Bool × Text
  | '-' :: rest => (true, rest)
  | '+' :: rest => (false, rest)
  | t => (false, t)

def joinDigitsFrom (behindDigit : Bool) : Text → Option Text
  | [] => some []
  | c :: rest =>
    if c = '_' then
      if behindDigit && rest.head?.any Char.isDigit then joinDigitsFrom false rest else none
    else (joinDigitsFrom c.isDigit rest).map (c :: ·)

def joinDigits (t : Text) : Option Text := joinDigitsFrom false t

end Text

namespace Binary64

def readDigits? (negative : Bool) (t : Text) : Option Binary64 :=
  let whole := t.takeWhile Char.isDigit
  let behind := t.dropWhile Char.isDigit
  let (places, rest) := match behind with
    | '.' :: more => (more.takeWhile Char.isDigit, more.dropWhile Char.isDigit)
    | _ => ([], behind)
  if whole.isEmpty && places.isEmpty then none
  else
    let digits := Text.digitsValue (whole ++ places)
    match rest with
    | [] => some (ofDecimal negative digits (-(places.length : Int)))
    | mark :: more =>
      let (down, power) := Text.takeSign more
      if mark.toLower = 'e' && !power.isEmpty && power.all Char.isDigit then
        let exponent := signed down (Text.digitsValue power)
        some (ofDecimal negative digits (exponent - places.length))
      else none

def readNumeral? (t : Text) : Option Binary64 :=
  let (negative, body) := Text.takeSign t
  let name := Text.lowerAscii body
  if name = "inf".toList || name = "infinity".toList then some (infinite negative)
  else if name = "nan".toList then some nan
  else readDigits? negative body

/-- A character of a liberal numeral as ASCII: digits of any script and blanks outside ASCII are
taken for their ASCII partners. -/
def asciiPartner (c : Char) : Char :=
  if c.toNat < 128 then c
  else if Unicode.isBlank c then ' '
  else match Unicode.digitValue? c with
    | some digit => Char.ofNat ('0'.toNat + digit)
    | none => c

def isAsciiBlank (c : Char) : Bool := c == ' ' || (9 ≤ c.toNat && c.toNat ≤ 13)

/-- The liberal spelling: blanks around the numeral, underscores between digits, digits of every
script. -/
def read? (t : Text) : Option Binary64 :=
  (Text.joinDigits (Text.trimBy isAsciiBlank (t.map asciiPartner))).bind readNumeral?

end Binary64
end Concordance
