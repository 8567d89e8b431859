import Concordance.Number.Text
import Concordance.Text.Quoted
import Concordance.Value.Basic

/-! Values as text. `literal` writes a value so that values of different content and type differ;
`display` is the same, but text stands for itself and dates are written in ISO form. -/
namespace Concordance

def Moment.spanArguments (micros : Int) : List Text :=
  let days := micros.fdiv Moment.microsPerDay
  let rest := micros.fmod Moment.microsPerDay
  (if days = 0 then [] else ["days=".toList ++ Text.ofInt days]) ++
    (if rest / 1000000 = 0 then [] else ["seconds=".toList ++ Text.ofInt (rest / 1000000)]) ++
    (if rest % 1000000 = 0 then [] else ["microseconds=".toList ++ Text.ofInt (rest % 1000000)])

def Moment.offsetLiteral (offset : Int) : Text :=
  if offset = 0 then "datetime.timezone.utc".toList
  else "datetime.timezone(datetime.timedelta(".toList ++
    Text.join ", ".toList (spanArguments offset) ++ "))".toList

def Moment.literal (m : Moment) : Text :=
  let numbers := [m.date.year, m.date.month, m.date.day, m.hour, m.minute] ++
    (if m.second = 0 && m.micro = 0 then []
     else if m.micro = 0 then [m.second] else [m.second, m.micro])
  let zone := match m.offset with
    | none => []
    | some offset => ["tzinfo=".toList ++ offsetLiteral offset]
  "datetime.datetime(".toList ++ Text.join ", ".toList (numbers.map Text.ofNat ++ zone) ++ [')']

def Date.literal (d : Date) : Text :=
  "datetime.date(".toList ++
    Text.join ", ".toList ([d.year, d.month, d.day].map Text.ofNat) ++ [')']

namespace Value

def enclose (opening closing : Char) (items : List Text) : Text :=
  opening :: (Text.join [',', ' '] items ++ [closing])

mutual

def literal : Value → Text
  | null => "None".toList
  | bool b => if b then "True".toList else "False".toList
  | int n => Text.ofInt n
  | real x => x.text
  | text t => Text.quoted t
  | list items => enclose '[' ']' (literals items)
  | map entries => enclose '\x7b' '\x7d' (entryLiterals entries)
  | table entries => enclose '\x7b' '\x7d' (pairLiterals entries)
  | set members =>
    if members.isEmpty then "set()".toList else enclose '\x7b' '\x7d' (literals members)
  | date d => d.literal
  | moment m => m.literal
  | foreign shown => shown
  | note .. => "<Note>".toList

def literals : List Value → List Text
  | [] => []
  | value :: rest => literal value :: literals rest

def entryLiterals : List (Text × Value) → List Text
  | [] => []
  | (name, value) :: rest =>
    (Text.quoted name ++ ':' :: ' ' :: literal value) :: entryLiterals rest

def pairLiterals : List (Value × Value) → List Text
  | [] => []
  | (key, value) :: rest => (literal key ++ ':' :: ' ' :: literal value) :: pairLiterals rest

end

def display : Value → Text
  | text t => t
  | date d => d.text
  | moment m => m.text ' '
  | value => value.literal

end Value
end Concordance
