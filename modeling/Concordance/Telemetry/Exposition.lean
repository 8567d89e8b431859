import Concordance.Number.Text
import Concordance.Series

/-! The text in which measurements are exposed: families of samples, each family under its help
and type. Labels stand in order of their names. -/
namespace Concordance

abbrev Labels := List (Text × Text)

namespace Labels

def sorted (labels : Labels) : Labels := labels.mergeSort fun a b => Text.precedes a.1 b.1

def precedes : Labels → Labels → Bool
  | [], _ => true
  | _ :: _, [] => false
  | (n, v) :: more, (m, w) :: others =>
    if n ≠ m then Text.precedes n m
    else if v ≠ w then Text.precedes v w
    else precedes more others

end Labels

structure Sample where
  name : Text
  labels : Labels
  value : Binary64
deriving Inhabited

inductive MetricKind where
  | histogram | counter | gauge
deriving DecidableEq, Inhabited, Repr

def MetricKind.name : MetricKind → Text
  | histogram => "histogram".toList
  | counter => "counter".toList
  | gauge => "gauge".toList

structure MetricFamily where
  name : Text
  help : Text
  kind : MetricKind
  samples : List Sample

namespace Exposition

def positiveLayout : NumberLayout := ⟨-4, 5, 2⟩

def number : Binary64 → Text
  | .nan => "NaN".toList
  | .infinite negative => if negative then "-Inf".toList else "+Inf".toList
  | .finite true quanta => NumberLayout.literal.writeFinite true quanta
  | .finite false quanta => positiveLayout.writeFinite false quanta

def escape (c : Char) : Text :=
  if c = '\\' then ['\\', '\\'] else if c = '"' then ['\\', '"'] else if c = '\n' then ['\\', 'n']
  else [c]

def label (entry : Text × Text) : Text := entry.1 ++ '=' :: '"' :: (entry.2.flatMap escape ++ ['"'])

def isNameChar (first : Bool) (c : Char) : Bool :=
  c.isAlpha || c == '_' || c == ':' || (!first && c.isDigit)

def metricName (name : Text) : Text :=
  name.zipIdx.map fun (c, i) => if isNameChar (i == 0) c then c else '_'

def sampleLine (sample : Sample) : Text :=
  metricName sample.name ++
    (if sample.labels.isEmpty then []
     else '\x7b' :: (Text.join [','] (sample.labels.sorted.map label) ++ ['\x7d'])) ++
    ' ' :: number sample.value

def familyLines (family : MetricFamily) : List Text :=
  let name := metricName family.name
  ("# HELP ".toList ++ name ++ ' ' :: family.help) ::
    ("# TYPE ".toList ++ name ++ ' ' :: family.kind.name) ::
    family.samples.map sampleLine

def lines (families : List MetricFamily) : List Text := families.flatMap familyLines

def contentType : Text := "text/plain; version=1.0.0; charset=utf-8".toList

end Exposition
end Concordance
