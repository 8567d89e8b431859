import Concordance.Log.Context
import Concordance.Raised
import Concordance.Trace.Attribute

/-! Spans: named stretches of work with attributes, one inside the other. A tracer knows the spans
that are open and those that have finished; while a span is open, its fields are stamped on log
records. A tracer that does not record opens spans only for the sake of those fields. -/
namespace Concordance

inductive SpanStatus where
  | unset
  | error (description : Text)
deriving DecidableEq, Inhabited, Repr

structure Span where
  name : Text
  parent : Option Text := none
  attributes : Fields := []
  status : SpanStatus := .unset
  events : List Raised := []
deriving Inhabited

namespace Span

def maxAttributes : Nat := 128

def setAttributes (span : Span) (attributes : Fields) : Span :=
  { span with attributes := Attribute.putLatest maxAttributes span.attributes attributes }

def setAttribute (span : Span) (name : Text) (value : Value) : Span :=
  span.setAttributes [(name, value)]

def fail (span : Span) (description : Text) : Span := { span with status := .error description }

end Span

structure Tracer where
  records : Bool := true
  current : List Span := []
  finished : List Span := []
  context : LogContext := {}
deriving Inhabited

namespace Tracer

/-- The fields that say which span is open. Their values are drawn by chance, so here they only say
that it is the current one. -/
def identity : Fields :=
  [("trace_id".toList, .text "current".toList), ("span_id".toList, .text "current".toList)]

def enter (t : Tracer) (name : Text) (attributes logFields : Fields) : Tracer :=
  let span : Span := { name, parent := t.current.head?.map (·.name) }
  { t with
    current := span.setAttributes attributes :: t.current
    context := t.context.bind (if t.records then logFields.putAll identity else logFields) }

def change (t : Tracer) (f : Span → Span) : Tracer :=
  match t.current with
  | [] => t
  | span :: outer => { t with current := f span :: outer }

def pass (t : Tracer) (r : Raised) : Tracer :=
  t.change fun span => { span.fail r.message with events := span.events ++ [r] }

def leave (t : Tracer) : Tracer :=
  match t.current with
  | [] => t
  | span :: outer =>
    { t with current := outer, context := t.context.reset
             finished := if t.records then t.finished ++ [span] else t.finished }

end Tracer
end Concordance
