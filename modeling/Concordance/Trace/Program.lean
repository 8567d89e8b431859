import Concordance.Trace.Span
import Concordance.Value.Requirement

/-! Programs of nested spans: what they open, what they see bound, what they raise and catch. -/
namespace Concordance

inductive Action where
  | span (name : Text) (attributes : Fields) (logFields : Value) (body : List Action)
  | observe
  | raise (r : Raised)
  | attempt (body : List Action)
  | forget
deriving Inhabited

inductive Sight where
  | fields (bound : Fields)
  | caught (r : Raised)

structure Run where
  tracer : Tracer
  seen : List Sight := []

namespace Action

mutual

/-- Runs one action; what it raises comes second. A span whose fields have names that are no texts
is finished at once. -/
def run (state : Run) : Action → Run × Option Raised
  | span name attributes logFields body =>
    match logFields.requireFields with
    | .error f =>
      let tracer := (state.tracer.enter name attributes []).leave
      ({ state with tracer }, some ⟨"TypeError".toList, f.message⟩)
    | .ok fields =>
      let (state, raised) :=
        runAll { state with tracer := state.tracer.enter name attributes fields } body
      let tracer := match raised with
        | some r => state.tracer.pass r
        | none => state.tracer
      ({ state with tracer := tracer.leave }, raised)
  | observe => ({ state with seen := state.seen ++ [.fields state.tracer.context.fields] }, none)
  | raise r => (state, some r)
  | attempt body =>
    match runAll state body with
    | (state, some r) => ({ state with seen := state.seen ++ [.caught r] }, none)
    | (state, none) => (state, none)
  | forget => (state, none)

def runAll (state : Run) : List Action → Run × Option Raised
  | [] => (state, none)
  | action :: rest =>
    match run state action with
    | (state, none) => runAll state rest
    | failed => failed

end

end Action

end Concordance
