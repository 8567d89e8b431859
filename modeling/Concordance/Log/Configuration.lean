import Concordance.Log.Record
import Concordance.Series
import Concordance.Settings

/-! What is logged, and how. Loggers form a tree by the points in their names; a logger without a
level of its own takes that of the closest one above it, at last that of the root. -/
namespace Concordance

structure LogConfiguration where
  rootLevel : Int
  json : Bool
  levels : Series Text Int := []

namespace LogConfiguration

def isRoot (name : Text) : Bool := name.isEmpty || name == "root".toList

def assign (c : LogConfiguration) (name : Text) (level : Int) : LogConfiguration :=
  if isRoot name then { c with rootLevel := level }
  else { c with levels := c.levels.adjust Level.unset name fun _ => level }

def ofNames (level : Text) (json : Bool) (levels : List (Text × Text)) :
    Except Level.Error LogConfiguration := do
  let rootLevel ← Level.ofText level
  levels.foldlM (fun c (name, level) => do pure (c.assign name (← Level.ofText level)))
    { rootLevel, json }

def ofSettings (s : Settings) : Except Level.Error LogConfiguration :=
  ofNames s.logLevel s.logJson []

def ownLevel (c : LogConfiguration) (name : Text) : Int :=
  if isRoot name then c.rootLevel else Series.value Level.unset c.levels name

/-- The loggers above one whose name is given in reverse, the closest first. The part of a name in
front of a point ends it, so a point right in front of that one is passed over, unless a logger is
named with it. -/
def above (isLogger : Text → Bool) : Text → List Text
  | [] => []
  | c :: rest =>
    if c = '.' && !rest.isEmpty then
      rest.reverse :: above isLogger (if isLogger rest.reverse then rest else rest.drop 1)
    else above isLogger rest
termination_by t => t.length
decreasing_by
  · have shorter : (rest.drop 1).length ≤ rest.length := by simp
    split <;> (simp only [List.length_cons]; omega)
  · simp

def effectiveLevel (c : LogConfiguration) (name : Text) : Int :=
  let isLogger (t : Text) : Bool := c.levels.any (·.1 == t)
  ((name :: above isLogger name.reverse).map c.ownLevel).find? (· != Level.unset)
    |>.getD c.rootLevel

/-- Whether a record is shown. Records of no positive level never are. -/
def shows (c : LogConfiguration) (name : Text) (level : Int) : Bool :=
  0 < level && c.effectiveLevel name ≤ level

inductive Shown where
  | fields (entry : Fields)
  | line (t : Text)

def render (c : LogConfiguration) (name : Text) (level : Int) (message : Text) :
    Except LineError Shown := do
  let logger := if isRoot name then "root".toList else name
  if c.json then
    let record := LogRecord.ofMessage logger level message [] (.int 0)
    pure (.fields ((← record.entry []).erase "timestamp".toList))
  else
    pure (.line (Level.name level ++ ' ' :: '[' :: logger ++ ']' :: ' ' :: message))

end LogConfiguration
end Concordance
