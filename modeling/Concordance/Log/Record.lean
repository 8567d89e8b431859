import Concordance.Calendar.Timestamp
import Concordance.Json.Writing
import Concordance.Log.Context
import Concordance.Log.ExceptionInfo
import Concordance.Log.Filling
import Concordance.Log.Level

/-! Log records and the JSON line that shows one: time, level, logger and message first, then the
fields of the context, an exception, and whatever else was set on the record. Credentials are
masked and long texts clipped. -/
namespace Concordance

structure LogRecord where
  name : Value
  level : Value
  message : Value
  arguments : Placeholder.Supply
  created : Value
  exception : Option ExceptionInfo := none
  extras : Fields := []
  obstacle : Option Value := none

inductive LineError where
  | timestamp (e : TimestampError)
  | notATime (typeName : Text)
  | noMessage (typeName : Text)
  | message (e : Placeholder.Error)
  | exception (e : ExceptionInfo.Error)
  | json (e : Json.WriteError)
deriving DecidableEq, Repr

def LineError.text : LineError → Text
  | timestamp e => e.message
  | notATime typeName =>
    '\'' :: typeName ++ "' object cannot be interpreted as an integer".toList
  | noMessage typeName => '\'' :: typeName ++ "' object is not callable".toList
  | message e => e.message
  | exception e => e.message
  | json e => e.message

namespace LogRecord

def maxMessageLength : Nat := 2000
def maxValueLength : Nat := 500

def credentials : List Text :=
  ["password", "token", "api_key", "secret", "authorization"].map String.toList

def mask : Value := .text "[REDACTED]".toList

def standardAttributes : List Text :=
  ["name", "msg", "args", "levelname", "levelno", "pathname", "filename", "module", "exc_info",
   "exc_text", "stack_info", "lineno", "funcName", "created", "msecs", "relativeCreated", "thread",
   "threadName", "processName", "process", "message", "asctime"].map String.toList

def ofMessage (name : Text) (level : Int) (message : Text) (arguments : List Value)
    (created : Value) : LogRecord :=
  { name := .text name, level := .text (Level.name level), message := .text message
    arguments := .ofArguments arguments, created }

def isLookedUp : Value → Bool
  | .map _ | .table _ | .list _ => true
  | _ => false

def supplyOf (value : Value) : Placeholder.Supply :=
  if value.isTruthy then
    { waiting := [value], mapping := if isLookedUp value then some value else none
      spare := isLookedUp value }
  else { waiting := [] }

/-- Sets an attribute. Those that the line is made of change the record, other standard ones do
nothing to it, and all others are extras. -/
def set (r : LogRecord) (name : Text) (value : Value) : LogRecord :=
  if name = "name".toList then { r with name := value }
  else if name = "levelname".toList then { r with level := value }
  else if name = "msg".toList then { r with message := value }
  else if name = "args".toList then { r with arguments := supplyOf value }
  else if name = "created".toList then { r with created := value }
  else if name = "exc_info".toList then
    { r with exception := if value.isTruthy then some (.value value) else none }
  else if name = "getMessage".toList then { r with obstacle := some value }
  else if standardAttributes.contains name then r
  else { r with extras := r.extras.put name value }

def text (r : LogRecord) : Except LineError Placeholder.Filled :=
  match r.obstacle with
  | some value => .error (.noMessage value.fullTypeName)
  | none =>
    if r.arguments.waiting.isEmpty then .ok (.ofText r.message.display)
    else (Placeholder.format maxMessageLength r.message.display r.arguments).mapError .message

/-- A message cut to its greatest length, if it consists of characters then. -/
def clipped? (message : Placeholder.Filled) : Option Text :=
  (if message.length ≤ maxMessageLength then message
   else message.take maxMessageLength ++ .ofText ['.', '.', '.']).mapM id

def moment (r : LogRecord) : Except LineError Moment :=
  match r.created.quantity? with
  | some q => (Moment.ofTimestamp q).mapError .timestamp
  | none => .error (.notATime r.created.fullTypeName)

def shown (name : Text) (value : Value) : Value :=
  if credentials.contains (Text.lower name) then mask
  else match value with
    | .text t => .text (Text.clip maxValueLength t)
    | _ => value

def shownExtras (r : LogRecord) : Fields :=
  (r.extras.filter fun (name, _) => name.head? != some '_').map fun (name, value) =>
    (name, shown name value)

def heading (r : LogRecord) (moment : Moment) : Fields :=
  [("timestamp".toList, .text (moment.text 'T')), ("level".toList, r.level),
   ("logger".toList, r.name)]

def messageKey : Text := "message".toList

/-- The fields of the context, an exception and the extras, put behind others. A name given again
keeps its place and gets the later value. -/
def withDetails (r : LogRecord) (context fields : Fields) : Except LineError Fields := do
  let exception ← r.exception.mapM fun e => e.text.mapError .exception
  let shown : Fields := (exception.map fun t => ("exception".toList, Value.text t)).toList
  pure (((fields.putAll context).putAll shown).putAll r.shownExtras)

/-- All fields of a line. A message that does not consist of characters counts only if the context
does not replace it, and then only once all in front of it can be written. -/
def entry (r : LogRecord) (context : Fields) : Except LineError Fields := do
  let moment ← r.moment
  let message ← r.text
  let fields (text : Text) := r.heading moment ++ [(messageKey, .text text)]
  match clipped? message with
  | some text => r.withDetails context (fields text)
  | none =>
    let all ← r.withDetails context (fields [])
    if (context.get? messageKey).isSome then pure all
    else
      let front := all.takeWhile fun (name, _) => name != messageKey
      discard ((Json.write (.map front)).mapError .json)
      throw (.json .notCharacters)

def line (r : LogRecord) (context : Fields) : Except LineError Text := do
  (Json.write (.map (← r.entry context))).mapError .json

end LogRecord
end Concordance
