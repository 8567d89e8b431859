import Concordance.Text.Quoted

/-! Levels of log records: integers, some of which have names. -/
namespace Concordance.Level

def debug : Int := 10
def info : Int := 20
def warning : Int := 30
def error : Int := 40
def critical : Int := 50

def unset : Int := 0

def name (level : Int) : Text :=
  if level = debug then "DEBUG".toList
  else if level = info then "INFO".toList
  else if level = warning then "WARNING".toList
  else if level = error then "ERROR".toList
  else if level = critical then "CRITICAL".toList
  else if level = unset then "NOTSET".toList
  else "Level ".toList ++ Text.ofInt level

def known : List (Text × Int) :=
  [("DEBUG", debug), ("INFO", info), ("WARN", warning), ("WARNING", warning), ("ERROR", error),
   ("CRITICAL", critical), ("FATAL", critical), ("NOTSET", unset)].map fun entry =>
    (entry.1.toList, entry.2)

/-- The capital of a letter. Besides ASCII only two letters have a capital that level names are
written with. -/
def capital (c : Char) : Char := if c = 'ı' then 'I' else if c = 'ſ' then 'S' else c.toUpper

/-- The name of the format of lines. It is looked up like the names of levels, but is none. -/
def formatName : Text := "BASIC_FORMAT".toList

def lineFormat : Text := "%(levelname)s:%(name)s:%(message)s".toList

inductive Error where
  | notALevel (meaning : Text)
deriving DecidableEq, Repr

def Error.message : Error → Text
  | notALevel meaning => "Unknown level: ".toList ++ Text.quoted meaning

def ofText (t : Text) : Except Error Int :=
  let name := t.map capital
  if name = formatName then .error (.notALevel lineFormat) else .ok ((known.lookup name).getD info)

end Concordance.Level
