import Concordance.Json.Reading
import Concordance.Validation

/-! Settings of an engine, and how they are read: from given values first, then from environment
variables, else the default. -/
namespace Concordance

structure Settings where
  minQueryLength : Nat := 1
  defaultFuzzy : Bool := true
  highlightClass : Text := "fast-highlight".toList
  exactWordWeight : Nat := 30
  prefixWordWeight : Nat := 20
  substringWeight : Nat := 15
  multiWordBonus : Nat := 10
  exactPhraseBonus : Nat := 50
  leadingWordsBonus : Nat := 30
  positionBonusMax : Nat := 25
  positionBonusStep : Nat := 20
  longDocumentWords : Nat := 100
  longDocumentPenalty : Binary64 := .ofRatio 9 10
  fuzzyDiscount : Binary64 := .ofRatio 8 10
  summaryPrefixWords : Nat := 5
  minIndexedWordLength : Nat := 2
  minPrefixLength : Nat := 2
  minFuzzyLength : Nat := 3
  primaryField : Text := "text".toList
  secondaryFields : List Text :=
    ["title", "content", "description", "summary", "name"].map String.toList
  excludedFields : List Text :=
    ["x", "y", "index", "cluster", "doc_id", "chunk_id"].map String.toList
  maxExtraFieldLength : Nat := 500
  logLevel : Text := "info".toList
  logJson : Bool := true

inductive SettingsError where
  | invalid (issues : List Issue)
  | environment (field : Text)
deriving DecidableEq, Repr

def SettingsError.message : SettingsError → Text
  | invalid _ => []
  | environment field =>
    "error parsing value for field \"".toList ++ field ++
      "\" from source \"EnvSettingsSource\"".toList

namespace Settings

def knownFields (s : Settings) : List Text :=
  (s.primaryField :: (s.secondaryFields ++ s.excludedFields)).eraseDups

abbrev Reading := StateM (List Issue)

/-- The value given under a name: the first one whose name is the same in lower case. -/
def named? (given : Fields) (name : Text) : Option Value :=
  (given.find? fun entry => Text.lower entry.1 == name).map (·.2)

/-- Reads one setting. An issue is noted and the default stands in, so that all are found. -/
def setting {α : Type} (given : Fields) (name : String) (read : Value → Read α)
    (default : α) : Reading α := do
  match named? given name.toList with
  | none => pure default
  | some value =>
    match read value with
    | .ok x => pure x
    | .error issues =>
      modify (· ++ issues.map (Issue.under (.name name.toList)))
      pure default

def discount (value : Value) : Read Binary64 := do
  let x ← Read.real value
  Read.require (Binary64.le x (.ofNat 1)) .atMost
  Read.require (Binary64.lt .zero x) .above
  pure x

def readAll (given : Fields) : Reading Settings := do
  let d : Settings := {}
  let minQueryLength ← setting given "min_query_length" (Read.natural 1) d.minQueryLength
  let defaultFuzzy ← setting given "default_fuzzy" Read.truth d.defaultFuzzy
  let highlightClass ← setting given "highlight_class" Read.text d.highlightClass
  let exactWordWeight ← setting given "exact_word_weight" (Read.natural 0) d.exactWordWeight
  let prefixWordWeight ← setting given "prefix_word_weight" (Read.natural 0) d.prefixWordWeight
  let substringWeight ← setting given "substring_weight" (Read.natural 0) d.substringWeight
  let multiWordBonus ← setting given "multi_word_bonus" (Read.natural 0) d.multiWordBonus
  let exactPhraseBonus ← setting given "exact_phrase_bonus" (Read.natural 0) d.exactPhraseBonus
  let leadingWordsBonus ← setting given "leading_words_bonus" (Read.natural 0) d.leadingWordsBonus
  let positionBonusMax ← setting given "position_bonus_max" (Read.natural 0) d.positionBonusMax
  let positionBonusStep ← setting given "position_bonus_step" (Read.natural 1) d.positionBonusStep
  let longDocumentWords ← setting given "long_document_words" (Read.natural 1) d.longDocumentWords
  let longDocumentPenalty ← setting given "long_document_penalty" Read.real d.longDocumentPenalty
  let fuzzyDiscount ← setting given "fuzzy_discount" discount d.fuzzyDiscount
  let summaryPrefixWords ←
    setting given "summary_prefix_words" (Read.natural 1) d.summaryPrefixWords
  let minIndexedWordLength ←
    setting given "min_indexed_word_length" (Read.natural 1) d.minIndexedWordLength
  let minPrefixLength ← setting given "min_prefix_length" (Read.natural 1) d.minPrefixLength
  let minFuzzyLength ← setting given "min_fuzzy_length" (Read.natural 1) d.minFuzzyLength
  let primaryField ← setting given "primary_field" Read.text d.primaryField
  let secondaryFields ← setting given "secondary_fields" Read.texts d.secondaryFields
  let excludedFields ← setting given "excluded_fields" Read.texts d.excludedFields
  let maxExtraFieldLength ←
    setting given "max_extra_field_length" (Read.natural 1) d.maxExtraFieldLength
  let logLevel ← setting given "log_level" Read.text d.logLevel
  let logJson ← setting given "log_json" Read.truth d.logJson
  pure { minQueryLength, defaultFuzzy, highlightClass, exactWordWeight, prefixWordWeight,
         substringWeight, multiWordBonus, exactPhraseBonus, leadingWordsBonus, positionBonusMax,
         positionBonusStep, longDocumentWords, longDocumentPenalty, fuzzyDiscount,
         summaryPrefixWords, minIndexedWordLength, minPrefixLength, minFuzzyLength, primaryField,
         secondaryFields, excludedFields, maxExtraFieldLength, logLevel, logJson }

/-- Whether the penalty lies in the interval (0, 1]. It is looked at only if all else is right. -/
def penaltyInRange (s : Settings) : Bool :=
  Binary64.lt .zero s.longDocumentPenalty && Binary64.le s.longDocumentPenalty (.ofNat 1)

def ofFields (given : Fields) : Except SettingsError Settings :=
  match (readAll given).run [] with
  | (settings, []) =>
    if settings.penaltyInRange then .ok settings
    else .error (.invalid [⟨[], .penaltyRange⟩])
  | (_, issues) => .error (.invalid issues)

def toFields (s : Settings) : Fields :=
  let nat (n : Nat) : Value := .int n
  let texts (ts : List Text) : Value := .list (ts.map .text)
  ([("min_query_length", nat s.minQueryLength),
    ("default_fuzzy", .bool s.defaultFuzzy),
    ("highlight_class", .text s.highlightClass),
    ("exact_word_weight", nat s.exactWordWeight),
    ("prefix_word_weight", nat s.prefixWordWeight),
    ("substring_weight", nat s.substringWeight),
    ("multi_word_bonus", nat s.multiWordBonus),
    ("exact_phrase_bonus", nat s.exactPhraseBonus),
    ("leading_words_bonus", nat s.leadingWordsBonus),
    ("position_bonus_max", nat s.positionBonusMax),
    ("position_bonus_step", nat s.positionBonusStep),
    ("long_document_words", nat s.longDocumentWords),
    ("long_document_penalty", .real s.longDocumentPenalty),
    ("fuzzy_discount", .real s.fuzzyDiscount),
    ("summary_prefix_words", nat s.summaryPrefixWords),
    ("min_indexed_word_length", nat s.minIndexedWordLength),
    ("min_prefix_length", nat s.minPrefixLength),
    ("min_fuzzy_length", nat s.minFuzzyLength),
    ("primary_field", .text s.primaryField),
    ("secondary_fields", texts s.secondaryFields),
    ("excluded_fields", texts s.excludedFields),
    ("max_extra_field_length", nat s.maxExtraFieldLength),
    ("log_level", .text s.logLevel),
    ("log_json", .bool s.logJson)] : List (String × Value)).map
    fun (name, value) => (name.toList, value)

def isListSetting (name : Text) : Bool :=
  name == "secondary_fields".toList || name == "excluded_fields".toList

def variableValue (name content : Text) : Except SettingsError (Option Value) :=
  if isListSetting name then
    match Json.read? content with
    | none => .error (.environment name)
    | some .null => .ok none
    | some value => .ok (some value)
  else .ok (some (.text content))

/-- The variable of a setting: letter case does not matter, of two the last counts. -/
def contentOf? (environment : List (Text × Text)) (name : Text) : Option Text :=
  let wanted := "fast_search_".toList ++ name
  (environment.reverse.find? fun entry => Text.lower entry.1 == wanted).map (·.2)

def environmentFields (environment : List (Text × Text)) : Except SettingsError Fields :=
  ((toFields {}).map (·.1)).foldlM (fun fields name => do
    match contentOf? environment name with
    | none => pure fields
    | some content =>
      match ← variableValue name content with
      | none => pure fields
      | some value => pure (fields ++ [(name, value)])) []

/-- Settings from given values and an environment. A given value hides the variable. -/
def read (given : Fields) (environment : List (Text × Text)) : Except SettingsError Settings := do
  let found ← environmentFields environment
  ofFields (given ++ found.filter fun entry => (named? given entry.1).isNone)

end Settings
end Concordance
