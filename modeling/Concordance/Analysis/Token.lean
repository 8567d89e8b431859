import Concordance.Text.Basic
import Concordance.Unicode.Alphanumeric

/-! Tokens: the words of a text with their places in it. A word is a maximal run of letters,
numbers, apostrophes and hyphens; the standard analysis puts it into lower case and takes
apostrophes and hyphens off its ends. -/
namespace Concordance

structure Token where
  text : Text
  position : Nat
  start : Nat
  stop : Nat
deriving DecidableEq, Inhabited, Repr

def isWordPart (c : Char) : Bool := Unicode.isAlphanumeric c || c == '\'' || c == '-'

namespace Token

def ofRun (run : List (Char × Nat)) : Token :=
  let start := (run.head?.map (·.2)).getD 0
  { text := run.map (·.1), position := 0, start, stop := start + run.length }

def renumber (tokens : List Token) : List Token :=
  tokens.zipIdx.map fun (token, i) => { token with position := i }

def scan (t : Text) : List Token :=
  renumber ((runs (fun c => isWordPart c.1) t.zipIdx).map ofRun)

end Token

inductive TokenFilter where
  | lowercase
  | edges (characters : Text)
deriving DecidableEq, Repr

namespace TokenFilter

def stripEdges (characters : Text) (token : Token) : Option Token :=
  let stripped := Text.trimBy characters.contains token.text
  if stripped.isEmpty then none
  else if stripped = token.text then some token
  else
    let kept := token.text.dropWhile characters.contains
    let start := token.start + (token.text.length - kept.length)
    some { token with text := stripped, start, stop := start + stripped.length }

def run : TokenFilter → List Token → List Token
  | lowercase, tokens => tokens.map fun token => { token with text := Text.lower token.text }
  | edges characters, tokens => tokens.filterMap (stripEdges characters)

end TokenFilter

structure Analyzer where
  filters : List TokenFilter

namespace Analyzer

def standard : Analyzer := ⟨[.lowercase, .edges ['\'', '-']]⟩

def tokens (analyzer : Analyzer) (t : Text) : List Token :=
  Token.renumber (analyzer.filters.foldl (fun tokens filter => filter.run tokens) (Token.scan t))

end Analyzer

namespace Text

def words (t : Text) : List Text := (Analyzer.standard.tokens t).map (·.text)

def distinctWords (t : Text) : List Text := (words t).eraseDups

end Text
end Concordance
