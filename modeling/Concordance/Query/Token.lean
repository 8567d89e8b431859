import Concordance.Text.Basic

/-! Boolean queries. A query is a list of tokens: plain terms, quoted phrases, terms that a plus
sign requires or a minus sign excludes, and the operator words. Every text can be read as a query;
what is malformed is read as well as possible. -/
namespace Concordance

inductive Connective where
  | and | or | not
deriving DecidableEq, Inhabited, Repr

namespace Connective

def word : Connective → Text
  | and => ['A', 'N', 'D']
  | or => ['O', 'R']
  | not => ['N', 'O', 'T']

def all : List Connective := [and, or, not]

def ofWord? (w : Text) : Option Connective := all.find? fun c => c.word == w

/-- The connective that a word spells in whatever case. Operator words are ASCII, and no other
letter has one of their capitals. -/
def ofAnyCase? (w : Text) : Option Connective := ofWord? (w.map Char.toUpper)

end Connective

inductive TokenKind where
  | term | phrase | required | excluded | operator
deriving DecidableEq, Inhabited, Repr

namespace TokenKind

def name : TokenKind → Text
  | term => "term".toList
  | phrase => "phrase".toList
  | required => "required".toList
  | excluded => "excluded".toList
  | operator => "operator".toList

def all : List TokenKind := [term, phrase, required, excluded, operator]

def ofName? (t : Text) : Option TokenKind := all.find? fun kind => kind.name == t

end TokenKind

structure QueryToken where
  kind : TokenKind
  value : Text
deriving DecidableEq, Inhabited, Repr

namespace QueryToken

open Unicode

def isPositive (token : QueryToken) : Bool :=
  match token.kind with
  | .term | .phrase | .required => true
  | .excluded | .operator => false

def ofWord (w : Text) : QueryToken :=
  match Connective.ofAnyCase? w with
  | some connective => ⟨.operator, connective.word⟩
  | none => ⟨.term, w⟩

def unlessEmpty (kind : TokenKind) (value : Text) : List QueryToken :=
  if value.isEmpty then [] else [⟨kind, value⟩]

def modifier? (c : Char) : Option TokenKind :=
  if c = '+' then some .required else if c = '-' then some .excluded else none

def isQuote (c : Char) : Bool := c == '"'

def continuesWord (c : Char) : Bool := !isBlank c && !isQuote c

/-- Reads a text as a query. A quote begins a phrase up to the next quote or the end; a sign at the
beginning of a word takes all up to the next blank, without quotes at its ends; any other word
ends at a blank or a quote. -/
def parse : Text → List QueryToken
  | [] => []
  | c :: rest =>
    if isQuote c then
      unlessEmpty .phrase (Text.trim (rest.takeWhile (!isQuote ·))) ++
        parse ((rest.dropWhile (!isQuote ·)).drop 1)
    else if isBlank c then parse rest
    else match modifier? c with
      | some kind =>
        unlessEmpty kind (Text.trimBy isQuote (rest.takeWhile (!isBlank ·))) ++
          parse (rest.dropWhile (!isBlank ·))
      | none => ofWord (c :: rest.takeWhile continuesWord) :: parse (rest.dropWhile continuesWord)
termination_by t => t.length
decreasing_by
  all_goals
    have quoted := (List.dropWhile_suffix (!isQuote ·) (l := rest)).length_le
    have signed := (List.dropWhile_suffix (!isBlank ·) (l := rest)).length_le
    have plain := (List.dropWhile_suffix continuesWord (l := rest)).length_le
    simp only [List.length_cons, List.length_drop]
    omega

def opensWith (w upper : Text) : Bool :=
  w.isPrefixOf upper && (upper.drop w.length).head?.any isBlank

/-- Whether a text is meant as a boolean query: it has a sign or a quote, an operator word between
plain spaces, or one at its very beginning before a blank. -/
def isBoolean (t : Text) : Bool :=
  let upper := t.map Char.toUpper
  t.any (fun c => c == '+' || c == '-' || isQuote c) ||
    Connective.all.any (fun c => Text.occursIn (' ' :: (c.word ++ [' '])) upper) ||
    Connective.all.any (fun c => opensWith c.word upper)

def highlights (token : QueryToken) : List Text :=
  let value := Text.trim (Text.trimBy isQuote (Text.trim token.value))
  if !token.isPositive || value.isEmpty then [] else value :: Text.parts value

def highlightTerms (tokens : List QueryToken) : List Text := (tokens.flatMap highlights).eraseDups

end QueryToken
end Concordance
