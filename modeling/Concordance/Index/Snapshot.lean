import Concordance.Analysis.Token
import Concordance.Document
import Concordance.Failure

/-! Snapshots: a collection of documents with a summary of each and the inverted index of their
words. A snapshot keeps the documents, not their text; the text is asked for whenever it is
needed. -/
namespace Concordance

structure Summary where
  docId : Nat
  wordCount : Nat
  firstWords : Text
  textLength : Nat
deriving DecidableEq, Inhabited, Repr

structure Snapshot where
  plan : FieldPlan
  documents : List Document
  summaries : List Summary
  entries : List (Text × List Nat)
deriving Inhabited

inductive IndexError where
  | notACollection (typeName : Text)
  | unsupported (document : Option Int) (typeName : Text)
  | extraction (document : Nat) (reason : Text)
  | notText (document : Nat) (typeName : Text)
deriving DecidableEq, Inhabited, Repr

namespace IndexError

def documentId? : IndexError → Option Int
  | notACollection _ => none
  | unsupported document _ => document
  | extraction document _ | notText document _ => some document

def cause : IndexError → Text
  | notACollection typeName =>
    "documents must be an iterable collection, got '".toList ++ typeName ++ ['\'']
  | unsupported _ typeName => "unsupported document type '".toList ++ typeName ++ ['\'']
  | extraction _ reason => "failed to extract searchable text: ".toList ++ reason
  | notText _ typeName => "searchable text must be a string, got '".toList ++ typeName ++ ['\'']

def message (e : IndexError) : Text :=
  match e.documentId? with
  | none => e.cause
  | some document => "document ".toList ++ Text.ofInt document ++ ':' :: ' ' :: e.cause

end IndexError

namespace Document

def read (document : Option Int) (value : Value) : Except IndexError Document :=
  match ofValue? value with
  | some d => .ok d
  | none => .error (.unsupported document value.typeName)

/-- The text under which a document is indexed: lower case, without blanks at its ends. -/
def indexedText (plan : FieldPlan) (id : Nat) (d : Document) : Except IndexError Text :=
  match d.given plan with
  | .error reason => .error (.extraction id reason)
  | .ok .null => .ok []
  | .ok (.text t) => .ok (Text.trim (Text.lower t))
  | .ok value => .error (.notText id value.typeName)

end Document

namespace Snapshot

/-- The number of the document at a place, which counts from the end if it is negative. -/
def numberAt? (snapshot : Snapshot) (place : Int) : Option Nat :=
  let n := if place < 0 then snapshot.documents.length + place else place
  if 0 ≤ n && n < snapshot.documents.length then some n.toNat else none

def summarize (prefixWords id : Nat) (t : Text) : Summary :=
  let parts := Text.parts t
  { docId := id, wordCount := parts.length,
    firstWords := Text.join [' '] (parts.take prefixWords), textLength := t.length }

def indexableWords (minLength : Nat) (t : Text) : List Text :=
  (Text.distinctWords t).filter fun w => minLength ≤ w.length

def invert (documents : List (List Text)) : List (Text × List Nat) :=
  (documents.flatten.eraseDups.mergeSort Text.precedes).map fun word =>
    (word, (documents.zipIdx.filter fun d => d.1.contains word).map (·.2))

def enroll (plan : FieldPlan) (value : Value) (id : Nat) : Except IndexError (Document × Text) := do
  let document ← Document.read (some id) value
  pure (document, ← document.indexedText plan id)

/-- Enrolls values in order; the first that is refused refuses them all. -/
def enrollAll (plan : FieldPlan) (next : Nat) :
    List Value → Except IndexError (List (Document × Text))
  | [] => .ok []
  | value :: rest => do
    let document ← enroll plan value next
    pure (document :: (← enrollAll plan (next + 1) rest))

def ofTexts (s : Settings) (documents : List (Document × Text)) : Snapshot :=
  { plan := s.fieldPlan
    documents := documents.map (·.1)
    summaries := documents.zipIdx.map fun (d, id) => summarize s.summaryPrefixWords id d.2
    entries := invert (documents.map fun d => indexableWords s.minIndexedWordLength d.2) }

def build (s : Settings) (values : List Value) : Except IndexError Snapshot :=
  (enrollAll s.fieldPlan 0 values).map (ofTexts s)

def empty (s : Settings) : Snapshot :=
  { plan := s.fieldPlan, documents := [], summaries := [], entries := [] }

def size (snapshot : Snapshot) : Nat := snapshot.documents.length

def isReady (snapshot : Snapshot) : Bool := !snapshot.documents.isEmpty

def docIds (snapshot : Snapshot) : List Nat := List.range snapshot.size

def vocabulary (snapshot : Snapshot) : List Text := snapshot.entries.map (·.1)

def postings (snapshot : Snapshot) (word : Text) : List Nat :=
  (snapshot.entries.lookup word).getD []

/-- The indexed words that begin with a text. They stand together from the place of the text on. -/
def wordsWithPrefix (snapshot : Snapshot) (start : Text) : List Text :=
  let words := snapshot.vocabulary.toArray
  let place := Text.placeAmong words start 0 words.size (Nat.le_refl _)
  (snapshot.vocabulary.drop place).takeWhile start.isPrefixOf

/-- What a document gives as its text now, an empty text if that is nothing. -/
def currentText (snapshot : Snapshot) (id : Nat) : Except Failure Value :=
  match snapshot.documents[id]? with
  | none => .ok (.text [])
  | some d =>
    match d.given snapshot.plan with
    | .error reason => .error (.extraction reason)
    | .ok value => .ok (if value.isTruthy then value else .text [])

def shownText (snapshot : Snapshot) (id : Nat) : Except Failure Text := do
  match ← snapshot.currentText id with
  | .text t => pure t
  | value => throw (.unshowableText value.fullTypeName)

/-- The text of a document as words are looked for in it: lower case, without blanks at its
ends. -/
def normalizedText (snapshot : Snapshot) (id : Nat) : Except Failure Text := do
  match ← snapshot.currentText id with
  | .text t => pure (Text.trim (Text.lower t))
  | value => throw (.unreadableText value.fullTypeName)

end Snapshot
end Concordance
