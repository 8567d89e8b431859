import Concordance.Text.Basic

/-! Marking words in a text. The words take their turn; each is looked for, in whatever case, in
what the words before it have left unmarked. -/
namespace Concordance

structure Segment where
  text : Text
  marked : Bool
deriving DecidableEq, Inhabited, Repr

namespace Highlight

def plain (t : Text) : List Segment := if t.isEmpty then [] else [⟨t, false⟩]

/-- Cuts the rest of a text, which begins at `cursor`, into marked stretches of a length at the
given offsets and what lies between them. -/
def cut (length cursor : Nat) : List Nat → Text → List Segment
  | [], rest => plain rest
  | offset :: more, rest =>
    let gap := offset - cursor
    plain (rest.take gap) ++ ⟨(rest.drop gap).take length, true⟩ ::
      cut length (offset + length) more (rest.drop (gap + length))

def occurrences (word t : Text) : List Nat :=
  Text.occurrences (word.map Unicode.foldCase) (t.map Unicode.foldCase)

def mark (word : Text) (segment : Segment) : List Segment :=
  if segment.marked then [segment]
  else cut word.length 0 (occurrences word segment.text) segment.text

def segments (t : Text) (words : List Text) : List Segment :=
  (words.filter (!·.isEmpty)).foldl (fun segments word => segments.flatMap (mark word)) (plain t)

def markers (cssClass : Text) : Text × Text :=
  ("<mark class=\"".toList ++ cssClass ++ "\">".toList, "</mark>".toList)

def render (cssClass : Text) (segments : List Segment) : Text :=
  let (opening, closing) := markers cssClass
  segments.flatMap fun s => if s.marked then opening ++ s.text ++ closing else s.text

def apply (cssClass t : Text) (words : List Text) : Text := render cssClass (segments t words)

end Highlight
end Concordance
