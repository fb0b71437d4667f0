import CommandShell.Markup.Reference
import CommandShell.Pattern.Span

/-! # Marked text

A marked text is written text in which some stretches stand between an opening and a closing mark.
`highlight` marks the matches of a pattern, `strip` gives the text without marks, and `render` puts
delimiters in their place. -/

namespace CommandShell.Markup

open Pattern (Span Tree)

/-- A stretch of a text, marked or not. -/
structure Piece where
  marked : Bool
  text : List Char
deriving DecidableEq, Repr

/-- A text cut at the ends of spans, from a place on. -/
def piecesFrom (start : Nat) (text : List Char) : List Span → List Piece
  | [] => [⟨false, text⟩]
  | s :: spans =>
    let rest := text.drop (s.start - start)
    ⟨false, text.take (s.start - start)⟩ :: ⟨true, rest.take (s.stop - s.start)⟩
      :: piecesFrom s.stop (rest.drop (s.stop - s.start)) spans

/-- The pieces of a text in which the matches that are not empty are marked. -/
def pieces (text : List Char) (spans : List Span) : List Piece :=
  piecesFrom 0 text (spans.filter (!·.isEmpty))

def openMark : List Char := ['<', 'm', 'a', 'r', 'k', '>']

def closeMark : List Char := ['<', '/', 'm', 'a', 'r', 'k', '>']

/-- How a piece is written. -/
def Piece.written (p : Piece) : List Char :=
  if p.marked then openMark ++ Reference.encode p.text ++ closeMark else Reference.encode p.text

/-- The marked text of pieces. -/
def ofPieces (ps : List Piece) : List Char := ps.flatMap Piece.written

/-- Marks the matches of a pattern in a text. -/
def highlight (pattern : Tree) (text : List Char) : List Char :=
  ofPieces (pieces text (pattern.spans text))

/-- Puts delimiters in the place of the marks. The characters of a mark that has been replaced are
counted down. -/
def replaceMarks (opening closing : List Char) : Nat → List Char → List Char
  | _, [] => []
  | n + 1, _ :: cs => replaceMarks opening closing n cs
  | 0, c :: cs =>
    if openMark.isPrefixOf (c :: cs) then
      opening ++ replaceMarks opening closing (openMark.length - 1) cs
    else if closeMark.isPrefixOf (c :: cs) then
      closing ++ replaceMarks opening closing (closeMark.length - 1) cs
    else c :: replaceMarks opening closing 0 cs

/-- The text with delimiters around what is marked. -/
def render (opening closing content : List Char) : Except Numeral.Fault (List Char) :=
  Reference.decode (replaceMarks opening closing 0 content)

/-- The text without marks. -/
def strip (content : List Char) : Except Numeral.Fault (List Char) := render [] [] content

/-- The delimiters in a text for reading. -/
def brackets : List Char × List Char := (['['], [']'])

end CommandShell.Markup
