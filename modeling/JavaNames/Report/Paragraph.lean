import JavaNames.Report.LineBreak
import JavaNames.Text

/-!
# Paragraphs

A paragraph is a text that is cut into lines of a limited width. The text is first cut wherever a line
can end; each piece is a word, or several that belong together, and the blanks after it (`pieces`). A
piece that is wider than a line is cut where the line ends. Lines are then filled from the first piece
on, each with as many pieces as it can hold (`fill`); the blanks at the end of a line are not written.

Every character takes one column. The definitions stand for what the third-party library does that lays
reports out, as far as such texts go; no theorem is about them.
-/

namespace JavaNames

/-- A part of a text that stays on one line, and the number of blanks that follow it. -/
structure Piece where
  word : Text
  blanks : Nat
  deriving DecidableEq, Repr

/-- A text followed by pieces, the first of which continues it. -/
def extendFirst (t : Text) (ps : List Piece) : List Piece :=
  ps.modifyHead fun p => { p with word := t ++ p.word }

/-- The pieces of a text that follows the characters `before` and `last` and some blanks. The first
piece continues the one that is open there. -/
def piecesFrom (before last : Option Char) (blanks : Nat) : Text → List Piece
  | [] => [⟨[], blanks⟩]
  | c :: cs =>
    if c = ' ' then piecesFrom before last (blanks + 1) cs
    else
      let rest := piecesFrom (if blanks = 0 then last else none) (some c) 0 cs
      if canBreak before last blanks c then ⟨[], blanks⟩ :: extendFirst [c] rest
      else extendFirst (List.replicate blanks ' ' ++ [c]) rest

/-- The pieces of a text. -/
def pieces (t : Text) : List Piece :=
  piecesFrom none none 0 t

/-- A piece in parts that are no wider than a line. -/
def Piece.narrow (width : Nat) (p : Piece) : List Piece :=
  if 0 < width ∧ width < p.word.length then
    ⟨p.word.take width, 0⟩ :: Piece.narrow width ⟨p.word.drop width, p.blanks⟩
  else [p]
termination_by p.word.length
decreasing_by
  simp only [List.length_drop]
  omega

/-- Lines filled with pieces, where `current` is what the first line holds. -/
def fill (width : Nat) (current : Piece) : List Piece → List Text
  | [] => [current.word]
  | p :: ps =>
    if current.word.length + current.blanks + p.word.length ≤ width then
      fill width ⟨current.word ++ List.replicate current.blanks ' ' ++ p.word, p.blanks⟩ ps
    else current.word :: fill width p ps

/-- The lines of a paragraph. -/
def wrap (width : Nat) (t : Text) : List Text :=
  match (pieces t).flatMap (Piece.narrow width) with
  | [] => [[]]
  | p :: ps => fill width p ps

end JavaNames
