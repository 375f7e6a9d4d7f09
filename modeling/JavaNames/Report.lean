import JavaNames.Diagnostic
import JavaNames.Report.Paragraph

/-!
# Reports

A report lays a diagnostic out for a reader: a code, the message, the text with the faulty place marked
under it, and advice if there is some. The mark is a line under the place with a stem in its middle,
from which a label hangs; an empty place is marked by a point. Messages and advice are paragraphs.

Directly after its last byte a text has room for one more, where its end is found. A place that begins
there is not marked. A place that begins in the text and goes on to that byte does not end on its line,
and an arrow in front of the line shows so. A place that goes on beyond it cannot be shown.

Diagnostics are not laid out by what makes them, but by a third-party library, which is no part of the
theory of names. The definitions here stand for that library, and only for texts of one line whose
characters take one column and one byte each: it treats other texts in ways that are not given here. They
are there so that whole reports can be written; no theorem is about them.
-/

namespace JavaNames

namespace Diagnostic

/-- The code of all reports. -/
def code : String :=
  "jls::parse"

/-- What stands under the marked place. -/
def label : String :=
  "here"

end Diagnostic

namespace Report

/-! ## Paragraphs -/

/-- The number of columns that a line of a paragraph takes at most. -/
def columns : Nat :=
  98

/-- The lines of a paragraph, with `first` in front of the first line and `rest`, which is as wide, in
front of the others. -/
def paragraph (first rest : String) (t : String) : List String :=
  match wrap (columns - first.length) t.toList with
  | [] => []
  | l :: ls => (first ++ String.ofList l) :: ls.map (rest ++ String.ofList ·)

/-- The lines of a message. -/
def messageLines (message : String) : List String :=
  paragraph "  × " "  │ " message

/-- The lines of an advice. -/
def hintLines (hint : String) : List String :=
  paragraph "  help: " "        " hint

/-! ## The text -/

/-- A number of blanks. -/
def indent (n : Nat) : String :=
  String.ofList (List.replicate n ' ')

/-- The mark under a place of `n` columns. -/
def underline : Nat → String
  | 0 => "▲"
  | n + 1 =>
    let before := (n + 1) / 2
    String.ofList (List.replicate before '─' ++ '┬' :: List.replicate (n - before) '─')

/-- The two lines under the text: the mark, and the label under its stem. -/
def markLines (start length : Nat) : List String :=
  ["   · " ++ indent start ++ underline length,
   "   · " ++ indent (start + length / 2) ++ "╰── " ++ Diagnostic.label]

/-- The line of the text, with an arrow in front of it if the marked place does not end there. -/
def textLine (input : Text) (goesOn : Bool) : String :=
  " 1 │ " ++ (if goesOn then "╭─▶ " else "") ++ String.ofList input

/-- The text, with the place that is marked in it. -/
def snippet (input : Text) (start length : Nat) : List String :=
  let size := byteLength input
  if size < start ∨ size + 1 < start + length then
    ["  [Failed to read contents for label `" ++ Diagnostic.label ++ "` (offset: " ++ toString start ++
      ", length: " ++ toString length ++ "): OutOfBounds]"]
  else
    let inText := decide (start < size)
    let goesOn := inText && decide (size < start + length)
    ["   ╭────"] ++
    (if input.isEmpty then [] else [textLine input goesOn]) ++
    (if inText && !goesOn then markLines start length else []) ++
    ["   ╰────"]

/-! ## Reports -/

/-- The lines of the report of a diagnostic. -/
def lines (d : Diagnostic) : List String :=
  [Diagnostic.code, ""] ++
  messageLines d.display ++
  snippet d.input d.span.start d.span.length ++
  (match d.hint? with
    | some hint => hintLines hint
    | none => [])

end Report

end JavaNames
