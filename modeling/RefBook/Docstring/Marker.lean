import RefBook.Text.Group
import RefBook.Text.Split

/-! Texts whose fields start at a marker character in the first column. -/

namespace RefBook.Docstring

/-- Whether a line starts with the marker. -/
def isMarked (marker : Char) (line : List Char) : Bool := line.head? == some marker

/-- How many characters precede the first line that starts with the marker. -/
def markerOffsetIn? (marker : Char) : List (List Char) → Option Nat
  | [] => none
  | line :: rest =>
    if isMarked marker line then some 0
    else (markerOffsetIn? marker rest).map (line.length + 1 + ·)

def markerOffset? (marker : Char) (t : List Char) : Option Nat :=
  markerOffsetIn? marker (Text.lines t)

/-- The fields of a text: each runs from a line that starts with the marker up
to the next such line. What precedes the first one is left out. -/
def markerChunks (marker : Char) (t : List Char) : List (List Char) :=
  let head (line : List Char) := if isMarked marker line then some line else none
  (Text.groupUnder head (Text.lines t)).2.map fun (line, more) => Text.unlines (line :: more)

/-- The text before the first field, and the text from there on. -/
def splitAtMarker (marker : Char) (t : List Char) : List Char × List Char :=
  match markerOffset? marker t with
  | none => (t, [])
  | some k => (t.take k, t.drop k)

end RefBook.Docstring
