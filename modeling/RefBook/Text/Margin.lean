import RefBook.Text.Space
import RefBook.Text.Split
import RefBook.Text.Tabs

/-! The margin of a documentation text. The first line stands where the text
starts, so it has no margin of its own; the other lines share the smallest
indentation of those that are not blank. Cleaning a text removes the margin
and the blank lines at both ends. -/

namespace RefBook.Text

/-- How far a line is indented; a blank line has no indentation. -/
def indent? (line : List Char) : Option Nat :=
  match trimStart line with
  | [] => none
  | content => some (line.length - content.length)

/-- The smallest indentation of the lines that are not blank. -/
def margin? : List (List Char) → Option Nat
  | [] => none
  | line :: rest =>
    match indent? line, margin? rest with
    | none, m => m
    | some k, none => some k
    | some k, some m => some (min k m)

/-- Removes the margin of all lines but the first, whose indentation goes whole. -/
def dedentLines : List (List Char) → List (List Char)
  | [] => []
  | first :: rest =>
    trimStart first :: match margin? rest with
      | none => rest
      | some m => rest.map (·.drop m)

/-- Drops the blank lines at both ends. -/
def dropBlankEdges (ls : List (List Char)) : List (List Char) :=
  (dropEndWhile isBlank ls).dropWhile isBlank

/-- The lines of a documentation text without their margin and without blank
edges; tabs stand for spaces up to the next multiple of eight columns. -/
def cleanLines (t : List Char) : List (List Char) :=
  dropBlankEdges (dedentLines (lines (expandTabs 8 t)))

def clean (t : List Char) : List Char := unlines (cleanLines t)

end RefBook.Text
