import RefBook.Text.Space
import RefBook.Text.Split

/-! Texts laid out over several lines, written on one. -/

namespace RefBook.Text

/-- A text without line feeds stays as it is; otherwise its trimmed lines, the
empty ones left out, are joined by single blanks. -/
def oneLine (t : List Char) : List Char :=
  if '\n' ∈ t then
    joinWith [' '] (((lines t).map trim).filter fun piece => !piece.isEmpty)
  else t

end RefBook.Text
