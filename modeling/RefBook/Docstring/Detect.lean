import RefBook.Docstring.Epydoc
import RefBook.Docstring.Google
import RefBook.Docstring.Numpy
import RefBook.Docstring.Rest

/-! Reading a documentation text in a given dialect, and finding the dialect
that makes the most of it. -/

namespace RefBook.Docstring

def parseAs (style : Style) (t : List Char) : Except Problem Docstring :=
  (match style with
    | .rest => Rest.parse t
    | .google => Google.parse t
    | .numpy => .ok (Numpy.parse t)
    | .epydoc => Epydoc.parse t).mapError fun cause => ⟨style, cause⟩

/-- The earlier of two readings, unless the later one has more entries. -/
def richer (best : Option Docstring) (d : Docstring) : Docstring :=
  match best with
  | none => d
  | some b => if b.entries.length < d.entries.length then d else b

/-- The reading with the most entries; of several the one of the earliest
dialect. A text that no dialect accepts is all description. -/
def parse (t : List Char) : Docstring :=
  let best := Style.all.foldl (fun best style =>
    match parseAs style t with
    | .ok d => some (richer best d)
    | .error _ => best) none
  best.getD (ofDescription (Text.clean t) [] none)

end RefBook.Docstring
