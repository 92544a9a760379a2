/-! White space in the sense of the Unicode property `White_Space`, and the
trimming and splitting of texts by it. Texts are lists of characters. -/

namespace RefBook.Text

/-- The 25 characters with the property `White_Space`. -/
def isSpace (c : Char) : Bool :=
  let n := c.toNat
  (9 ≤ n && n ≤ 13) || n == 0x20 || n == 0x85 || n == 0xA0 || n == 0x1680 ||
    (0x2000 ≤ n && n ≤ 0x200A) || n == 0x2028 || n == 0x2029 || n == 0x202F ||
    n == 0x205F || n == 0x3000

/-- Drops the longest end of `l` whose elements all satisfy `p`. -/
def dropEndWhile {α : Type} (p : α → Bool) (l : List α) : List α :=
  (l.reverse.dropWhile p).reverse

def trimStart (t : List Char) : List Char := t.dropWhile isSpace

def trimEnd (t : List Char) : List Char := dropEndWhile isSpace t

def trim (t : List Char) : List Char := trimEnd (trimStart t)

/-- Drops every leading and trailing line feed, and nothing else. -/
def trimLineFeeds (t : List Char) : List Char :=
  dropEndWhile (· == '\n') (t.dropWhile (· == '\n'))

def isBlank (t : List Char) : Bool := t.all isSpace

/-- The maximal runs of characters that are not white space. -/
def words (t : List Char) : List (List Char) :=
  (t.splitOnP isSpace).filter fun word => !word.isEmpty

theorem isSpace_newline : isSpace '\n' = true := by decide

theorem isBlank_nil : isBlank [] = true := rfl

end RefBook.Text
