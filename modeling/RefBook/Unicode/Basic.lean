/-! Sets of characters given by a property of the character database. A set is
held as its boundaries in ascending order: the first character inside, the
first outside again, and so on. -/

namespace RefBook.Unicode

/-- A character is in the set when an odd number of boundaries lie at or below it. -/
def inBounds (bounds : Array Nat) (c : Char) : Bool :=
  bounds.foldl (fun inside b => if b ≤ c.toNat then !inside else inside) false

end RefBook.Unicode
