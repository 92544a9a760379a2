/-! Tab stops. A tab advances to the next multiple of the tab size within its
own line; a line feed or a carriage return starts a new line. -/

namespace RefBook.Text

/-- Expands tabs, the text starting at `column`. -/
def expandTabsFrom (size column : Nat) : List Char → List Char
  | [] => []
  | c :: t =>
    if c = '\t' then
      let pad := size - column % size
      List.replicate pad ' ' ++ expandTabsFrom size (column + pad) t
    else if c = '\n' ∨ c = '\r' then c :: expandTabsFrom size 0 t
    else c :: expandTabsFrom size (column + 1) t

def expandTabs (size : Nat) (t : List Char) : List Char := expandTabsFrom size 0 t

/-- Tab expansion as a request: there are no multiples of zero to advance to,
so a tab under tab size zero has no answer. -/
def expandTabs? (size : Nat) (t : List Char) : Option (List Char) :=
  if size = 0 ∧ '\t' ∈ t then none else some (expandTabs size t)

theorem tab_not_mem_expandTabsFrom (size column : Nat) (t : List Char) :
    '\t' ∉ expandTabsFrom size column t := by
  induction t generalizing column with
  | nil => simp [expandTabsFrom]
  | cons c t ih =>
    simp only [expandTabsFrom]
    split
    · simp [ih, List.mem_replicate]
    · split
      · rename_i h
        rcases h with rfl | rfl <;> simp [ih]
      · rename_i h _
        simp [ih, Ne.symm h]

end RefBook.Text
