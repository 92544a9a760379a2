/-! Cutting a text at a separator character and putting the pieces together
again. `lines` and `unlines` are the line feed case; a text has one more line
than it has line feeds, so the empty text has one empty line. -/

namespace RefBook.Text

/-- The pieces between the occurrences of `sep`. -/
def splitOn (sep : Char) : List Char → List (List Char)
  | [] => [[]]
  | c :: t =>
    if c = sep then [] :: splitOn sep t
    else match splitOn sep t with
      | [] => [[c]]
      | piece :: rest => (c :: piece) :: rest

/-- The pieces with `sep` between each two of them. -/
def joinWith (sep : List Char) : List (List Char) → List Char
  | [] => []
  | [piece] => piece
  | piece :: rest => piece ++ sep ++ joinWith sep rest

def lines (t : List Char) : List (List Char) := splitOn '\n' t

def unlines (ls : List (List Char)) : List Char := joinWith ['\n'] ls

/-- The text before the first `sep` and the text after it. -/
def cut? (sep : Char) : List Char → Option (List Char × List Char)
  | [] => none
  | c :: t => if c = sep then some ([], t) else (cut? sep t).map fun (a, b) => (c :: a, b)

theorem splitOn_ne_nil (sep : Char) (t : List Char) : splitOn sep t ≠ [] := by
  cases t with
  | nil => simp [splitOn]
  | cons c t =>
    simp only [splitOn]
    split
    · simp
    · split <;> simp

theorem joinWith_splitOn (sep : Char) (t : List Char) : joinWith [sep] (splitOn sep t) = t := by
  induction t with
  | nil => rfl
  | cons c t ih =>
    simp only [splitOn]
    split
    · rename_i h
      cases hs : splitOn sep t with
      | nil => exact absurd hs (splitOn_ne_nil sep t)
      | cons p r => rw [hs] at ih; simp [joinWith, ih, h]
    · cases hs : splitOn sep t with
      | nil => exact absurd hs (splitOn_ne_nil sep t)
      | cons p r =>
        rw [hs] at ih
        cases r with
        | nil => simp [joinWith] at ih; simp [joinWith, ih]
        | cons q r => simp [joinWith] at ih; simp [joinWith, ih]

theorem not_mem_of_mem_splitOn {sep : Char} {t l : List Char} (h : l ∈ splitOn sep t) :
    sep ∉ l := by
  induction t generalizing l with
  | nil =>
    have hl : l = [] := by simpa [splitOn] using h
    simp [hl]
  | cons c t ih =>
    rw [splitOn] at h
    split at h
    · rcases List.mem_cons.mp h with rfl | h
      · exact List.not_mem_nil
      · exact ih h
    · rename_i hc
      cases hs : splitOn sep t with
      | nil => exact absurd hs (splitOn_ne_nil sep t)
      | cons p rest =>
        rw [hs] at h ih
        rcases List.mem_cons.mp h with rfl | h
        · rw [List.mem_cons, not_or]
          exact ⟨Ne.symm hc, ih List.mem_cons_self⟩
        · exact ih (List.mem_cons_of_mem p h)

theorem unlines_lines (t : List Char) : unlines (lines t) = t := joinWith_splitOn '\n' t

theorem cut?_eq_none_iff (sep : Char) (t : List Char) : cut? sep t = none ↔ sep ∉ t := by
  induction t with
  | nil => simp [cut?]
  | cons c t ih =>
    simp only [cut?]
    split
    · simp_all
    · rename_i h
      simp [ih, Ne.symm h]

theorem append_of_cut? {sep : Char} {t a b : List Char} (h : cut? sep t = some (a, b)) :
    t = a ++ sep :: b ∧ sep ∉ a := by
  induction t generalizing a with
  | nil => simp [cut?] at h
  | cons c t ih =>
    simp only [cut?] at h
    split at h
    · simp_all
    · obtain ⟨⟨a', b'⟩, hab, heq⟩ := Option.map_eq_some_iff.1 h
      simp only [Prod.mk.injEq] at heq
      obtain ⟨rfl, rfl⟩ := heq
      have := ih hab
      simp_all [eq_comm]

end RefBook.Text
