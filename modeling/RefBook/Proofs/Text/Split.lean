import RefBook.Text.Split

/-! # Cutting at a separator

`splitOn` and `joinWith` are the library's `List.splitOn` and `List.intercalate`, so
that what is known of these holds here: a text with a separator in it is cut there,
whatever stands on either side, and pieces without a separator come back when they are
joined and cut again. -/

namespace RefBook.Text

theorem splitOn_eq (sep : Char) (t : List Char) : splitOn sep t = t.splitOn sep := by
  induction t with
  | nil => rfl
  | cons c t ih =>
    rw [splitOn, List.splitOn_cons_eq_if_modifyHead, ih]
    by_cases h : c = sep
    · simp [h]
    · rw [if_neg h, if_neg (by simpa using h)]
      cases hs : List.splitOn sep t with
      | nil => exact absurd hs (List.splitOn_ne_nil sep t)
      | cons piece rest => rfl

theorem joinWith_eq (sep : List Char) (ls : List (List Char)) :
    joinWith sep ls = sep.intercalate ls := by
  induction ls with
  | nil => rfl
  | cons l ls ih =>
    cases ls with
    | nil => simp [joinWith]
    | cons l' ls => rw [joinWith, ih, List.intercalate_cons_cons]; simp

theorem joinWith_cons {sep l : List Char} {ls : List (List Char)} (h : ls ≠ []) :
    joinWith sep (l :: ls) = l ++ sep ++ joinWith sep ls := by
  cases ls with
  | nil => exact absurd rfl h
  | cons l' ls => rfl

/-- What stands before the first piece stands before the text. -/
theorem joinWith_append_head (sep a l : List Char) (ls : List (List Char)) :
    joinWith sep ((a ++ l) :: ls) = a ++ joinWith sep (l :: ls) := by
  cases ls with
  | nil => rfl
  | cons l' ls =>
    rw [joinWith_cons (List.cons_ne_nil l' ls), joinWith_cons (List.cons_ne_nil l' ls)]
    simp only [List.append_assoc]

theorem splitOn_append (sep : Char) (a b : List Char) :
    splitOn sep (a ++ sep :: b) = splitOn sep a ++ splitOn sep b := by
  rw [splitOn_eq, splitOn_eq, splitOn_eq, List.splitOn_append_cons_self]

theorem splitOn_of_not_mem {sep : Char} {t : List Char} (h : sep ∉ t) : splitOn sep t = [t] := by
  rw [splitOn_eq, List.splitOn_eq_singleton h]

/-- Pieces without a separator come back from the text that they are joined to. -/
theorem splitOn_joinWith {sep : Char} {ls : List (List Char)} (hne : ls ≠ [])
    (h : ∀ l ∈ ls, sep ∉ l) : splitOn sep (joinWith [sep] ls) = ls := by
  rw [splitOn_eq, joinWith_eq, List.splitOn_intercalate sep h hne]

theorem mem_joinWith {sep c : Char} {ls : List (List Char)} (h : c ∈ joinWith [sep] ls) :
    c = sep ∨ ∃ l ∈ ls, c ∈ l := by
  induction ls with
  | nil => cases h
  | cons l ls ih =>
    cases ls with
    | nil => exact .inr ⟨l, List.mem_cons_self, h⟩
    | cons l' ls =>
      rw [joinWith_eq, List.intercalate_cons_cons, ← joinWith_eq] at h
      have hcases : c ∈ l ∨ c = sep ∨ c ∈ joinWith [sep] (l' :: ls) := by simpa using h
      rcases hcases with h | h | h
      · exact .inr ⟨l, List.mem_cons_self, h⟩
      · exact .inl h
      · rcases ih h with h | ⟨a, ha, hc⟩
        · exact .inl h
        · exact .inr ⟨a, List.mem_cons_of_mem l ha, hc⟩

end RefBook.Text
