import Mathlib.Logic.Function.Iterate
import RefBook.Docstring.Basic
import RefBook.Proofs.Text.Visible

/-! # Cleaning a text again

A documentation text is cleaned when it is extracted, once more by each dialect, and its
descriptions once more below their first line. The first cleaning may leave a margin: where
the first visible line was not the first of all, it had a part in the margin of the others,
which it no longer has. The second one takes that away, and then nothing is left to do. -/

namespace RefBook.Text

/-- A text whose first line is visible keeps the places of its lines. -/
theorem aligned_of_visible_first {t : List Char}
    (h : ∃ first ∈ (lines t).head?, isBlank first = false) : Aligned t := by
  obtain ⟨first, hfirst, hv⟩ := h
  obtain ⟨body, hl⟩ : ∃ body, lines t = first :: body := List.head?_eq_some_iff.mp hfirst
  have hl' : lines (expandTabs 8 t) = expandTabs 8 first :: body.map (expandTabs 8) := by
    rw [lines_expandTabs, hl, List.map_cons]
  have hv' : isBlank (expandTabs 8 first) = false := (isBlank_expandTabsFrom 8 0 first).trans hv
  unfold Aligned
  rw [opening_eq (List.forall_mem_nil _) hv' hl', hl']
  exact .inl rfl

/-- A cleaned text starts with a visible line, so cleaning it again comes to an end. -/
theorem aligned_clean (t : List Char) : Aligned (clean t) := by
  obtain hnil | hends := clean_ends t
  · rw [hnil]
    decide
  · exact aligned_of_visible_first hends.1

theorem lines_clean_clean {t g : List Char} {below : List (List Char)}
    (h : lines (clean t) = g :: below) (hg : isBlank g = false) :
    lines (clean (clean t)) = trimStart g :: dropEndWhile isBlank (unindented below) := by
  have ho : opening (clean t) = g :: below := by
    refine opening_eq (List.forall_mem_nil _) hg ?_
    rw [expandTabs_eq_self (tab_not_mem_clean t), h, List.nil_append]
  exact lines_clean ho (aligned_clean t)

/-- Where no more than the margin is taken and none of it is left, all of it was taken. -/
theorem margin?_eq_of_flush_drop {ls : List (List Char)} {m : Nat}
    (hm : ∀ j, margin? ls = some j → m ≤ j) (h : Flush (ls.map (·.drop m))) :
    margin? ls = none ∨ margin? ls = some m := by
  cases hj : margin? ls with
  | none => exact .inl rfl
  | some j =>
    have hle := hm j hj
    rw [Flush, margin?_map_drop hj hle, Option.getD_some] at h
    exact .inr (congrArg some (by omega))

/-- One cleaning is enough exactly for the texts whose lines keep their places. -/
theorem clean_clean_iff (t : List Char) : clean (clean t) = clean t ↔ Aligned t := by
  refine ⟨fun h => ?_, clean_clean⟩
  unfold Aligned
  cases ho : opening t with
  | nil => trivial
  | cons g below =>
    obtain ⟨hg, blanks, hblanks, hl⟩ := lines_eq_of_opening ho
    rw [hl]
    cases blanks with
    | nil => exact .inl rfl
    | cons f bs =>
      refine .inr ?_
      rw [List.forall_mem_cons] at hblanks
      -- the first cleaning takes the margin `m`, which the first visible line has a part in
      obtain ⟨m, hm⟩ : ∃ m, (margin? (g :: below)).getD 0 = m := ⟨_, rfl⟩
      have hle : m ≤ indentation g := hm ▸ margin_le_indentation List.mem_cons_self hg
      have hg' : isBlank (g.drop m) = false := by
        rw [← hm, isBlank_drop_margin List.mem_cons_self, hg]
      have hclean := cleanLines_of_blank_first hblanks.1 hblanks.2 hm hg' hl
      have hlines : lines (clean t) = g.drop m :: dropEndWhile isBlank (below.map (·.drop m)) := by
        rw [lines_clean_of_ne_nil (hclean ▸ List.cons_ne_nil _ _), hclean]
      -- the second one finds nothing to take, on that line and below it
      have hagain := lines_clean_clean hlines hg'
      rw [h, hlines, List.cons.injEq] at hagain
      have hfirst : indentation g = m := by
        have hzero := indentation_drop hg hle
        rw [hagain.1, indentation_trimStart] at hzero
        omega
      have hflush : Flush (below.map (·.drop m)) := by
        rw [← flush_dropEndWhile, hagain.2, flush_dropEndWhile]
        exact flush_unindented _
      rw [indent?_of_visible hg, hfirst]
      refine margin?_eq_of_flush_drop (fun j hj => ?_) hflush
      rw [margin?_cons_of_indent? (indent?_of_visible hg), hj] at hm
      exact hm ▸ Nat.min_le_right _ _

end RefBook.Text

namespace RefBook.Docstring

open Text (lines clean isBlank Aligned)

/-- Cleaning below the first line never touches that line. -/
theorem cleanTail_append {first : List Char} (h : '\n' ∉ first) (rest : List Char) :
    cleanTail (first ++ '\n' :: rest) = first ++ '\n' :: clean rest := by
  rw [cleanTail, Text.cut?_append h]

theorem iterate_cleanTail {first : List Char} (h : '\n' ∉ first) (rest : List Char) (n : Nat) :
    cleanTail^[n] (first ++ '\n' :: rest) = first ++ '\n' :: clean^[n] rest := by
  induction n generalizing rest with
  | zero => rfl
  | succ n ih =>
    rw [Function.iterate_succ_apply, cleanTail_append h, ih, Function.iterate_succ_apply]

/-- **Cleaning comes to rest**: one cleaning is enough for a text whose first line is visible,
and exactly for those whose lines keep their places; two are enough for every text, however
often it is cleaned, as a whole or below its first line. -/
theorem cleaning_comes_to_rest (t : List Char) :
    ((∃ first ∈ (lines t).head?, isBlank first = false) → clean (clean t) = clean t) ∧
      (clean (clean t) = clean t ↔ Aligned t) ∧
      clean (clean (clean t)) = clean (clean t) ∧
      ∀ n, clean^[n + 2] t = clean^[2] t ∧ cleanTail^[n + 2] t = cleanTail^[2] t := by
  have hrest : ∀ t n, clean^[n + 2] t = clean^[2] t := by
    intro t n
    have hfixed : clean (clean (clean t)) = clean (clean t) :=
      Text.clean_clean (Text.aligned_clean t)
    rw [Function.iterate_add_apply, Function.iterate_succ_apply, Function.iterate_one,
      Function.iterate_fixed hfixed]
  refine ⟨fun h => Text.clean_clean (Text.aligned_of_visible_first h), Text.clean_clean_iff t,
    Text.clean_clean (Text.aligned_clean t), fun n => ⟨hrest t n, ?_⟩⟩
  cases hcut : Text.cut? '\n' t with
  | none =>
    have hfixed : cleanTail t = t := by rw [cleanTail, hcut]
    rw [Function.iterate_fixed hfixed, Function.iterate_fixed hfixed]
  | some parts =>
    obtain ⟨first, rest⟩ := parts
    obtain ⟨rfl, hfirst⟩ := Text.append_of_cut? hcut
    rw [iterate_cleanTail hfirst, iterate_cleanTail hfirst, hrest rest n]

/-- A summary and a body below it, with a tab and a carriage return. -/
def summaryFirst : List Char := "  Do it.\r\n\t Twice.\r\n\t   \n        Now.\n".toList

/-- A first visible line that stands to the right of those below it. -/
def hangingFirst : List Char := "\n      Do it.\n    Twice.\n".toList

theorem summaryFirst_comes_to_rest :
    (∃ first ∈ (lines summaryFirst).head?, isBlank first = false) ∧
      clean summaryFirst ≠ summaryFirst ∧ clean (clean summaryFirst) = clean summaryFirst ∧
      ¬ Aligned hangingFirst ∧ clean (clean hangingFirst) ≠ clean hangingFirst ∧
      clean^[5] hangingFirst = clean^[2] hangingFirst := by
  have hfirst : ∃ first ∈ (lines summaryFirst).head?, isBlank first = false :=
    ⟨_, rfl, by decide⟩
  have hhanging : ¬ Aligned hangingFirst := by decide
  obtain ⟨hvisible, -, -, -⟩ := cleaning_comes_to_rest summaryFirst
  obtain ⟨-, hiff, -, hrest⟩ := cleaning_comes_to_rest hangingFirst
  exact ⟨hfirst, by decide, hvisible hfirst, hhanging, mt hiff.mp hhanging, (hrest 3).1⟩

end RefBook.Docstring
