import RefBook.Proofs.Text.Lines
import RefBook.Text.Tabs

/-! # Tabs, line by line

Tab stops start anew in every line, so the lines of an expanded text are the expanded
lines. What expansion does to the start of a line depends on its column only: white
space stays white space, and a visible start stays as it is. -/

namespace RefBook.Text

theorem expandTabsFrom_eq_self {t : List Char} (h : '\t' ∉ t) (size column : Nat) :
    expandTabsFrom size column t = t := by
  induction t generalizing column with
  | nil => rfl
  | cons c t ih =>
    rw [List.mem_cons, not_or] at h
    rw [expandTabsFrom, if_neg (Ne.symm h.1)]
    split
    · rw [ih h.2]
    · rw [ih h.2]

theorem expandTabs_eq_self {t : List Char} (h : '\t' ∉ t) (size : Nat) :
    expandTabs size t = t := expandTabsFrom_eq_self h size 0

theorem newline_mem_expandTabsFrom (size column : Nat) (t : List Char) :
    '\n' ∈ expandTabsFrom size column t ↔ '\n' ∈ t := by
  induction t generalizing column with
  | nil => rfl
  | cons c t ih =>
    rw [expandTabsFrom]
    split
    · rename_i hc
      simp [ih, hc, List.mem_replicate]
    · split
      · simp [ih]
      · simp [ih]

/-- A line feed sets the column back. -/
theorem expandTabsFrom_append_newline (size column : Nat) (l t : List Char) :
    expandTabsFrom size column (l ++ '\n' :: t) =
      expandTabsFrom size column l ++ '\n' :: expandTabs size t := by
  induction l generalizing column with
  | nil => simp [expandTabsFrom, expandTabs]
  | cons c l ih =>
    rw [List.cons_append, expandTabsFrom, expandTabsFrom]
    split
    · simp [ih]
    · split
      · simp [ih]
      · simp [ih]

/-- The lines of an expanded text are the expanded lines; only the first one may start
at another column. -/
theorem lines_expandTabsFrom {size column : Nat} {t l : List Char} {ls : List (List Char)}
    (h : lines t = l :: ls) :
    lines (expandTabsFrom size column t) =
      expandTabsFrom size column l :: ls.map (expandTabs size) := by
  induction ls generalizing column t l with
  | nil =>
    have ht : t = l := by rw [← unlines_lines t, h, unlines_singleton]
    have hl : '\n' ∉ l := newline_not_mem_of_mem_lines (h ▸ List.mem_cons_self)
    rw [ht, lines_of_not_mem fun hm => hl ((newline_mem_expandTabsFrom _ _ _).mp hm)]
    rfl
  | cons l' ls ih =>
    have ht : t = l ++ '\n' :: unlines (l' :: ls) := by
      rw [← unlines_lines t, h, unlines_cons_cons]
    have hl : '\n' ∉ l := newline_not_mem_of_mem_lines (h ▸ List.mem_cons_self)
    have hrest : lines (unlines (l' :: ls)) = l' :: ls :=
      lines_unlines (List.cons_ne_nil _ _) fun a ha =>
        newline_not_mem_of_mem_lines (h ▸ List.mem_cons_of_mem l ha)
    rw [ht, expandTabsFrom_append_newline,
      lines_append fun hm => hl ((newline_mem_expandTabsFrom _ _ _).mp hm), expandTabs, ih hrest]
    rfl

theorem lines_expandTabs (size : Nat) (t : List Char) :
    lines (expandTabs size t) = (lines t).map (expandTabs size) := by
  cases h : lines t with
  | nil => exact absurd h (splitOn_ne_nil '\n' t)
  | cons l ls => exact lines_expandTabsFrom h

theorem expandTabsFrom_of_head {c : Char} (h : isSpace c = false) (size column : Nat)
    (t : List Char) :
    expandTabsFrom size column (c :: t) = c :: expandTabsFrom size (column + 1) t := by
  have htab : c ≠ '\t' := by rintro rfl; exact absurd h (by decide)
  have hnl : ¬ (c = '\n' ∨ c = '\r') := by
    rintro (rfl | rfl)
    · exact absurd h (by decide)
    · exact absurd h (by decide)
  rw [expandTabsFrom, if_neg htab, if_neg hnl]

/-- Leading white space stays white space, and the rest is expanded from the column
where it ends. -/
theorem trimStart_expandTabsFrom (size column : Nat) (t : List Char) :
    ∃ column', trimStart (expandTabsFrom size column t) =
      expandTabsFrom size column' (trimStart t) := by
  induction t generalizing column with
  | nil => exact ⟨column, rfl⟩
  | cons c t ih =>
    by_cases hc : isSpace c = true
    · have hcons : ∀ t : List Char, trimStart (c :: t) = trimStart t := by
        intro t
        rw [trimStart, List.dropWhile_cons, if_pos hc]
        rfl
      rw [hcons, expandTabsFrom]
      split
      · obtain ⟨column', h⟩ := ih (column + (size - column % size))
        refine ⟨column', ?_⟩
        rw [← h]
        exact trimStart_append_of_isBlank (by simp [isBlank, isSpace]) _
      · split
        · obtain ⟨column', h⟩ := ih 0
          exact ⟨column', by rw [hcons, h]⟩
        · obtain ⟨column', h⟩ := ih (column + 1)
          exact ⟨column', by rw [hcons, h]⟩
    · have hs : isSpace c = false := by simpa using hc
      refine ⟨column, ?_⟩
      rw [trimStart_of_head hs, expandTabsFrom_of_head hs, trimStart_of_head hs]

theorem isBlank_expandTabsFrom (size column : Nat) (t : List Char) :
    isBlank (expandTabsFrom size column t) = isBlank t := by
  obtain ⟨column', h⟩ := trimStart_expandTabsFrom size column t
  rw [Bool.eq_iff_iff, isBlank_iff, isBlank_iff, h]
  obtain hnil | ⟨c, t', hcons, hs⟩ := trimStart_cases t
  · rw [hnil]
    rfl
  · rw [hcons, expandTabsFrom_of_head hs]
    simp

def visibleChars (t : List Char) : List Char := t.filter (!isSpace ·)

theorem visibleChars_append (a b : List Char) :
    visibleChars (a ++ b) = visibleChars a ++ visibleChars b :=
  List.filter_append a b

theorem visibleChars_of_isBlank {t : List Char} (h : isBlank t = true) : visibleChars t = [] := by
  rw [visibleChars, List.filter_eq_nil_iff]
  intro c hc
  simp [List.all_eq_true.mp h c hc]

theorem visibleChars_trimStart (t : List Char) : visibleChars (trimStart t) = visibleChars t := by
  nth_rewrite 2 [← List.takeWhile_append_dropWhile (p := isSpace) (l := t)]
  rw [visibleChars_append, visibleChars_of_isBlank List.all_takeWhile]
  rfl

theorem visibleChars_expandTabsFrom (size column : Nat) (t : List Char) :
    visibleChars (expandTabsFrom size column t) = visibleChars t := by
  induction t generalizing column with
  | nil => rfl
  | cons c t ih =>
    rw [expandTabsFrom]
    split
    · rename_i hc
      have hpad : isBlank (List.replicate (size - column % size) ' ') = true := by
        simp [isBlank, isSpace]
      have htab : visibleChars (c :: t) = visibleChars t := by rw [hc]; rfl
      rw [visibleChars_append, visibleChars_of_isBlank hpad, ih, htab, List.nil_append]
    · have hcons : ∀ column', visibleChars (c :: expandTabsFrom size column' t) =
          visibleChars (c :: t) := fun column' => by
        rw [visibleChars, visibleChars, List.filter_cons, List.filter_cons]
        exact congrArg (fun r => if !isSpace c then c :: r else r) (ih column')
      split
      · exact hcons 0
      · exact hcons (column + 1)

/-- Expanding tabs changes no visible character of any line. -/
theorem map_visibleChars_lines_expandTabs (size : Nat) (t : List Char) :
    (lines (expandTabs size t)).map visibleChars = (lines t).map visibleChars := by
  rw [lines_expandTabs, List.map_map]
  exact List.map_congr_left fun l _ => visibleChars_expandTabsFrom size 0 l

/-- Visible characters are not touched. -/
theorem expandTabsFrom_append_visible {p : List Char} (h : ∀ c ∈ p, isSpace c = false)
    (size column : Nat) (t : List Char) :
    expandTabsFrom size column (p ++ t) = p ++ expandTabsFrom size (column + p.length) t := by
  induction p generalizing column with
  | nil => rfl
  | cons c p ih =>
    have hc := h c List.mem_cons_self
    rw [List.cons_append, expandTabsFrom_of_head hc,
      ih fun a ha => h a (List.mem_cons_of_mem c ha), List.cons_append, List.length_cons]
    congr 3
    omega

/-- Visible characters at the start of an expanded text stand at the start of the text. -/
theorem prefix_of_prefix_expandTabsFrom {p : List Char} (h : ∀ c ∈ p, isSpace c = false)
    {size column : Nat} (hsize : 0 < size) {t : List Char}
    (hp : p <+: expandTabsFrom size column t) : p <+: t := by
  induction p generalizing column t with
  | nil => exact List.nil_prefix
  | cons c p ih =>
    have hc := h c List.mem_cons_self
    cases t with
    | nil => exact absurd (List.prefix_nil.mp hp) (List.cons_ne_nil c p)
    | cons d t =>
      by_cases hd : isSpace d = true
      · -- white space would come first
        exfalso
        have hhead : ∃ e t', expandTabsFrom size column (d :: t) = e :: t' ∧ isSpace e = true := by
          rw [expandTabsFrom]
          split
          · obtain ⟨n, hn⟩ : ∃ n, size - column % size = n + 1 :=
              ⟨size - column % size - 1, by have := Nat.mod_lt column hsize; omega⟩
            exact ⟨' ', _, by rw [hn]; rfl, by decide⟩
          · split
            · exact ⟨d, _, rfl, hd⟩
            · exact ⟨d, _, rfl, hd⟩
        obtain ⟨e, t', he, hse⟩ := hhead
        rw [he, List.cons_prefix_cons] at hp
        rw [hp.1, hse] at hc
        cases hc
      · have hs : isSpace d = false := by simpa using hd
        rw [expandTabsFrom_of_head hs, List.cons_prefix_cons] at hp
        rw [List.cons_prefix_cons]
        exact ⟨hp.1, ih (fun a ha => h a (List.mem_cons_of_mem c ha)) hp.2⟩

end RefBook.Text
