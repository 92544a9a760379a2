import RefBook.Proofs.Text.Margin

/-! # The visible lines of a cleaned text

Cleaning touches nothing but white space at the start of lines and blank lines at the two
ends. The lines that are left stand next to each other in the expanded text, none of its
visible lines is missing, and those below the first line are moved to the margin together. -/

namespace RefBook.Text

def visible (ls : List (List Char)) : List (List Char) := ls.filter (!isBlank ·)

theorem mem_visible {ls : List (List Char)} {l : List Char} :
    l ∈ visible ls ↔ l ∈ ls ∧ isBlank l = false := by
  simp [visible]

theorem visible_append (a b : List (List Char)) : visible (a ++ b) = visible a ++ visible b :=
  List.filter_append a b

theorem visible_of_blank {ls : List (List Char)} (h : ∀ l ∈ ls, isBlank l = true) :
    visible ls = [] := by
  rw [visible, List.filter_eq_nil_iff]
  intro l hl
  simp [h l hl]

/-- A change to each line that keeps blank lines blank and visible ones visible. -/
theorem visible_map {f : List Char → List Char} {ls : List (List Char)}
    (h : ∀ l ∈ ls, isBlank (f l) = isBlank l) : visible (ls.map f) = (visible ls).map f := by
  rw [visible, visible, List.filter_map]
  congr 1
  refine List.filter_congr fun l hl => ?_
  rw [Function.comp_apply, h l hl]

theorem visible_map_trimStart (ls : List (List Char)) :
    visible (ls.map trimStart) = (visible ls).map trimStart :=
  visible_map fun l _ => isBlank_trimStart l

theorem flatMap_visibleChars_visible (ls : List (List Char)) :
    (visible ls).flatMap visibleChars = ls.flatMap visibleChars := by
  induction ls with
  | nil => rfl
  | cons l ls ih =>
    rw [List.flatMap_cons, ← ih, visible, List.filter_cons]
    cases hl : isBlank l with
    | true => rw [visibleChars_of_isBlank hl]; rfl
    | false => rfl

theorem flatMap_visibleChars_lines (t : List Char) :
    (lines t).flatMap visibleChars = visibleChars t := by
  nth_rewrite 2 [← unlines_lines t]
  generalize lines t = ls
  induction ls with
  | nil => rfl
  | cons l ls ih =>
    cases ls with
    | nil => exact List.append_nil _
    | cons l' ls =>
      rw [List.flatMap_cons, ih, unlines_cons_cons, visibleChars_append]
      rfl

/-- Only blank lines are dropped at the ends. -/
theorem dropBlankEdges_within (ls : List (List Char)) :
    ∃ a b, ls = a ++ dropBlankEdges ls ++ b ∧ (∀ l ∈ a, isBlank l = true) ∧
      ∀ l ∈ b, isBlank l = true := by
  obtain ⟨b, hb, hblank⟩ := dropEndWhile_append_dropped isBlank ls
  refine ⟨(dropEndWhile isBlank ls).takeWhile isBlank, b, ?_, ?_, hblank⟩
  · rw [dropBlankEdges, List.takeWhile_append_dropWhile]
    exact hb
  · exact fun l hl => List.mem_takeWhile_imp hl

theorem visible_dropBlankEdges (ls : List (List Char)) :
    visible (dropBlankEdges ls) = visible ls := by
  obtain ⟨a, b, hls, ha, hb⟩ := dropBlankEdges_within ls
  nth_rewrite 2 [hls]
  rw [visible_append, visible_append, visible_of_blank ha, visible_of_blank hb, List.nil_append,
    List.append_nil]

/-- Lines of which the first and the last are visible. -/
def VisibleEnds (ls : List (List Char)) : Prop :=
  (∃ l ∈ ls.head?, isBlank l = false) ∧ ∃ l ∈ ls.getLast?, isBlank l = false

theorem visibleEnds_dropBlankEdges {ls : List (List Char)} (h : dropBlankEdges ls ≠ []) :
    VisibleEnds (dropBlankEdges ls) := by
  have hne : dropEndWhile isBlank ls ≠ [] := fun hnil => h (by rw [dropBlankEdges, hnil]; rfl)
  constructor
  · exact ⟨_, List.head?_eq_some_head h, List.head_dropWhile_not isBlank h⟩
  · -- the blank lines at the start go last, so the last line is that of the shortened list
    obtain ⟨a, ha⟩ := List.dropWhile_suffix isBlank (l := dropEndWhile isBlank ls)
    have hlast : (dropBlankEdges ls).getLast? = (dropEndWhile isBlank ls).getLast? := by
      rw [← ha]
      exact (List.getLast?_append_of_ne_nil a h).symm
    refine ⟨(dropEndWhile isBlank ls).getLast hne, ?_, ?_⟩
    · rw [hlast]
      exact List.getLast?_eq_some_getLast hne
    · exact Bool.eq_false_iff.mpr (List.rdropWhile_last_not isBlank ls hne)

/-- How many white space characters a line starts with. -/
def indentation (l : List Char) : Nat := (l.takeWhile isSpace).length

theorem indentation_of_indent? {l : List Char} {k : Nat} (h : indent? l = some k) :
    indentation l = k := by
  obtain ⟨pad, c, t, rfl, hp, hc, rfl⟩ := exists_of_indent? h
  rw [indentation, (span_append (List.all_eq_true.mp hp) (by simp [hc])).1]

theorem indent?_of_visible {l : List Char} (h : isBlank l = false) :
    indent? l = some (indentation l) := by
  obtain ⟨pad, c, t, rfl, hp, hc⟩ := exists_of_visible h
  have hi := indent?_append_cons hp hc t
  rw [hi, indentation_of_indent? hi]

/-- What a line loses of its indentation is not missed in its content. -/
theorem trimStart_drop {l : List Char} {m : Nat} (h : isBlank l = false → m ≤ indentation l) :
    trimStart (l.drop m) = trimStart l := by
  cases hb : isBlank l with
  | true => rw [(isBlank_iff l).mp hb, (isBlank_iff _).mp (isBlank_drop hb m)]
  | false =>
    have hi := indent?_of_visible hb
    have hm := h hb
    rw [← drop_indent hi, ← drop_indent (indent?_drop hi hm), List.drop_drop]
    congr 1
    omega

theorem indentation_drop {l : List Char} {m : Nat} (hl : isBlank l = false)
    (h : m ≤ indentation l) : indentation (l.drop m) = indentation l - m :=
  indentation_of_indent? (indent?_drop (indent?_of_visible hl) h)

theorem indentation_trimStart (l : List Char) : indentation (trimStart l) = 0 := by
  obtain hnil | ⟨c, t, hcons, hc⟩ := trimStart_cases l
  · rw [hnil]
    rfl
  · rw [hcons]
    exact indentation_of_indent? (indent?_of_head hc t)

theorem margin_le_indentation {ls : List (List Char)} {l : List Char} (hl : l ∈ ls)
    (hv : isBlank l = false) : (margin? ls).getD 0 ≤ indentation l := by
  induction ls with
  | nil => cases hl
  | cons a ls ih =>
    cases ha : isBlank a with
    | true =>
      have hne : l ≠ a := by
        rintro rfl
        rw [ha] at hv
        cases hv
      rw [margin?_cons_of_isBlank ha]
      exact ih ((List.mem_cons.mp hl).resolve_left hne)
    | false =>
      rw [margin?_cons_of_indent? (indent?_of_visible ha), Option.getD_some]
      rcases List.mem_cons.mp hl with rfl | hl
      · cases margin? ls with
        | none => exact Nat.le_refl _
        | some m => exact Nat.min_le_left _ m
      · cases hm : margin? ls with
        | none =>
          rw [(margin?_eq_none_iff ls).mp hm l hl] at hv
          cases hv
        | some m =>
          rw [hm] at ih
          exact Nat.le_trans (Nat.min_le_right _ m) (ih hl)

theorem exists_of_margin? {ls : List (List Char)} {m : Nat} (h : margin? ls = some m) :
    ∃ l ∈ ls, indent? l = some m := by
  induction ls generalizing m with
  | nil => cases h
  | cons a ls ih =>
    cases ha : indent? a with
    | none =>
      rw [margin?_cons_of_isBlank ((indent?_eq_none_iff a).mp ha)] at h
      obtain ⟨l, hl, hi⟩ := ih h
      exact ⟨l, List.mem_cons_of_mem a hl, hi⟩
    | some k =>
      rw [margin?_cons_of_indent? ha, Option.some.injEq] at h
      cases hm : margin? ls with
      | none =>
        rw [hm] at h
        exact ⟨a, List.mem_cons_self, h ▸ ha⟩
      | some j =>
        rw [hm, Option.map_some, Option.getD_some] at h
        rcases Nat.le_total k j with hle | hle
        · exact ⟨a, List.mem_cons_self, by rw [ha, ← h, Nat.min_eq_left hle]⟩
        · obtain ⟨l, hl, hi⟩ := ih hm
          exact ⟨l, List.mem_cons_of_mem a hl, by rw [hi, ← h, Nat.min_eq_right hle]⟩

/-- A visible line stands at the margin. -/
theorem exists_at_margin {ls : List (List Char)} (h : visible ls ≠ []) :
    ∃ l ∈ visible ls, indentation l = (margin? ls).getD 0 := by
  cases hm : margin? ls with
  | none => exact absurd (visible_of_blank ((margin?_eq_none_iff ls).mp hm)) h
  | some m =>
    obtain ⟨l, hl, hi⟩ := exists_of_margin? hm
    have hv : isBlank l = false := by
      rw [← Bool.not_eq_true, ← indent?_eq_none_iff, hi]
      simp
    exact ⟨l, mem_visible.mpr ⟨hl, hv⟩, indentation_of_indent? hi⟩

theorem isBlank_drop_margin {ls : List (List Char)} {l : List Char} (hl : l ∈ ls) :
    isBlank (l.drop ((margin? ls).getD 0)) = isBlank l := by
  rw [← isBlank_trimStart, trimStart_drop (margin_le_indentation hl), isBlank_trimStart]

/-- Removing the margin moves the visible lines and touches nothing else. -/
theorem visible_unindented (ls : List (List Char)) :
    visible (unindented ls) = (visible ls).map (·.drop ((margin? ls).getD 0)) :=
  visible_map fun _ hl => isBlank_drop_margin hl

/-- After the margin is removed a visible line stands in the first column. -/
theorem exists_unindented {ls : List (List Char)} (h : visible ls ≠ []) :
    ∃ l ∈ visible (unindented ls), indentation l = 0 := by
  obtain ⟨l, hl, hi⟩ := exists_at_margin h
  have hdrop := indentation_drop (mem_visible.mp hl).2 hi.ge
  refine ⟨l.drop ((margin? ls).getD 0), ?_, by omega⟩
  rw [visible_unindented]
  exact List.mem_map_of_mem hl

theorem map_trimStart_trimStart (ls : List (List Char)) :
    (ls.map trimStart).map trimStart = ls.map trimStart := by
  rw [List.map_map]
  exact List.map_congr_left fun l _ => trimStart_trimStart l

theorem map_trimStart_unindented (ls : List (List Char)) :
    (unindented ls).map trimStart = ls.map trimStart := by
  rw [unindented, List.map_map]
  exact List.map_congr_left fun l hl => trimStart_drop (margin_le_indentation hl)

/-- Lines that were moved to one side together: line by line the same content, and between
any two of them the same difference of indentation. -/
structure MovedTogether (before after : List (List Char)) : Prop where
  content : after.map trimStart = before.map trimStart
  difference : ∀ p ∈ before.zip after, ∀ q ∈ before.zip after,
    (indentation p.2 : Int) - indentation q.2 = indentation p.1 - indentation q.1

theorem movedTogether_unindented (ls : List (List Char)) :
    MovedTogether (visible ls) (visible (unindented ls)) where
  content := by
    rw [← visible_map_trimStart, map_trimStart_unindented, visible_map_trimStart]
  difference := by
    have hmoved : ∀ p ∈ (visible ls).zip (visible (unindented ls)),
        (indentation p.2 : Int) = indentation p.1 - (margin? ls).getD 0 := by
      rw [visible_unindented, ← List.map_prod_left_eq_zip, List.forall_mem_map]
      intro l hl
      obtain ⟨hmem, hv⟩ := mem_visible.mp hl
      have hle := margin_le_indentation hmem hv
      show (indentation (l.drop ((margin? ls).getD 0)) : Int) = indentation l - (margin? ls).getD 0
      rw [indentation_drop hv hle]
      omega
    intro p hp q hq
    rw [hmoved p hp, hmoved q hq]
    omega

theorem exists_suffix_of_mem_cleanLines {t l : List Char} (h : l ∈ cleanLines t) :
    ∃ l' ∈ lines (expandTabs 8 t), l <:+ l' := by
  obtain ⟨first, body, hl⟩ := List.exists_cons_of_ne_nil (splitOn_ne_nil '\n' (expandTabs 8 t))
  obtain ⟨a, b, hls, -, -⟩ := dropBlankEdges_within (trimStart first :: unindented body)
  rw [cleanLines_eq hl] at h
  have hmem : l ∈ trimStart first :: unindented body := by
    rw [hls]
    simp [h]
  rw [lines, hl]
  exact exists_suffix_of_mem_unindented hmem

theorem tab_not_mem_clean (t : List Char) : '\t' ∉ clean t := by
  refine not_mem_unlines (by decide) fun l hl hc => ?_
  obtain ⟨l', hl', hsuf⟩ := exists_suffix_of_mem_cleanLines hl
  exact tab_not_mem_expandTabsFrom 8 0 t (mem_of_mem_lines hl' (hsuf.subset hc))

theorem lines_clean_of_ne_nil {t : List Char} (h : cleanLines t ≠ []) :
    lines (clean t) = cleanLines t := by
  refine lines_unlines h fun l hl hc => ?_
  obtain ⟨l', hl', hsuf⟩ := exists_suffix_of_mem_cleanLines hl
  exact newline_not_mem_of_mem_lines hl' (hsuf.subset hc)

/-- The lines of a cleaned text; the empty text has one empty line. -/
theorem lines_clean_cases (t : List Char) :
    (cleanLines t = [] ∧ clean t = []) ∨ lines (clean t) = cleanLines t := by
  by_cases h : cleanLines t = []
  · exact .inl ⟨h, by rw [clean, h]; rfl⟩
  · exact .inr (lines_clean_of_ne_nil h)

/-- A cleaned text starts and ends with a visible line. -/
theorem clean_ends (t : List Char) : clean t = [] ∨ VisibleEnds (lines (clean t)) := by
  obtain ⟨-, ht⟩ | hlines := lines_clean_cases t
  · exact .inl ht
  · rw [hlines]
    refine .inr (visibleEnds_dropBlankEdges ?_)
    rw [← cleanLines, ← hlines]
    exact splitOn_ne_nil '\n' (clean t)

theorem visible_lines_clean {t first : List Char} {body : List (List Char)}
    (h : lines (expandTabs 8 t) = first :: body) :
    visible (lines (clean t)) =
      (visible [first]).map trimStart ++ visible (unindented body) := by
  have hclean : visible (lines (clean t)) = visible (cleanLines t) := by
    obtain ⟨hnil, ht⟩ | hl := lines_clean_cases t
    · rw [hnil, ht]
      rfl
    · rw [hl]
  rw [hclean, cleanLines_eq h, visible_dropBlankEdges, ← visible_map_trimStart, ← visible_append]
  rfl

/-- A text whose lines are those of `ls` up to their indentation and to blank lines at the
two ends. -/
structure Cleaned (ls : List (List Char)) (t : List Char) : Prop where
  noTab : '\t' ∉ t
  ends : t = [] ∨ VisibleEnds (lines t)
  /-- What is left stands in one piece in the text. -/
  inOnePiece : (lines t).map trimStart <:+: ls.map trimStart
  /-- No visible line is lost or cut. -/
  content : (visible (lines t)).map trimStart = (visible ls).map trimStart
  /-- The visible lines below the first one move together, up to the first column. -/
  below : ∃ moved, visible (lines t) = (visible (ls.take 1)).map trimStart ++ moved ∧
    MovedTogether (visible ls.tail) moved ∧
    (visible ls.tail = [] ∨ ∃ l ∈ moved, indentation l = 0)

/-- No visible line is lost or cut. -/
theorem content_clean (t : List Char) :
    (visible (lines (clean t))).map trimStart =
      (visible (lines (expandTabs 8 t))).map trimStart := by
  obtain ⟨first, body, hl⟩ := List.exists_cons_of_ne_nil (splitOn_ne_nil '\n' (expandTabs 8 t))
  have hcons : visible (first :: body) = visible [first] ++ visible body :=
    visible_append [first] body
  rw [visible_lines_clean hl, lines, hl, hcons, List.map_append, List.map_append,
    (movedTogether_unindented body).content, map_trimStart_trimStart]

/-- A text has the same visible characters after cleaning as before. -/
theorem visibleChars_clean (t : List Char) : visibleChars (clean t) = visibleChars t := by
  have hlines : ∀ t, ((visible (lines t)).map trimStart).flatMap visibleChars = visibleChars t := by
    intro t
    rw [List.flatMap_map]
    simp only [visibleChars_trimStart]
    rw [flatMap_visibleChars_visible, flatMap_visibleChars_lines]
  rw [← hlines (clean t), content_clean, hlines, expandTabs, visibleChars_expandTabsFrom]

theorem lines_clean_infix {t first : List Char} {body : List (List Char)}
    (h : lines (expandTabs 8 t) = first :: body) :
    (lines (clean t)).map trimStart <:+: (first :: body).map trimStart := by
  have hmap : (trimStart first :: unindented body).map trimStart =
      (first :: body).map trimStart := by
    rw [List.map_cons, List.map_cons, trimStart_trimStart, map_trimStart_unindented]
  obtain ⟨hnil, ht⟩ | hl := lines_clean_cases t
  · -- nothing is left of a text whose first line is blank
    have hvisible : visible (trimStart first :: unindented body) = [] := by
      rw [← visible_dropBlankEdges, ← cleanLines_eq h, hnil]
      rfl
    have hblank : isBlank (trimStart first) = true := by
      rw [visible, List.filter_eq_nil_iff, List.forall_mem_cons] at hvisible
      simpa using hvisible.1
    have hfirst : trimStart first = [] := by rwa [isBlank_trimStart, isBlank_iff] at hblank
    rw [ht, List.map_cons, hfirst]
    exact (List.prefix_append [[]] _).isInfix
  · obtain ⟨a, b, hls, -, -⟩ := dropBlankEdges_within (trimStart first :: unindented body)
    rw [hl, cleanLines_eq h, ← hmap]
    nth_rewrite 2 [hls]
    rw [List.map_append, List.map_append]
    exact ⟨_, _, rfl⟩

/-- **Cleaning changes only margins and blank edges**: whatever the text, no tab is left, the
first and the last line that are left are visible, all visible lines are there with their
content, and those below the first line keep their indentation relative to each other. -/
theorem clean_changes_margins_only (t : List Char) :
    Cleaned (lines (expandTabs 8 t)) (clean t) := by
  obtain ⟨first, body, hl⟩ : ∃ first body, lines (expandTabs 8 t) = first :: body :=
    List.exists_cons_of_ne_nil (splitOn_ne_nil '\n' (expandTabs 8 t))
  have hcontent := content_clean t
  rw [hl] at hcontent ⊢
  refine
    { noTab := tab_not_mem_clean t
      ends := clean_ends t
      inOnePiece := lines_clean_infix hl
      content := hcontent
      below := ⟨visible (unindented body), visible_lines_clean hl, movedTogether_unindented body,
        ?_⟩ }
  by_cases hbody : visible body = []
  · exact .inl hbody
  · exact .inr (exists_unindented hbody)

/-- A tab in front of a line reaches to the stop, be there spaces before it or not. -/
example : clean "\tSum.\n\n  \tx\tThe x.\n\t    more\n\t\n".toList =
    "Sum.\n\nx       The x.\n    more".toList := by decide

end RefBook.Text
