import RefBook.Proofs.Text.Tabs
import RefBook.Text.Margin

/-! # What cleaning leaves

The margin is the least indentation of the lines that are not blank. Removing it leaves
at least one of them without indentation, so it cannot be removed again: a text whose
first line is visible, or stands at the margin of the lines below it, is clean after it
was cleaned once. -/

namespace RefBook.Text

/-! ## Indentation -/

theorem indent?_of_isBlank {l : List Char} (h : isBlank l = true) : indent? l = none := by
  rw [indent?, (isBlank_iff l).mp h]

theorem indent?_append_cons {pad : List Char} (hp : isBlank pad = true) {c : Char}
    (hc : isSpace c = false) (t : List Char) : indent? (pad ++ c :: t) = some pad.length := by
  rw [indent?, trimStart_append_of_isBlank hp, trimStart_of_head hc]
  simp

theorem indent?_of_head {c : Char} (h : isSpace c = false) (t : List Char) :
    indent? (c :: t) = some 0 := indent?_append_cons isBlank_nil h t

theorem indent?_eq_none_iff (l : List Char) : indent? l = none ↔ isBlank l = true := by
  cases h : isBlank l with
  | true => simp [indent?_of_isBlank h]
  | false =>
    obtain ⟨pad, c, t, rfl, hp, hc⟩ := exists_of_visible h
    simp [indent?_append_cons hp hc]

theorem exists_of_indent? {l : List Char} {k : Nat} (h : indent? l = some k) :
    ∃ pad c t, l = pad ++ c :: t ∧ isBlank pad = true ∧ isSpace c = false ∧ pad.length = k := by
  have hv : isBlank l = false := by
    rw [← Bool.not_eq_true, ← indent?_eq_none_iff, h]
    simp
  obtain ⟨pad, c, t, rfl, hp, hc⟩ := exists_of_visible hv
  rw [indent?_append_cons hp hc] at h
  exact ⟨pad, c, t, rfl, hp, hc, Option.some.inj h⟩

theorem isBlank_drop {l : List Char} (h : isBlank l = true) (m : Nat) :
    isBlank (l.drop m) = true := by
  rw [isBlank, List.all_eq_true] at h ⊢
  exact fun c hc => h c (List.mem_of_mem_drop hc)

theorem isBlank_of_mem_map_drop {ls : List (List Char)} (h : ∀ l ∈ ls, isBlank l = true)
    (m : Nat) : ∀ l ∈ ls.map (·.drop m), isBlank l = true := by
  rw [List.forall_mem_map]
  exact fun l hl => isBlank_drop (h l hl) m

/-- A line without its indentation. -/
theorem drop_indent {l : List Char} {k : Nat} (h : indent? l = some k) :
    l.drop k = trimStart l := by
  obtain ⟨pad, c, t, rfl, hp, hc, rfl⟩ := exists_of_indent? h
  rw [List.drop_left, trimStart_append_of_isBlank hp, trimStart_of_head hc]

/-- Taking away no more than the indentation leaves the rest of it. -/
theorem indent?_drop {l : List Char} {k m : Nat} (h : indent? l = some k) (hm : m ≤ k) :
    indent? (l.drop m) = some (k - m) := by
  obtain ⟨pad, c, t, rfl, hp, hc, rfl⟩ := exists_of_indent? h
  rw [List.drop_append_of_le_length hm, indent?_append_cons (isBlank_drop hp m) hc,
    List.length_drop]

/-! ## The margin -/

theorem margin?_cons_of_isBlank {l : List Char} (h : isBlank l = true) (ls : List (List Char)) :
    margin? (l :: ls) = margin? ls := by
  rw [margin?, indent?_of_isBlank h]

theorem margin?_cons_of_indent? {l : List Char} {k : Nat} (h : indent? l = some k)
    (ls : List (List Char)) : margin? (l :: ls) = some (((margin? ls).map (min k)).getD k) := by
  rw [margin?, h]
  cases margin? ls with
  | none => rfl
  | some m => rfl

theorem margin?_eq_none_iff (ls : List (List Char)) :
    margin? ls = none ↔ ∀ l ∈ ls, isBlank l = true := by
  induction ls with
  | nil => simp [margin?]
  | cons l ls ih =>
    rw [List.forall_mem_cons, ← ih]
    cases h : indent? l with
    | none =>
      have hb := (indent?_eq_none_iff l).mp h
      simp [margin?_cons_of_isBlank hb, hb]
    | some k =>
      have hv : isBlank l ≠ true := by rw [Ne, ← indent?_eq_none_iff, h]; simp
      simp [margin?_cons_of_indent? h, hv]

/-- Blank lines have no part in the margin. -/
theorem margin?_append_of_blank_left {a : List (List Char)} (h : ∀ l ∈ a, isBlank l = true)
    (b : List (List Char)) : margin? (a ++ b) = margin? b := by
  induction a with
  | nil => rfl
  | cons l a ih =>
    rw [List.forall_mem_cons] at h
    rw [List.cons_append, margin?_cons_of_isBlank h.1, ih h.2]

theorem margin?_append_of_blank_right (a : List (List Char)) {b : List (List Char)}
    (h : ∀ l ∈ b, isBlank l = true) : margin? (a ++ b) = margin? a := by
  induction a with
  | nil => exact (margin?_eq_none_iff b).mpr h
  | cons l a ih => rw [List.cons_append, margin?, ih, margin?]

theorem margin?_dropEndWhile (ls : List (List Char)) :
    margin? (dropEndWhile isBlank ls) = margin? ls := by
  obtain ⟨r, hr, hblank⟩ := dropEndWhile_append_dropped isBlank ls
  nth_rewrite 2 [hr]
  rw [margin?_append_of_blank_right _ hblank]

/-- Taking away no more than the margin leaves the rest of it. -/
theorem margin?_map_drop {ls : List (List Char)} {k m : Nat} (h : margin? ls = some k)
    (hm : m ≤ k) : margin? (ls.map (·.drop m)) = some (k - m) := by
  induction ls generalizing k with
  | nil => cases h
  | cons l ls ih =>
    rw [List.map_cons]
    cases hi : indent? l with
    | none =>
      have hb := (indent?_eq_none_iff l).mp hi
      rw [margin?_cons_of_isBlank hb] at h
      rw [margin?_cons_of_isBlank (isBlank_drop hb m), ih h hm]
    | some i =>
      rw [margin?_cons_of_indent? hi] at h
      cases hls : margin? ls with
      | none =>
        rw [hls] at h
        cases h
        have hmap : margin? (ls.map (·.drop m)) = none := by
          rw [margin?_eq_none_iff] at hls ⊢
          exact isBlank_of_mem_map_drop hls m
        rw [margin?_cons_of_indent? (indent?_drop hi hm), hmap]
        rfl
      | some j =>
        rw [hls] at h
        have hk : min i j = k := Option.some.inj h
        rw [margin?_cons_of_indent? (indent?_drop hi (by omega)), ih hls (by omega)]
        simp only [Option.map_some, Option.getD_some, Option.some.injEq]
        omega

/-- Lines at whose margin a visible line stands, or that are all blank. -/
def Flush (ls : List (List Char)) : Prop := (margin? ls).getD 0 = 0

instance (ls : List (List Char)) : Decidable (Flush ls) :=
  inferInstanceAs (Decidable ((margin? ls).getD 0 = 0))

def unindented (ls : List (List Char)) : List (List Char) :=
  ls.map (·.drop ((margin? ls).getD 0))

theorem flush_unindented (ls : List (List Char)) : Flush (unindented ls) := by
  unfold Flush unindented
  cases h : margin? ls with
  | none => simp [h]
  | some m => simp [margin?_map_drop h (Nat.le_refl m)]

theorem unindented_of_flush {ls : List (List Char)} (h : Flush ls) : unindented ls = ls := by
  rw [unindented, h]
  simp

theorem flush_dropEndWhile {ls : List (List Char)} :
    Flush (dropEndWhile isBlank ls) ↔ Flush ls := by
  rw [Flush, Flush, margin?_dropEndWhile]

/-! ## Cleaning -/

theorem dedentLines_cons (f : List Char) (ls : List (List Char)) :
    dedentLines (f :: ls) = trimStart f :: unindented ls := by
  rw [dedentLines, unindented]
  cases margin? ls with
  | none => simp
  | some m => rfl

/-- What is left of a line is its end. -/
theorem exists_suffix_of_mem_unindented {first l : List Char} {body : List (List Char)}
    (h : l ∈ trimStart first :: unindented body) : ∃ l' ∈ first :: body, l <:+ l' := by
  obtain rfl | h := List.mem_cons.mp h
  · exact ⟨first, List.mem_cons_self, List.dropWhile_suffix isSpace⟩
  · obtain ⟨l', hl', rfl⟩ := List.mem_map.mp h
    exact ⟨l', List.mem_cons_of_mem first hl', List.drop_suffix _ l'⟩

theorem cleanLines_eq {t first : List Char} {body : List (List Char)}
    (h : lines (expandTabs 8 t) = first :: body) :
    cleanLines t = dropBlankEdges (trimStart first :: unindented body) := by
  rw [cleanLines, h, dedentLines_cons]

/-- The blank lines at the end go, and a visible line keeps the lines below it. -/
theorem dropBlankEdges_append {a : List (List Char)} (ha : ∀ l ∈ a, isBlank l = true)
    {g : List Char} (hg : isBlank g = false) (below : List (List Char)) :
    dropBlankEdges (a ++ g :: below) = g :: dropEndWhile isBlank below := by
  rw [dropBlankEdges, dropEndWhile_append_of_neg hg, List.dropWhile_append_of_pos ha,
    List.dropWhile_cons, if_neg (by simp [hg])]

/-- The lines of a text from its first visible one on, tabs expanded. -/
def opening (t : List Char) : List (List Char) := (lines (expandTabs 8 t)).dropWhile isBlank

theorem visible_of_dropWhile {ls : List (List Char)} {g : List Char} {below : List (List Char)}
    (h : ls.dropWhile isBlank = g :: below) : isBlank g = false := by
  have hne : ls.dropWhile isBlank ≠ [] := by simp [h]
  have hhead := List.head_dropWhile_not isBlank hne
  simpa only [h, List.head_cons] using hhead

theorem opening_eq_map (t : List Char) :
    opening t = ((lines t).dropWhile isBlank).map (expandTabs 8) := by
  have hblank : isBlank ∘ expandTabs 8 = isBlank := by
    funext l
    exact isBlank_expandTabsFrom 8 0 l
  rw [opening, lines_expandTabs, List.dropWhile_map, hblank]

theorem lines_eq_of_opening {t g : List Char} {below : List (List Char)}
    (h : opening t = g :: below) :
    isBlank g = false ∧ ∃ blanks, (∀ l ∈ blanks, isBlank l = true) ∧
      lines (expandTabs 8 t) = blanks ++ g :: below := by
  refine ⟨visible_of_dropWhile h, (lines (expandTabs 8 t)).takeWhile isBlank, ?_, ?_⟩
  · exact fun l hl => List.mem_takeWhile_imp hl
  · rw [← h, opening, List.takeWhile_append_dropWhile]

theorem opening_eq {t : List Char} {blanks below : List (List Char)} {g : List Char}
    (hb : ∀ l ∈ blanks, isBlank l = true) (hg : isBlank g = false)
    (hl : lines (expandTabs 8 t) = blanks ++ g :: below) : opening t = g :: below := by
  rw [opening, hl, List.dropWhile_append_of_pos hb, List.dropWhile_cons, if_neg (by simp [hg])]

/-- A text of blank lines has nothing left. -/
theorem cleanLines_of_opening_nil {t : List Char} (h : opening t = []) : cleanLines t = [] := by
  have hblank : ∀ l ∈ lines (expandTabs 8 t), isBlank l = true := List.dropWhile_eq_nil_iff.mp h
  rw [cleanLines]
  cases hl : lines (expandTabs 8 t) with
  | nil => rfl
  | cons f ls =>
    rw [hl, List.forall_mem_cons] at hblank
    have hd : dropEndWhile isBlank (dedentLines (f :: ls)) = [] := by
      rw [dropEndWhile_eq_nil_iff, dedentLines_cons, List.forall_mem_cons, isBlank_trimStart]
      exact ⟨hblank.1, isBlank_of_mem_map_drop hblank.2 _⟩
    rw [dropBlankEdges, hd]
    rfl

/-- The lines left of a text with blank lines before its first visible one: that line has a
part in the margin. -/
theorem cleanLines_of_blank_first {t f g : List Char} {blanks below : List (List Char)} {m : Nat}
    (hf : isBlank f = true) (hb : ∀ l ∈ blanks, isBlank l = true)
    (hm : (margin? (g :: below)).getD 0 = m) (hg : isBlank (g.drop m) = false)
    (hl : lines (expandTabs 8 t) = f :: (blanks ++ g :: below)) :
    cleanLines t = g.drop m :: dropEndWhile isBlank (below.map (·.drop m)) := by
  rw [cleanLines_eq hl, unindented, margin?_append_of_blank_left hb, hm, List.map_append,
    List.map_cons, ← List.cons_append, dropBlankEdges_append _ hg]
  rw [List.forall_mem_cons, isBlank_trimStart]
  exact ⟨hf, isBlank_of_mem_map_drop hb m⟩

/-- Whether the lines of a text keep their places when its first visible line loses its
indentation: that line is the first of all, or it stands at the margin of those below. -/
def Aligned (t : List Char) : Prop :=
  match opening t with
  | [] => True
  | g :: below =>
    opening t = lines (expandTabs 8 t) ∨ margin? below = none ∨ margin? below = indent? g

instance (t : List Char) : Decidable (Aligned t) := by
  unfold Aligned
  split
  · exact inferInstanceAs (Decidable True)
  · exact inferInstanceAs (Decidable (_ ∨ _))

/-- The lines left of a text: the first visible one without its indentation, and those
below it without their margin. -/
theorem cleanLines_of_aligned {t g : List Char} {below : List (List Char)}
    (h : opening t = g :: below) (ha : Aligned t) :
    cleanLines t = trimStart g :: dropEndWhile isBlank (unindented below) := by
  obtain ⟨hg, blanks, hblanks, hl⟩ := lines_eq_of_opening h
  have hg' : isBlank (trimStart g) = false := by rw [isBlank_trimStart, hg]
  cases blanks with
  | nil =>
    rw [cleanLines_eq hl]
    exact dropBlankEdges_append (a := []) (by simp) hg' _
  | cons f bs =>
    rw [List.forall_mem_cons] at hblanks
    have hlevel : margin? below = none ∨ margin? below = indent? g := by
      unfold Aligned at ha
      rw [h, hl] at ha
      refine ha.resolve_left fun heq => ?_
      have hlen := congrArg List.length heq
      simp only [List.length_append, List.length_cons] at hlen
      omega
    obtain ⟨k, hk⟩ : ∃ k, indent? g = some k := by
      rw [← Option.ne_none_iff_exists', Ne, indent?_eq_none_iff, hg]
      simp
    have hm : (margin? (g :: below)).getD 0 = k := by
      rw [margin?_cons_of_indent? hk]
      rcases hlevel with hb | hb
      · rw [hb]; rfl
      · rw [hb, hk]; simp
    have hrest : dropEndWhile isBlank (below.map (·.drop k)) =
        dropEndWhile isBlank (unindented below) := by
      rcases hlevel with hb | hb
      · have hblank := isBlank_of_mem_map_drop ((margin?_eq_none_iff below).mp hb)
        rw [unindented, dropEndWhile_eq_nil_iff.mpr (hblank k),
          dropEndWhile_eq_nil_iff.mpr (hblank _)]
      · rw [unindented, hb, hk]; rfl
    rw [← drop_indent hk] at hg' ⊢
    rw [cleanLines_of_blank_first hblanks.1 hblanks.2 hm hg' hl, hrest]

/-- Lines that cleaning leaves as they are, below the first one. -/
structure Tidy (g : List Char) (below : List (List Char)) : Prop where
  visible : isBlank g = false
  unindented : trimStart g = g
  flush : Flush below
  ends : dropEndWhile isBlank below = below
  noTab : ∀ l ∈ g :: below, '\t' ∉ l
  noNewline : ∀ l ∈ g :: below, '\n' ∉ l

namespace Tidy

variable {g : List Char} {below : List (List Char)}

theorem lines_unlines (h : Tidy g below) : lines (unlines (g :: below)) = g :: below :=
  Text.lines_unlines (List.cons_ne_nil g below) h.noNewline

theorem map_expandTabs (h : Tidy g below) : below.map (expandTabs 8) = below := by
  have hid : ∀ l ∈ below, expandTabs 8 l = id l := fun l hl =>
    expandTabs_eq_self (h.noTab l (List.mem_cons_of_mem g hl)) 8
  rw [List.map_congr_left hid, List.map_id]

theorem tab_not_mem (h : Tidy g below) : '\t' ∉ unlines (g :: below) :=
  not_mem_unlines (by decide) h.noTab

theorem cleanLines_unlines (h : Tidy g below) : cleanLines (unlines (g :: below)) = g :: below := by
  have hl : lines (expandTabs 8 (unlines (g :: below))) = g :: below := by
    rw [expandTabs_eq_self h.tab_not_mem, h.lines_unlines]
  have ho : opening (unlines (g :: below)) = g :: below :=
    opening_eq (List.forall_mem_nil _) h.visible hl
  have ha : Aligned (unlines (g :: below)) := by
    unfold Aligned
    rw [ho, hl]
    exact .inl rfl
  rw [cleanLines_of_aligned ho ha, h.unindented, unindented_of_flush h.flush, h.ends]

end Tidy

/-- A line in the first column leaves no margin. -/
theorem margin?_of_mem {l : List Char} {ls : List (List Char)} (hl : l ∈ ls)
    (hi : indent? l = some 0) : margin? ls = some 0 := by
  induction ls with
  | nil => cases hl
  | cons a ls ih =>
    obtain rfl | hl := List.mem_cons.mp hl
    · rw [margin?_cons_of_indent? hi]
      cases margin? ls with
      | none => rfl
      | some m => simp
    · cases ha : indent? a with
      | none => rw [margin?_cons_of_isBlank ((indent?_eq_none_iff a).mp ha), ih hl]
      | some k =>
        rw [margin?_cons_of_indent? ha, ih hl]
        simp

theorem flush_of_mem {l : List Char} {ls : List (List Char)} (hl : l ∈ ls)
    (hi : indent? l = some 0) : Flush ls := by
  rw [Flush, margin?_of_mem hl hi]
  rfl

theorem Flush.eq_none_or {ls : List (List Char)} (h : Flush ls) :
    margin? ls = none ∨ margin? ls = some 0 := by
  unfold Flush at h
  cases hm : margin? ls with
  | none => exact .inl rfl
  | some m =>
    rw [hm, Option.getD_some] at h
    rw [h]
    exact .inr rfl

/-- What cleaning leaves of a text is tidy. -/
theorem tidy_of_opening {t g : List Char} {below : List (List Char)}
    (h : opening t = g :: below) :
    Tidy (trimStart g) (dropEndWhile isBlank (Text.unindented below)) := by
  obtain ⟨hg, blanks, -, hl⟩ := lines_eq_of_opening h
  have hpart : ∀ l ∈ trimStart g :: dropEndWhile isBlank (Text.unindented below),
      ∃ l' ∈ lines (expandTabs 8 t), l <:+ l' := by
    intro l hm
    have hm' : l ∈ trimStart g :: Text.unindented below :=
      List.mem_cons.mpr ((List.mem_cons.mp hm).imp_right mem_of_mem_dropEndWhile)
    obtain ⟨l', hl', hsuf⟩ := exists_suffix_of_mem_unindented hm'
    exact ⟨l', hl ▸ List.mem_append_right blanks hl', hsuf⟩
  exact
    { visible := by rw [isBlank_trimStart, hg]
      unindented := trimStart_trimStart g
      flush := flush_dropEndWhile.mpr (flush_unindented below)
      ends := dropEndWhile_idempotent isBlank _
      noTab := by
        intro l hm hc
        obtain ⟨l', hl', hsuf⟩ := hpart l hm
        exact tab_not_mem_expandTabsFrom 8 0 t (mem_of_mem_lines hl' (hsuf.subset hc))
      noNewline := by
        intro l hm hc
        obtain ⟨l', hl', hsuf⟩ := hpart l hm
        exact newline_not_mem_of_mem_lines hl' (hsuf.subset hc) }

theorem lines_clean {t g : List Char} {below : List (List Char)} (h : opening t = g :: below)
    (ha : Aligned t) :
    lines (clean t) = trimStart g :: dropEndWhile isBlank (unindented below) := by
  rw [clean, cleanLines_of_aligned h ha, (tidy_of_opening h).lines_unlines]

/-- Of a text with one visible line that line is left. -/
theorem clean_of_single_visible {t l : List Char} {a b : List (List Char)}
    (ha : ∀ x ∈ a, isBlank x = true) (hl : isBlank l = false) (hb : ∀ x ∈ b, isBlank x = true)
    (h : lines (expandTabs 8 t) = a ++ l :: b) : clean t = trimStart l := by
  have ho : opening t = l :: b := opening_eq ha hl h
  have hm : margin? b = none := (margin?_eq_none_iff b).mpr hb
  have haligned : Aligned t := by
    unfold Aligned
    rw [ho]
    exact .inr (.inl hm)
  have hrest : dropEndWhile isBlank (unindented b) = [] :=
    dropEndWhile_eq_nil_iff.mpr (isBlank_of_mem_map_drop hb _)
  rw [clean, cleanLines_of_aligned ho haligned, hrest, unlines_singleton]

theorem clean_of_isBlank {t : List Char} (h : isBlank t = true) : clean t = [] := by
  have ho : opening t = [] := by
    rw [opening_eq_map, List.map_eq_nil_iff, List.dropWhile_eq_nil_iff]
    intro l hl
    rw [isBlank, List.all_eq_true] at h ⊢
    exact fun c hc => h c (mem_of_mem_lines hl hc)
  rw [clean, cleanLines_of_opening_nil ho]
  rfl

/-- A text whose lines keep their places is clean after it was cleaned once. -/
theorem clean_clean {t : List Char} (ha : Aligned t) : clean (clean t) = clean t := by
  cases h : opening t with
  | nil =>
    rw [clean, clean, cleanLines_of_opening_nil h]
    rfl
  | cons g below =>
    have ht := tidy_of_opening h
    have hc := cleanLines_of_aligned h ha
    rw [clean, clean, hc, ht.cleanLines_unlines]

end RefBook.Text
