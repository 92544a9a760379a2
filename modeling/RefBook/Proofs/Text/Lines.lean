import Mathlib.Data.List.DropRight
import RefBook.Proofs.Text.Split
import RefBook.Text.Space

/-! # Texts and their lines

Taking a text apart into lines and putting lines together are inverse to each other
as long as no line has a line feed in it. -/

namespace RefBook.Text

theorem beq_of_not_mem_cons {sep c : Char} {t : List Char} (h : sep ∉ c :: t) :
    (c == sep) = false ∧ sep ∉ t := by
  rw [List.mem_cons, not_or] at h
  exact ⟨beq_eq_false_iff_ne.mpr (Ne.symm h.1), h.2⟩

theorem cut?_eq_none {sep : Char} {t : List Char} (h : sep ∉ t) : cut? sep t = none :=
  (cut?_eq_none_iff sep t).mpr h

/-- A text is cut at the first separator. -/
theorem cut?_append {sep : Char} {a : List Char} (h : sep ∉ a) (b : List Char) :
    cut? sep (a ++ sep :: b) = some (a, b) := by
  induction a with
  | nil => simp [cut?]
  | cons c a ih =>
    rw [List.mem_cons, not_or] at h
    rw [List.cons_append, cut?, if_neg (Ne.symm h.1), ih h.2]
    rfl

/-- The first separator is that of the part behind a text without any. -/
theorem cut?_append_left {sep : Char} {a : List Char} (h : sep ∉ a) (b : List Char) :
    cut? sep (a ++ b) = (cut? sep b).map fun c => (a ++ c.1, c.2) := by
  induction a with
  | nil => exact Option.map_id'.symm
  | cons c a ih =>
    rw [List.mem_cons, not_or] at h
    rw [List.cons_append, cut?, if_neg (Ne.symm h.1), ih h.2, Option.map_map]
    rfl

/-- A start of a text that does not reach the separator. -/
theorem prefix_of_prefix_append {sep : Char} {a l t : List Char} (h : sep ∉ a)
    (hp : a <+: l ++ sep :: t) : a <+: l := by
  by_cases hle : a.length ≤ l.length
  · exact List.prefix_of_prefix_length_le hp (List.prefix_append l _) hle
  · have hl : l ++ [sep] <+: a := by
      refine List.prefix_of_prefix_length_le ⟨t, by simp⟩ hp ?_
      rw [List.length_append, List.length_singleton]
      omega
    exact absurd (hl.subset (by simp)) h

theorem lines_of_not_mem {t : List Char} (h : '\n' ∉ t) : lines t = [t] := splitOn_of_not_mem h

/-- A line and its line feed in front of a text add that line to its lines. -/
theorem lines_append {l : List Char} (h : '\n' ∉ l) (t : List Char) :
    lines (l ++ '\n' :: t) = l :: lines t := by
  rw [lines, splitOn_append, splitOn_of_not_mem h]
  rfl

theorem lines_newline_cons (t : List Char) : lines ('\n' :: t) = [] :: lines t :=
  lines_append (List.not_mem_nil) t

theorem newline_not_mem_of_mem_lines {t l : List Char} (h : l ∈ lines t) : '\n' ∉ l :=
  not_mem_of_mem_splitOn h

theorem unlines_singleton (l : List Char) : unlines [l] = l := rfl

theorem unlines_cons_cons (l l' : List Char) (ls : List (List Char)) :
    unlines (l :: l' :: ls) = l ++ '\n' :: unlines (l' :: ls) := by
  simp [unlines, joinWith]

/-- The lines of lines put together are these lines. -/
theorem lines_unlines {ls : List (List Char)} (hne : ls ≠ []) (h : ∀ l ∈ ls, '\n' ∉ l) :
    lines (unlines ls) = ls :=
  splitOn_joinWith hne h

/-- The first line stands in front of the others, each with a line feed before it. -/
theorem unlines_cons (l : List Char) (ls : List (List Char)) :
    unlines (l :: ls) = l ++ ls.flatMap ('\n' :: ·) := by
  induction ls generalizing l with
  | nil => simp [unlines_singleton]
  | cons l' ls ih => rw [unlines_cons_cons, ih l', List.flatMap_cons, List.cons_append]

theorem unlines_append_right {a : List (List Char)} (ha : a ≠ []) (b : List (List Char)) :
    unlines (a ++ b) = unlines a ++ b.flatMap ('\n' :: ·) := by
  obtain ⟨l, ls, rfl⟩ := List.exists_cons_of_ne_nil ha
  rw [List.cons_append, unlines_cons, unlines_cons, List.flatMap_append, List.append_assoc]

theorem takeWhile_unlines {l : List Char} (h : '\n' ∉ l) (ls : List (List Char)) :
    (unlines (l :: ls)).takeWhile (· != '\n') = l := by
  have hl : ∀ c ∈ l, (c != '\n') = true := by
    intro c hc
    rw [bne_iff_ne]
    rintro rfl
    exact h hc
  rw [unlines_cons, List.takeWhile_append_of_pos hl]
  cases ls with
  | nil => simp
  | cons l' ls => simp

theorem mem_unlines {c : Char} {ls : List (List Char)} (h : c ∈ unlines ls) :
    c = '\n' ∨ ∃ l ∈ ls, c ∈ l :=
  mem_joinWith h

theorem not_mem_unlines {c : Char} (hc : c ≠ '\n') {ls : List (List Char)} (h : ∀ l ∈ ls, c ∉ l) :
    c ∉ unlines ls := by
  intro hm
  obtain heq | ⟨l, hl, hm⟩ := mem_unlines hm
  · exact hc heq
  · exact h l hl hm

theorem mem_unlines_of_mem {c : Char} {l : List Char} {ls : List (List Char)} (hl : l ∈ ls)
    (hc : c ∈ l) : c ∈ unlines ls := by
  induction ls with
  | nil => cases hl
  | cons a ls ih =>
    cases ls with
    | nil =>
      rw [List.mem_singleton.mp hl] at hc
      exact hc
    | cons a' ls =>
      rw [unlines_cons_cons, List.mem_append, List.mem_cons]
      rcases List.mem_cons.mp hl with rfl | hl
      · exact .inl hc
      · exact .inr (.inr (ih hl))

theorem mem_of_mem_lines {c : Char} {t l : List Char} (hl : l ∈ lines t) (hc : c ∈ l) : c ∈ t := by
  rw [← unlines_lines t]
  exact mem_unlines_of_mem hl hc

/-- The lines, each with its line feed. -/
def terminated (ls : List (List Char)) : List Char := ls.flatMap (· ++ ['\n'])

theorem terminated_cons (l : List Char) (ls : List (List Char)) :
    terminated (l :: ls) = l ++ '\n' :: terminated ls := by
  simp [terminated]

/-- All lines but the last ones have their line feed before those. -/
theorem unlines_append {a b : List (List Char)} (hb : b ≠ []) :
    unlines (a ++ b) = terminated a ++ unlines b := by
  induction a with
  | nil => rfl
  | cons l a ih =>
    obtain ⟨l', ls, hls⟩ := List.exists_cons_of_ne_nil (List.append_ne_nil_of_right_ne_nil a hb)
    rw [List.cons_append, hls, unlines_cons_cons, ← hls, ih, terminated_cons]
    simp

theorem terminated_eq_unlines (ls : List (List Char)) : terminated ls = unlines (ls ++ [[]]) := by
  rw [unlines_append (List.cons_ne_nil _ _), unlines_singleton, List.append_nil]

theorem dropEndWhile_eq_rdropWhile {α : Type} (p : α → Bool) (l : List α) :
    dropEndWhile p l = l.rdropWhile p := rfl

theorem dropEndWhile_eq_nil_iff {α : Type} {p : α → Bool} {l : List α} :
    dropEndWhile p l = [] ↔ ∀ a ∈ l, p a = true := by
  rw [dropEndWhile_eq_rdropWhile, List.rdropWhile_eq_nil_iff]

/-- An element that is not dropped keeps all that precedes it. -/
theorem dropEndWhile_append_of_neg {α : Type} {p : α → Bool} {a : α} (h : p a = false)
    (l r : List α) : dropEndWhile p (l ++ a :: r) = l ++ a :: dropEndWhile p r := by
  induction r using List.reverseRecOn with
  | nil => simp [dropEndWhile, h]
  | append_singleton r b ih =>
    rw [← List.cons_append, ← List.append_assoc]
    simp only [dropEndWhile_eq_rdropWhile] at ih ⊢
    cases hb : p b with
    | true => rw [List.rdropWhile_concat_pos _ _ _ hb, List.rdropWhile_concat_pos _ _ _ hb, ih]
    | false =>
      rw [List.rdropWhile_concat_neg _ _ _ (by simp [hb]),
        List.rdropWhile_concat_neg _ _ _ (by simp [hb])]
      simp

theorem dropEndWhile_idempotent {α : Type} (p : α → Bool) (l : List α) :
    dropEndWhile p (dropEndWhile p l) = dropEndWhile p l :=
  List.rdropWhile_idempotent p l

theorem mem_of_mem_dropEndWhile {α : Type} {p : α → Bool} {l : List α} {a : α}
    (h : a ∈ dropEndWhile p l) : a ∈ l :=
  (List.rdropWhile_prefix p (l := l)).subset h

/-- What is dropped at the end satisfies the predicate. -/
theorem dropEndWhile_append_dropped {α : Type} (p : α → Bool) (l : List α) :
    ∃ r, l = dropEndWhile p l ++ r ∧ ∀ a ∈ r, p a = true := by
  refine ⟨l.rtakeWhile p, ?_, fun a ha => List.mem_rtakeWhile_imp ha⟩
  exact List.rdropWhile_append_rtakeWhile.symm

/-- A run of characters ends where another character follows. -/
theorem span_append {p : Char → Bool} {a b : List Char} (ha : ∀ c ∈ a, p c = true)
    (hb : ∀ c ∈ b.head?, p c = false) :
    (a ++ b).takeWhile p = a ∧ (a ++ b).dropWhile p = b := by
  rw [List.takeWhile_append_of_pos ha, List.dropWhile_append_of_pos ha]
  cases b with
  | nil => exact ⟨List.append_nil a, rfl⟩
  | cons c b =>
    have hc : ¬ p c = true := by simp [hb c rfl]
    rw [List.takeWhile_cons, if_neg hc, List.dropWhile_cons, if_neg hc, List.append_nil]
    exact ⟨rfl, rfl⟩

theorem isBlank_iff (t : List Char) : isBlank t = true ↔ trimStart t = [] := by
  unfold isBlank trimStart
  rw [List.dropWhile_eq_nil_iff, List.all_eq_true]

theorem trimStart_of_head {c : Char} (h : isSpace c = false) (t : List Char) :
    trimStart (c :: t) = c :: t := by
  rw [trimStart, List.dropWhile_cons, if_neg (by simp [h])]

theorem isBlank_of_head {c : Char} (h : isSpace c = false) (t : List Char) :
    isBlank (c :: t) = false := by
  simp [isBlank, h]

/-- What is trimmed is empty or starts with a visible character. -/
theorem trimStart_cases (t : List Char) :
    trimStart t = [] ∨ ∃ c t', trimStart t = c :: t' ∧ isSpace c = false := by
  induction t with
  | nil => exact .inl rfl
  | cons c t ih =>
    by_cases hc : isSpace c = true
    · have ht : trimStart (c :: t) = trimStart t := by
        rw [trimStart, List.dropWhile_cons, if_pos hc]
        rfl
      rw [ht]
      exact ih
    · have hs : isSpace c = false := by simpa using hc
      exact .inr ⟨c, t, trimStart_of_head hs t, hs⟩

theorem trimStart_append_of_isBlank {a : List Char} (h : isBlank a = true) (b : List Char) :
    trimStart (a ++ b) = trimStart b := by
  unfold trimStart
  rw [List.dropWhile_append_of_pos]
  exact List.all_eq_true.mp h

theorem trimStart_trimStart (t : List Char) : trimStart (trimStart t) = trimStart t := by
  unfold trimStart
  exact List.dropWhile_idempotent isSpace t

theorem isBlank_trimStart (t : List Char) : isBlank (trimStart t) = isBlank t := by
  rw [Bool.eq_iff_iff, isBlank_iff, isBlank_iff, trimStart_trimStart]

/-- What is not blank is white space and then a visible character. -/
theorem exists_of_visible {l : List Char} (h : isBlank l = false) :
    ∃ pad c t, l = pad ++ c :: t ∧ isBlank pad = true ∧ isSpace c = false := by
  obtain hnil | ⟨c, t, hcons, hc⟩ := trimStart_cases l
  · rw [(isBlank_iff l).mpr hnil] at h
    cases h
  · refine ⟨l.takeWhile isSpace, c, t, ?_, ?_, hc⟩
    · rw [← hcons, trimStart, List.takeWhile_append_dropWhile]
    · exact List.all_takeWhile

theorem trimStart_append_of_visible {a : List Char} (h : isBlank a = false) (b : List Char) :
    trimStart (a ++ b) = trimStart a ++ b := by
  obtain ⟨pad, c, t, rfl, hp, hc⟩ := exists_of_visible h
  rw [List.append_assoc, trimStart_append_of_isBlank hp, trimStart_append_of_isBlank hp,
    List.cons_append, trimStart_of_head hc, trimStart_of_head hc, List.cons_append]

theorem isBlank_terminated {ls : List (List Char)} (h : ∀ l ∈ ls, isBlank l = true) :
    isBlank (terminated ls) = true := by
  induction ls with
  | nil => rfl
  | cons l ls ih =>
    rw [List.forall_mem_cons] at h
    have hcons : isBlank ('\n' :: terminated ls) = true := by
      rw [isBlank, List.all_cons, isSpace_newline]
      exact ih h.2
    rw [terminated_cons, isBlank, List.all_append, Bool.and_eq_true]
    exact ⟨h.1, hcons⟩

theorem isBlank_unlines {ls : List (List Char)} (h : ∀ l ∈ ls, isBlank l = true) :
    isBlank (unlines ls) = true := by
  rw [isBlank, List.all_eq_true]
  intro c hc
  rcases mem_unlines hc with rfl | ⟨l, hl, hcl⟩
  · exact isSpace_newline
  · exact List.all_eq_true.mp (h l hl) c hcl

/-- Trimming leaves out the blank lines and the indentation of the first visible one. -/
theorem trimStart_eq_unlines {t g : List Char} {below : List (List Char)}
    (h : (lines t).dropWhile isBlank = g :: below) (hg : isBlank g = false) :
    trimStart t = unlines (trimStart g :: below) := by
  have hblank : ∀ l ∈ (lines t).takeWhile isBlank, isBlank l = true :=
    fun l hl => List.mem_takeWhile_imp hl
  have ht : t = terminated ((lines t).takeWhile isBlank) ++ unlines (g :: below) := by
    rw [← unlines_append (List.cons_ne_nil g below), ← h, List.takeWhile_append_dropWhile,
      unlines_lines]
  rw [ht, trimStart_append_of_isBlank (isBlank_terminated hblank), unlines_cons,
    trimStart_append_of_visible hg, ← unlines_cons]

theorem trimEnd_eq_self_iff (t : List Char) :
    trimEnd t = t ↔ ∀ c ∈ t.getLast?, isSpace c = false := by
  have hself : trimEnd t = t ↔ ∀ h : t ≠ [], ¬ isSpace (t.getLast h) = true :=
    List.rdropWhile_eq_self_iff
  rw [hself]
  constructor
  · intro h c hc
    obtain ⟨hne, rfl⟩ := List.mem_getLast?_eq_getLast hc
    exact Bool.not_eq_true _ ▸ h hne
  · intro h hne
    rw [Bool.not_eq_true]
    exact h _ (List.getLast?_eq_some_getLast hne)

theorem trimEnd_append_of_isBlank (a : List Char) {b : List Char} (h : isBlank b = true) :
    trimEnd (a ++ b) = trimEnd a := by
  have hb := List.all_eq_true.mp h
  rw [trimEnd, trimEnd, dropEndWhile, dropEndWhile, List.reverse_append,
    List.dropWhile_append_of_pos fun c hc => hb c (List.mem_reverse.mp hc)]

/-- Line feeds at the end of a text go, up to one that ends in another character. -/
theorem trimLineFeeds_append {x b : List Char} (hne : x ≠ []) (hhead : x.head? ≠ some '\n')
    (hlast : x.getLast? ≠ some '\n') (hb : ∀ c ∈ b, c = '\n') : trimLineFeeds (x ++ b) = x := by
  have hstart : (x ++ b).dropWhile (· == '\n') = x ++ b := by
    obtain ⟨c, t, rfl⟩ := List.exists_cons_of_ne_nil hne
    rw [List.cons_append, List.dropWhile_cons, if_neg]
    rw [beq_iff_eq]
    rintro rfl
    exact hhead rfl
  obtain ⟨y, c, rfl⟩ := (List.eq_nil_or_concat' x).resolve_left hne
  have hc : (c == '\n') = false := by
    rw [beq_eq_false_iff_ne]
    rintro rfl
    exact hlast (by simp)
  rw [trimLineFeeds, hstart, List.append_assoc, List.singleton_append,
    dropEndWhile_append_of_neg (p := (· == '\n')) hc,
    dropEndWhile_eq_nil_iff.mpr fun a ha => by rw [hb a ha]; rfl]

/-- Empty lines at the end go, up to one that is not empty. -/
theorem trimLineFeeds_unlines {ls blanks : List (List Char)} (hne : ls ≠ [])
    (h : ∀ l ∈ ls, l ≠ [] ∧ '\n' ∉ l) (hb : ∀ l ∈ blanks, l = []) :
    trimLineFeeds (unlines (ls ++ blanks)) = unlines ls := by
  have hhead : (unlines ls).head? ≠ some '\n' := by
    obtain ⟨l, ls', rfl⟩ := List.exists_cons_of_ne_nil hne
    obtain ⟨hl, hnl⟩ := h l List.mem_cons_self
    obtain ⟨c, t, rfl⟩ := List.exists_cons_of_ne_nil hl
    rw [unlines_cons, List.cons_append, List.head?_cons]
    rintro ⟨rfl⟩
    exact hnl List.mem_cons_self
  obtain ⟨ls', l, rfl⟩ := (List.eq_nil_or_concat' ls).resolve_left hne
  obtain ⟨hl, hnl⟩ := h l (by simp)
  have hx : unlines (ls' ++ [l]) = terminated ls' ++ l := by
    rw [unlines_append (List.cons_ne_nil l []), unlines_singleton]
  have hlast : (unlines (ls' ++ [l])).getLast? ≠ some '\n' := by
    rw [hx, List.getLast?_append_of_ne_nil _ hl]
    exact fun hc => hnl (List.mem_of_mem_getLast? hc)
  rw [unlines_append_right hne]
  refine trimLineFeeds_append ?_ hhead hlast ?_
  · rw [hx]
    simp [hl]
  · intro c hc
    obtain ⟨b, hbm, hcb⟩ := List.mem_flatMap.mp hc
    rw [hb b hbm] at hcb
    exact List.mem_singleton.mp hcb

/-- Trimming takes away the white space around a text without any at its ends. -/
theorem trim_append_append {a x b : List Char} (ha : isBlank a = true) (hb : isBlank b = true)
    (hx : trimStart x = x) (hx' : trimEnd x = x) : trim (a ++ x ++ b) = x := by
  rw [trim, List.append_assoc, trimStart_append_of_isBlank ha]
  cases hv : isBlank x with
  | true =>
    rw [trimStart_append_of_isBlank hv, (isBlank_iff b).mp hb, ← hx, (isBlank_iff x).mp hv]
    rfl
  | false => rw [trimStart_append_of_visible hv, hx, trimEnd_append_of_isBlank x hb, hx']

end RefBook.Text
