import RefBook.Extract.Value
import RefBook.Proofs.Text.Lines

/-! # Words

White space ends a word and belongs to none, so wherever a text is cut at white space its
words are those of the two parts. A text is written on one line by such cuts: its line
feeds and the white space around them give way to single blanks. -/

namespace RefBook.Text

@[simp] theorem words_nil : words [] = [] := by simp [words]

/-- A text is cut into words at any of its white space. -/
theorem words_append_cons {c : Char} (hc : isSpace c = true) (a b : List Char) :
    words (a ++ c :: b) = words a ++ words b := by
  rw [words, List.splitOnP_append_cons a b hc, List.filter_append]
  rfl

theorem words_cons {c : Char} (hc : isSpace c = true) (t : List Char) :
    words (c :: t) = words t :=
  words_append_cons hc [] t

theorem words_of_visible {w : List Char} (hw : ∀ c ∈ w, isSpace c = false) (hne : w ≠ []) :
    words w = [w] := by
  rw [words, List.splitOnP_eq_singleton hw]
  simp [hne]

theorem words_append_of_isBlank_left {a : List Char} (ha : isBlank a = true) (t : List Char) :
    words (a ++ t) = words t := by
  induction a with
  | nil => rfl
  | cons c a ih =>
    rw [isBlank, List.all_cons, Bool.and_eq_true] at ha
    rw [List.cons_append, words_cons ha.1, ih ha.2]

theorem words_append_of_isBlank_right {b : List Char} (hb : isBlank b = true) (t : List Char) :
    words (t ++ b) = words t := by
  cases b with
  | nil => rw [List.append_nil]
  | cons c b =>
    rw [isBlank, List.all_cons, Bool.and_eq_true] at hb
    have hnone : words b = [] := by
      rw [← List.append_nil b, words_append_of_isBlank_left hb.2, words_nil]
    rw [words_append_cons hb.1, hnone, List.append_nil]

/-- The white space around a text has no part in its words. -/
theorem words_trim (t : List Char) : words (trim t) = words t := by
  have hstart : words (trimStart t) = words t := by
    nth_rewrite 2 [← List.takeWhile_append_dropWhile (p := isSpace) (l := t)]
    exact (words_append_of_isBlank_left List.all_takeWhile _).symm
  obtain ⟨b, hb, hblank⟩ := dropEndWhile_append_dropped isSpace (trimStart t)
  rw [← hstart, hb, words_append_of_isBlank_right (List.all_eq_true.mpr hblank)]
  rfl

/-- Pieces joined by white space have the words of each piece. -/
theorem words_joinWith {sep : Char} (hsep : isSpace sep = true) (ls : List (List Char)) :
    words (joinWith [sep] ls) = ls.flatMap words := by
  induction ls with
  | nil => exact words_nil
  | cons l ls ih =>
    cases ls with
    | nil => exact (List.append_nil (words l)).symm
    | cons l' ls =>
      rw [joinWith_cons (List.cons_ne_nil l' ls), List.append_assoc, List.singleton_append,
        words_append_cons hsep, ih, ← List.flatMap_cons]

theorem flatMap_words_lines (t : List Char) : (lines t).flatMap words = words t := by
  rw [← words_joinWith isSpace_newline]
  exact congrArg words (unlines_lines t)

theorem isSpace_of_mem_head?_trim {t : List Char} {c : Char} (h : c ∈ (trim t).head?) :
    isSpace c = false := by
  have hprefix : trim t <+: trimStart t := List.rdropWhile_prefix isSpace (trimStart t)
  have hhead : c ∈ (trimStart t).head? := by
    obtain ⟨x, ht⟩ := List.head?_eq_some_iff.mp h
    obtain ⟨r, hr⟩ := ht ▸ hprefix
    rw [← hr]
    rfl
  obtain hnil | ⟨a, t', hcons, ha⟩ := trimStart_cases t
  · rw [hnil] at hhead
    cases hhead
  · rw [hcons] at hhead
    exact Option.some.inj hhead ▸ ha

theorem isSpace_of_mem_getLast?_trim {t : List Char} {c : Char} (h : c ∈ (trim t).getLast?) :
    isSpace c = false :=
  (trimEnd_eq_self_iff (trim t)).mp (dropEndWhile_idempotent isSpace (trimStart t)) c h

theorem mem_of_mem_trim {t : List Char} {c : Char} (h : c ∈ trim t) : c ∈ t :=
  (List.dropWhile_suffix isSpace).subset (mem_of_mem_dropEndWhile h)

theorem head?_joinWith (sep : List Char) {l : List Char} (hl : l ≠ []) (ls : List (List Char)) :
    (joinWith sep (l :: ls)).head? = l.head? := by
  cases ls with
  | nil => rfl
  | cons l' ls =>
    rw [joinWith_cons (List.cons_ne_nil l' ls), List.append_assoc,
      List.head?_append_of_ne_nil l hl]

theorem getLast?_joinWith_concat (sep : List Char) (ls : List (List Char)) {l : List Char}
    (hl : l ≠ []) : (joinWith sep (ls ++ [l])).getLast? = l.getLast? := by
  induction ls with
  | nil => rfl
  | cons l' ls ih =>
    rw [List.cons_append, joinWith_cons (List.append_ne_nil_of_right_ne_nil ls (by simp)),
      List.getLast?_append_of_ne_nil _ ?_, ih]
    intro hnil
    rw [hnil, List.getLast?_nil, eq_comm, List.getLast?_eq_none_iff] at ih
    exact hl ih

/-- The trimmed lines of a text, those with nothing in them left out. -/
def lineContents (t : List Char) : List (List Char) :=
  ((lines t).map trim).filter fun piece => !piece.isEmpty

theorem oneLine_of_mem {t : List Char} (h : '\n' ∈ t) : oneLine t = joinWith [' '] (lineContents t) :=
  if_pos h

theorem oneLine_of_not_mem {t : List Char} (h : '\n' ∉ t) : oneLine t = t := if_neg h

/-- A piece is a trimmed line, and it is not empty. -/
theorem exists_of_mem_lineContents {t p : List Char} (h : p ∈ lineContents t) :
    p ≠ [] ∧ ∃ l ∈ lines t, trim l = p := by
  obtain ⟨hmap, hne⟩ := List.mem_filter.mp h
  exact ⟨by simpa using hne, List.mem_map.mp hmap⟩

theorem flatMap_words_lineContents (t : List Char) : (lineContents t).flatMap words = words t := by
  have hfilter : ∀ ls : List (List Char),
      (ls.filter fun l => !l.isEmpty).flatMap words = ls.flatMap words := by
    intro ls
    induction ls with
    | nil => rfl
    | cons l ls ih =>
      cases l with
      | nil => exact ih
      | cons c l => rw [List.filter_cons_of_pos (by rfl), List.flatMap_cons, ih, List.flatMap_cons]
  rw [lineContents, hfilter, List.flatMap_map]
  simp only [words_trim]
  exact flatMap_words_lines t

theorem newline_not_mem_oneLine (t : List Char) : '\n' ∉ oneLine t := by
  by_cases h : '\n' ∈ t
  · rw [oneLine_of_mem h]
    intro hm
    obtain heq | ⟨p, hp, hm⟩ := mem_joinWith hm
    · cases heq
    · obtain ⟨-, l, hl, rfl⟩ := exists_of_mem_lineContents hp
      exact newline_not_mem_of_mem_lines hl (mem_of_mem_trim hm)
  · rwa [oneLine_of_not_mem h]

theorem words_oneLine (t : List Char) : words (oneLine t) = words t := by
  by_cases h : '\n' ∈ t
  · rw [oneLine_of_mem h, words_joinWith (by decide), flatMap_words_lineContents]
  · rw [oneLine_of_not_mem h]

/-- What was on several lines neither starts nor ends with white space. -/
theorem oneLine_ends {t : List Char} (h : '\n' ∈ t) :
    (∀ c ∈ (oneLine t).head?, isSpace c = false) ∧
      ∀ c ∈ (oneLine t).getLast?, isSpace c = false := by
  rw [oneLine_of_mem h]
  have hmem : ∀ p ∈ lineContents t, p ≠ [] ∧ ∃ l ∈ lines t, trim l = p :=
    fun _ hp => exists_of_mem_lineContents hp
  constructor
  · intro c hc
    cases hps : lineContents t with
    | nil =>
      rw [hps] at hc
      cases hc
    | cons p ps =>
      obtain ⟨hne, l, -, rfl⟩ := hmem p (hps ▸ List.mem_cons_self)
      rw [hps, head?_joinWith [' '] hne] at hc
      exact isSpace_of_mem_head?_trim hc
  · intro c hc
    obtain hps | ⟨ps, p, hps⟩ := List.eq_nil_or_concat' (lineContents t)
    · rw [hps] at hc
      cases hc
    · obtain ⟨hne, l, -, rfl⟩ := hmem p (by rw [hps]; simp)
      rw [hps, getLast?_joinWith_concat [' '] ps hne] at hc
      exact isSpace_of_mem_getLast?_trim hc

/-- **Writing a text on one line keeps its words**: the same ones in the same order. There is
no line feed left, so a second time changes nothing, and a text that had several lines has
no white space at its ends. The recorded text of an expression has the words of its source. -/
theorem oneLine_keeps_words (t : List Char) :
    words (oneLine t) = words t ∧ '\n' ∉ oneLine t ∧ oneLine (oneLine t) = oneLine t ∧
    ('\n' ∈ t → (∀ c ∈ (oneLine t).head?, isSpace c = false) ∧
      ∀ c ∈ (oneLine t).getLast?, isSpace c = false) ∧
    ∀ (source : List Char) (e : Source.Expr),
      words (Extract.exprText source e).toList =
        words ((source.drop e.span.start).take (e.span.stop - e.span.start)) := by
  refine ⟨words_oneLine t, newline_not_mem_oneLine t,
    oneLine_of_not_mem (newline_not_mem_oneLine t), oneLine_ends, ?_⟩
  intro source e
  rw [Extract.exprText, String.toList_ofList, words_oneLine]

/-- A call over four lines, of which one is empty; white space of other kinds stands at the
ends of two of them. -/
def brokenCall : List Char := "f(\n    a,\r\n\n\u2028b )".toList

theorem brokenCall_keeps_words :
    oneLine brokenCall = "f( a, b )".toList ∧
    words brokenCall = ["f(".toList, "a,".toList, "b".toList, ")".toList] ∧
    words (oneLine brokenCall) = words brokenCall ∧
    '\n' ∈ brokenCall ∧ '\n' ∉ oneLine brokenCall ∧
    oneLine (oneLine brokenCall) = oneLine brokenCall ∧
    'f' ∈ (oneLine brokenCall).head? ∧ isSpace 'f' = false ∧
    ')' ∈ (oneLine brokenCall).getLast? ∧ isSpace ')' = false := by
  obtain ⟨hwords, hline, hagain, hends, -⟩ := oneLine_keeps_words brokenCall
  have hfeed : '\n' ∈ brokenCall := by decide
  have hfirst : 'f' ∈ (oneLine brokenCall).head? := by decide
  have hlast : ')' ∈ (oneLine brokenCall).getLast? := by decide
  exact ⟨by decide, by decide, hwords, hfeed, hline, hagain, hfirst, (hends hfeed).1 'f' hfirst,
    hlast, (hends hfeed).2 ')' hlast⟩

end RefBook.Text
