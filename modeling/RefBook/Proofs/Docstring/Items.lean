import RefBook.Docstring.Google
import RefBook.Proofs.Text.Lines

/-! # The items of a section

All white space before the first word of a section counts as its indentation, and an item
starts wherever it stands again in front of a word. If it is the white space of one line,
the items are the lines that start with it, each with the lines up to the next one. -/

namespace RefBook.Docstring.Google

open Text (isBlank isSpace unlines terminated)

/-! ## Starts of items -/

variable {indent : List Char}

theorem startsItem_iff (t : List Char) :
    startsItem indent t = true ↔ ∃ c rest, t = indent ++ c :: rest ∧ isSpace c = false := by
  rw [startsItem, Bool.and_eq_true, List.isPrefixOf_iff_prefix]
  constructor
  · rintro ⟨⟨u, rfl⟩, hvisible⟩
    rw [List.drop_left] at hvisible
    cases u with
    | nil => cases hvisible
    | cons c rest => exact ⟨c, rest, rfl, by simpa using hvisible⟩
  · rintro ⟨c, rest, rfl, hc⟩
    rw [List.drop_left]
    exact ⟨List.prefix_append indent _, by simpa using hc⟩

theorem startsItem_nil : startsItem indent [] = false := by
  rw [startsItem, List.drop_nil]
  exact Bool.and_false _

theorem startsItem_append {t : List Char} (h : startsItem indent t = true) (u : List Char) :
    startsItem indent (t ++ u) = true := by
  obtain ⟨c, rest, rfl, hc⟩ := (startsItem_iff t).mp h
  exact (startsItem_iff _).mpr ⟨c, rest ++ u, by simp, hc⟩

/-- Whether a line starts behind a text, if one starts before it as given. -/
def endsLine (lineStart : Bool) (t : List Char) : Bool := t.foldl (fun _ c => c == '\n') lineStart

theorem itemsFrom_skip (a : List Char) (lineStart : Bool) (t : List Char) :
    itemsFrom indent a.length lineStart (a ++ t) = itemsFrom indent 0 (endsLine lineStart a) t := by
  induction a generalizing lineStart with
  | nil => rfl
  | cons c a ih =>
    rw [List.length_cons, List.cons_append, itemsFrom, ih]
    rfl

/-- Where no item starts, the text goes on. -/
theorem itemsFrom_of_no_start {lineStart : Bool} {c : Char} {t : List Char}
    (h : lineStart = true → startsItem indent (c :: t) = false) :
    itemsFrom indent 0 lineStart (c :: t) =
      (c :: (itemsFrom indent 0 (c == '\n') t).1, (itemsFrom indent 0 (c == '\n') t).2) := by
  rw [itemsFrom, if_neg]
  cases lineStart with
  | false => simp
  | true => simp [h rfl]

theorem eq_newline_of_visible {c : Char} (hc : isSpace c = false) : (c == '\n') = false := by
  rw [beq_eq_false_iff_ne]
  rintro rfl
  exact absurd hc (by decide)

/-- The text of an item starts behind the indentation. -/
theorem itemsFrom_of_start (hindent : isBlank indent = true) {c : Char} (hc : isSpace c = false)
    (t : List Char) :
    itemsFrom indent 0 true (indent ++ c :: t) =
      ([], (c :: (itemsFrom indent 0 false t).1) :: (itemsFrom indent 0 false t).2) := by
  have hstart : startsItem indent (indent ++ c :: t) = true :=
    (startsItem_iff _).mpr ⟨c, t, rfl, hc⟩
  have hnewline := eq_newline_of_visible hc
  cases indent with
  | nil =>
    rw [List.nil_append] at hstart ⊢
    rw [itemsFrom, hstart, hnewline]
    rfl
  | cons i is =>
    have hother : ∀ b : Bool, b = true → startsItem (i :: is) (c :: t) = false := by
      intro b _
      rw [← Bool.not_eq_true, startsItem_iff]
      rintro ⟨c', rest, heq, -⟩
      cases heq
      rw [isBlank, List.all_cons, hc] at hindent
      cases hindent
    rw [List.cons_append] at hstart ⊢
    rw [itemsFrom, Bool.true_and, if_pos hstart, if_neg (by simp), List.length_cons,
      Nat.add_sub_cancel, itemsFrom_skip, itemsFrom_of_no_start (hother _), hnewline]

/-! ## Cutting a text -/

/-- No item starts in the text, behind its first character. -/
def Whole (indent t : List Char) : Prop := ∀ a s, t = a ++ '\n' :: s → startsItem indent s = false

/-- A body cut into the texts of its items: each stands behind the indentation, starts with a
visible character, ends its line if another one follows, and holds no other start. -/
structure Cut (indent body : List Char) (texts : List (List Char)) : Prop where
  join : texts.flatMap (indent ++ ·) = body
  visible : ∀ t ∈ texts, ∃ c ∈ t.head?, isSpace c = false
  lineEnd : ∀ t ∈ texts.dropLast, t.getLast? = some '\n'
  whole : ∀ t ∈ texts, Whole indent t

/-- What is found from some place on: the text before the first item, and the items. -/
structure Found (indent : List Char) (lineStart : Bool) (t lead : List Char)
    (texts : List (List Char)) : Prop where
  join : lead ++ texts.flatMap (indent ++ ·) = t
  cut : Cut indent (texts.flatMap (indent ++ ·)) texts
  leadEnd : texts ≠ [] → endsLine lineStart lead = true
  leadWhole : ∀ a s, lead = a ++ s → endsLine lineStart a = true → startsItem indent s = false

theorem endsLine_concat (lineStart : Bool) (t : List Char) (c : Char) :
    endsLine lineStart (t ++ [c]) = (c == '\n') := by
  rw [endsLine, List.foldl_append]
  rfl

theorem getLast?_of_endsLine {c : Char} {t : List Char} (lineStart : Bool)
    (h : endsLine lineStart (c :: t) = true) : (c :: t).getLast? = some '\n' := by
  obtain ⟨t', c', ht⟩ := (List.eq_nil_or_concat' (c :: t)).resolve_left (List.cons_ne_nil c t)
  rw [ht, endsLine_concat, beq_iff_eq] at h
  rw [ht, h, List.getLast?_concat]

theorem Found.nil (lineStart : Bool) : Found indent lineStart [] [] [] where
  join := rfl
  cut := ⟨rfl, List.forall_mem_nil _, List.forall_mem_nil _, List.forall_mem_nil _⟩
  leadEnd h := absurd rfl h
  leadWhole a s h _ := by
    obtain ⟨-, rfl⟩ := List.append_eq_nil_iff.mp h.symm
    exact startsItem_nil

/-- What precedes the first item belongs to the item that starts in front of it. -/
theorem Found.start {t lead : List Char} {texts : List (List Char)}
    (h : Found indent false t lead texts) {c : Char} (hc : isSpace c = false) :
    Found indent true (indent ++ c :: t) [] ((c :: lead) :: texts) where
  join := by simp [← h.join]
  cut := by
    have hnewline := eq_newline_of_visible hc
    refine ⟨rfl, List.forall_mem_cons.mpr ⟨⟨c, rfl, hc⟩, h.cut.visible⟩, ?_,
      List.forall_mem_cons.mpr ⟨fun a s has => ?_, h.cut.whole⟩⟩
    · cases texts with
      | nil => exact List.forall_mem_nil _
      | cons x texts =>
        refine List.forall_mem_cons.mpr ⟨getLast?_of_endsLine false ?_, h.cut.lineEnd⟩
        rw [endsLine, List.foldl_cons, hnewline]
        exact h.leadEnd (List.cons_ne_nil x texts)
    · cases a with
      | nil =>
        cases has
        exact absurd hnewline (by decide)
      | cons a' a =>
        cases has
        exact h.leadWhole (a ++ ['\n']) s (by simp) (endsLine_concat _ _ _)
  leadEnd _ := rfl
  leadWhole a s h _ := by
    obtain ⟨-, rfl⟩ := List.append_eq_nil_iff.mp h.symm
    exact startsItem_nil

theorem Found.step {lineStart : Bool} {c : Char} {t lead : List Char} {texts : List (List Char)}
    (hnone : lineStart = true → startsItem indent (c :: t) = false)
    (h : Found indent (c == '\n') t lead texts) :
    Found indent lineStart (c :: t) (c :: lead) texts where
  join := congrArg (c :: ·) h.join
  cut := h.cut
  leadEnd := h.leadEnd
  leadWhole a s has ha := by
    cases a with
    | nil =>
      obtain rfl : c :: lead = s := has
      have hwhole := hnone ha
      rw [← Bool.not_eq_true, ← h.join] at hwhole
      rw [← Bool.not_eq_true]
      exact fun hs => hwhole (startsItem_append hs _)
    | cons a' a =>
      rw [List.cons_append, List.cons_eq_cons] at has
      obtain ⟨rfl, has⟩ := has
      exact h.leadWhole a s has ha

theorem found_itemsFrom (hindent : isBlank indent = true) (lineStart : Bool) (t : List Char) :
    Found indent lineStart t (itemsFrom indent 0 lineStart t).1
      (itemsFrom indent 0 lineStart t).2 := by
  cases t with
  | nil => exact Found.nil lineStart
  | cons c t =>
    by_cases hstart : lineStart = true ∧ startsItem indent (c :: t) = true
    · obtain ⟨rfl, hstart⟩ := hstart
      obtain ⟨v, rest, heq, hv⟩ := (startsItem_iff _).mp hstart
      have hlen : rest.length < (c :: t).length := by
        rw [heq, List.length_append, List.length_cons]
        omega
      -- the search goes on behind the first character of the item, inside its line
      rw [heq, itemsFrom_of_start hindent hv]
      exact (found_itemsFrom hindent false rest).start hv
    · have hnone : lineStart = true → startsItem indent (c :: t) = false := by
        intro hl
        rw [← Bool.not_eq_true]
        exact fun hs => hstart ⟨hl, hs⟩
      rw [itemsFrom_of_no_start hnone]
      exact (found_itemsFrom hindent (c == '\n') t).step hnone
termination_by t.length
decreasing_by
  · exact hlen
  · exact Nat.lt_succ_self t.length

theorem takeWhile_isSpace {pad : List Char} (hpad : isBlank pad = true) {c : Char}
    (hc : isSpace c = false) (t : List Char) : (pad ++ c :: t).takeWhile isSpace = pad :=
  (Text.span_append (b := c :: t) (List.all_eq_true.mp hpad) fun _ ha => Option.some.inj ha ▸ hc).1

/-- White space at the start of the texts of a cut is an indentation. -/
theorem Cut.takeWhile_join (hindent : isBlank indent = true) {body : List Char}
    {texts : List (List Char)} (h : Cut indent body texts) (hne : texts ≠ []) :
    body.takeWhile isSpace = indent := by
  obtain ⟨t, ts, rfl⟩ := List.exists_cons_of_ne_nil hne
  obtain ⟨c, hc, hvisible⟩ := h.visible t List.mem_cons_self
  obtain ⟨t', rfl⟩ := List.head?_eq_some_iff.mp hc
  rw [← h.join, List.flatMap_cons, List.append_assoc, List.cons_append,
    takeWhile_isSpace hindent hvisible]

theorem Cut.tail {body t : List Char} {ts : List (List Char)} (h : Cut indent body (t :: ts)) :
    Cut indent (ts.flatMap (indent ++ ·)) ts where
  join := rfl
  visible := (List.forall_mem_cons.mp h.visible).2
  lineEnd x hx := by
    cases ts with
    | nil => cases hx
    | cons t' ts => exact h.lineEnd x (List.mem_cons_of_mem t hx)
  whole := (List.forall_mem_cons.mp h.whole).2

/-- No text of a cut reaches into the next text of another. -/
theorem Cut.eq_nil_of_append (hindent : isBlank indent = true) {body body' t u : List Char}
    {ts ts' : List (List Char)} (h : Cut indent body (t :: ts))
    (h' : Cut indent body' ((t ++ u) :: ts'))
    (heq : ts.flatMap (indent ++ ·) = u ++ ts'.flatMap (indent ++ ·)) : u = [] := by
  cases ts with
  | nil => exact (List.append_eq_nil_iff.mp heq.symm).1
  | cons x ts =>
    obtain ⟨a, rfl⟩ := List.getLast?_eq_some_iff.mp (h.lineEnd t List.mem_cons_self)
    have hnone : startsItem indent u = false := h'.whole _ List.mem_cons_self a u (by simp)
    obtain ⟨c, hc, hvisible⟩ := h.visible x (by simp)
    obtain ⟨x, rfl⟩ := List.head?_eq_some_iff.mp hc
    rw [List.flatMap_cons, List.append_assoc, List.cons_append] at heq
    -- the next text starts behind `u`, for no item starts in it
    obtain ⟨w, hindent', hrest⟩ : ∃ w, indent = u ++ w ∧
        ts'.flatMap (indent ++ ·) = w ++ c :: (x ++ ts.flatMap (indent ++ ·)) := by
      obtain ⟨w, rfl, hw⟩ | hlater := List.append_eq_append_iff.mp heq
      · cases w with
        | nil => exact ⟨[], by simp, by rw [List.nil_append] at hw ⊢; exact hw.symm⟩
        | cons c' w =>
          rw [List.cons_append, List.cons_eq_cons] at hw
          obtain ⟨rfl, -⟩ := hw
          rw [(startsItem_iff _).mpr ⟨c, w, rfl, hvisible⟩] at hnone
          cases hnone
      · exact hlater
    have hne : ts' ≠ [] := by
      rintro rfl
      simp at hrest
    have hw : isBlank w = true := by
      rw [hindent', isBlank, List.all_append, Bool.and_eq_true] at hindent
      exact hindent.2
    have htake := h'.tail.takeWhile_join hindent hne
    rw [hrest, takeWhile_isSpace hw hvisible] at htake
    rw [← htake] at hindent'
    exact List.append_left_eq_self.mp hindent'.symm

/-- There is one way to cut a body. -/
theorem Cut.unique (hindent : isBlank indent = true) {body : List Char}
    {texts texts' : List (List Char)} (h : Cut indent body texts) (h' : Cut indent body texts') :
    texts = texts' := by
  induction texts generalizing body texts' with
  | nil =>
    cases texts' with
    | nil => rfl
    | cons t ts =>
      obtain ⟨c, hc, -⟩ := h'.visible t List.mem_cons_self
      obtain ⟨t, rfl⟩ := List.head?_eq_some_iff.mp hc
      have hjoin := h'.join.trans h.join.symm
      simp at hjoin
  | cons t ts ih =>
    cases texts' with
    | nil =>
      obtain ⟨c, hc, -⟩ := h.visible t List.mem_cons_self
      obtain ⟨t, rfl⟩ := List.head?_eq_some_iff.mp hc
      have hjoin := h.join.trans h'.join.symm
      simp at hjoin
    | cons t' ts' =>
      have hjoin := h.join.trans h'.join.symm
      rw [List.flatMap_cons, List.flatMap_cons, List.append_assoc, List.append_assoc,
        List.append_right_inj] at hjoin
      obtain ⟨u, rfl, hrest⟩ | ⟨u, rfl, hrest⟩ := List.append_eq_append_iff.mp hjoin
      · obtain rfl := h.eq_nil_of_append hindent h' hrest
        rw [List.nil_append] at hrest
        rw [List.append_nil, ih h.tail (hrest ▸ h'.tail)]
      · obtain rfl := h'.eq_nil_of_append hindent h hrest
        rw [List.nil_append] at hrest
        rw [List.append_nil, ih h.tail (hrest ▸ h'.tail)]

/-- A body with a visible character is cut into items at its indentation, in the one way
there is. -/
theorem exists_cut {body : List Char} (h : isBlank body = false) :
    ∃ texts, texts ≠ [] ∧
      (∀ texts', Cut (body.takeWhile isSpace) body texts' ↔ texts' = texts) ∧
      (itemsFrom (body.takeWhile isSpace) 0 true body).2 = texts := by
  obtain ⟨pad, c, t, rfl, hpad, hc⟩ := Text.exists_of_visible h
  rw [takeWhile_isSpace hpad hc]
  have hfound := found_itemsFrom hpad true (pad ++ c :: t)
  rw [itemsFrom_of_start hpad hc] at hfound ⊢
  have hjoin := hfound.join
  have hcut := hfound.cut
  rw [List.nil_append] at hjoin
  rw [hjoin] at hcut
  refine ⟨_, List.cons_ne_nil _ _, fun texts' => ⟨fun h' => h'.unique hpad hcut, ?_⟩, rfl⟩
  rintro rfl
  exact hcut

/-! ## Lines at the indentation -/

/-- What a line says that starts an item: its text behind the indentation. -/
def itemLine? (indent l : List Char) : Option (List Char) :=
  if isBlank l = false ∧ l.takeWhile isSpace = indent then some (Text.trimStart l) else none

/-- The indentation of the first line that is not blank. -/
def itemIndent (body : List Char) : List Char :=
  ((Text.lines body).find? (!isBlank ·)).elim [] (·.takeWhile isSpace)

/-- The items by their lines: each starts on a line at the indentation and runs up to the
next one. -/
def lineItems (body : List Char) : List (List Char) :=
  (Text.groupUnder (itemLine? (itemIndent body)) (Text.lines body)).2.map
    fun g => Text.trimLineFeeds (unlines (g.1 :: g.2))

theorem itemLine?_eq_some_iff {l x : List Char} :
    itemLine? indent l = some x ↔
      isBlank indent = true ∧ l = indent ++ x ∧ ∃ c t, x = c :: t ∧ isSpace c = false := by
  rw [itemLine?, Option.ite_none_right_eq_some, Option.some.injEq]
  constructor
  · rintro ⟨⟨hvisible, rfl⟩, rfl⟩
    refine ⟨List.all_takeWhile, List.takeWhile_append_dropWhile.symm, ?_⟩
    obtain hnil | hcons := Text.trimStart_cases l
    · rw [(Text.isBlank_iff l).mpr hnil] at hvisible
      cases hvisible
    · exact hcons
  · rintro ⟨hindent, rfl, c, t, rfl, hc⟩
    refine ⟨⟨?_, takeWhile_isSpace hindent hc t⟩, ?_⟩
    · rw [isBlank, List.all_append, List.all_cons, hc, Bool.false_and, Bool.and_false]
    · rw [Text.trimStart_append_of_isBlank hindent, Text.trimStart_of_head hc]

theorem itemLine?_of_isBlank {l : List Char} (h : isBlank l = true) : itemLine? indent l = none :=
  if_neg fun hl => by simp [h] at hl

/-- An item starts with a line at the indentation. -/
theorem startsItem_line (hindent : isBlank indent = true) (hnl : '\n' ∉ indent) {l tail : List Char}
    (htail : tail = [] ∨ ∃ rest, tail = '\n' :: rest) :
    startsItem indent (l ++ tail) = (itemLine? indent l).isSome := by
  rw [Bool.eq_iff_iff, startsItem_iff, Option.isSome_iff_exists]
  constructor
  · rintro ⟨c, rest, heq, hc⟩
    have hstop : '\n' ∉ indent ++ [c] := by
      rw [List.mem_append, List.mem_singleton, not_or]
      refine ⟨hnl, ?_⟩
      rintro rfl
      exact absurd hc (by decide)
    have hprefix : indent ++ [c] <+: l ++ tail := ⟨rest, by rw [heq]; simp⟩
    have hline : indent ++ [c] <+: l := by
      obtain rfl | ⟨rest, rfl⟩ := htail
      · rwa [List.append_nil] at hprefix
      · exact Text.prefix_of_prefix_append hstop hprefix
    obtain ⟨t, rfl⟩ := hline
    exact ⟨c :: t, itemLine?_eq_some_iff.mpr ⟨hindent, by simp, c, t, rfl, hc⟩⟩
  · rintro ⟨x, hx⟩
    obtain ⟨-, rfl, c, t, rfl, hc⟩ := itemLine?_eq_some_iff.mp hx
    exact ⟨c, t ++ tail, by simp, hc⟩

/-- Up to the end of its line a text goes on. -/
theorem itemsFrom_text {l : List Char} (h : '\n' ∉ l) (tail : List Char) :
    itemsFrom indent 0 false (l ++ tail) =
      (l ++ (itemsFrom indent 0 false tail).1, (itemsFrom indent 0 false tail).2) := by
  induction l with
  | nil => rfl
  | cons c l ih =>
    obtain ⟨hc, h⟩ := Text.beq_of_not_mem_cons h
    rw [List.cons_append, itemsFrom_of_no_start (absurd · Bool.false_ne_true), hc, ih h]
    rfl

theorem itemsFrom_newline (lineStart : Bool) (hnl : '\n' ∉ indent) (rest : List Char) :
    itemsFrom indent 0 lineStart ('\n' :: rest) =
      ('\n' :: (itemsFrom indent 0 true rest).1, (itemsFrom indent 0 true rest).2) := by
  refine itemsFrom_of_no_start fun _ => ?_
  rw [← Bool.not_eq_true, startsItem_iff]
  rintro ⟨c, t, heq, hc⟩
  cases indent with
  | nil =>
    cases heq
    exact absurd hc (by decide)
  | cons i is =>
    cases heq
    exact hnl List.mem_cons_self

/-- A line at the indentation starts an item, and any other goes on with the text. -/
theorem itemsFrom_line (hindent : isBlank indent = true) (hnl : '\n' ∉ indent)
    {l : List Char} (hl : '\n' ∉ l) {tail : List Char}
    (htail : tail = [] ∨ ∃ rest, tail = '\n' :: rest) :
    itemsFrom indent 0 true (l ++ tail) =
      match itemLine? indent l with
      | some x =>
        ([], (x ++ (itemsFrom indent 0 false tail).1) :: (itemsFrom indent 0 false tail).2)
      | none => (l ++ (itemsFrom indent 0 false tail).1, (itemsFrom indent 0 false tail).2) := by
  cases hx : itemLine? indent l with
  | some x =>
    obtain ⟨-, rfl, c, t, rfl, hc⟩ := itemLine?_eq_some_iff.mp hx
    have ht : '\n' ∉ t := fun hm => hl (by simp [hm])
    rw [List.append_assoc, List.cons_append, itemsFrom_of_start hindent hc, itemsFrom_text ht]
    rfl
  | none =>
    have hnone := startsItem_line hindent hnl (l := l) htail
    rw [hx] at hnone
    cases l with
    | nil =>
      obtain rfl | ⟨rest, rfl⟩ := htail
      · rfl
      · rw [List.nil_append, itemsFrom_newline true hnl, itemsFrom_newline false hnl]
        rfl
    | cons c l =>
      obtain ⟨hc, hl⟩ := Text.beq_of_not_mem_cons hl
      rw [List.cons_append] at hnone ⊢
      rw [itemsFrom_of_no_start (fun _ => hnone), hc, itemsFrom_text hl]
      rfl

/-- Line feeds at the end of a text are trimmed. -/
theorem trimLineFeeds_concat (t : List Char) :
    Text.trimLineFeeds (t ++ ['\n']) = Text.trimLineFeeds t := by
  have hend : ∀ u : List Char, Text.dropEndWhile (· == '\n') (u ++ ['\n']) =
      Text.dropEndWhile (· == '\n') u := by
    intro u
    rw [Text.dropEndWhile, List.reverse_append]
    rfl
  rw [Text.trimLineFeeds, Text.trimLineFeeds, List.dropWhile_append]
  split
  · rename_i hnil
    rw [List.isEmpty_iff.mp hnil]
    rfl
  · exact hend _

theorem flatMap_newline_cases (ls : List (List Char)) :
    ls.flatMap ('\n' :: ·) = [] ∨ ∃ rest, ls.flatMap ('\n' :: ·) = '\n' :: rest := by
  cases ls with
  | nil => exact .inl rfl
  | cons l ls => exact .inr ⟨_, rfl⟩

/-- Below a line the items are the lines at the indentation, each with the lines up to the
next one; what precedes them may have one more line feed. -/
theorem itemsFrom_below (hindent : isBlank indent = true) (hnl : '\n' ∉ indent)
    {ls : List (List Char)} (hls : ∀ l ∈ ls, '\n' ∉ l) :
    (∃ stop, (stop = [] ∨ stop = ['\n']) ∧
        (itemsFrom indent 0 false (ls.flatMap ('\n' :: ·))).1 =
          (Text.groupUnder (itemLine? indent) ls).1.flatMap ('\n' :: ·) ++ stop) ∧
      (itemsFrom indent 0 false (ls.flatMap ('\n' :: ·))).2.map Text.trimLineFeeds =
        (Text.groupUnder (itemLine? indent) ls).2.map
          fun g => Text.trimLineFeeds (unlines (g.1 :: g.2)) := by
  induction ls with
  | nil => exact ⟨⟨[], .inl rfl, rfl⟩, rfl⟩
  | cons l ls ih =>
    obtain ⟨hl, hls⟩ := List.forall_mem_cons.mp hls
    obtain ⟨⟨stop, hstop, hlead⟩, hitems⟩ := ih hls
    rw [List.flatMap_cons, List.cons_append, itemsFrom_newline false hnl,
      itemsFrom_line hindent hnl hl (flatMap_newline_cases ls)]
    cases hx : itemLine? indent l with
    | some x =>
      rw [Text.groupUnder_cons_some hx]
      refine ⟨⟨['\n'], .inr rfl, rfl⟩, ?_⟩
      rw [List.map_cons, List.map_cons, hitems, hlead, Text.unlines_cons, ← List.append_assoc]
      obtain rfl | rfl := hstop
      · rw [List.append_nil]
      · rw [trimLineFeeds_concat]
    | none =>
      rw [Text.groupUnder_cons_none hx]
      exact ⟨⟨stop, hstop, by simp [hlead]⟩, hitems⟩

/-- The first line of the body is not blank. -/
def Opens (body : List Char) : Prop := isBlank (body.takeWhile (· != '\n')) = false

instance (body : List Char) : Decidable (Opens body) := inferInstanceAs (Decidable (_ = false))

theorem exists_lines (t : List Char) : ∃ ls, Text.lines t = t.takeWhile (· != '\n') :: ls := by
  obtain ⟨l, ls, hlines⟩ := List.exists_cons_of_ne_nil (Text.splitOn_ne_nil '\n' t)
  have hlines : Text.lines t = l :: ls := hlines
  have hl : '\n' ∉ l := Text.newline_not_mem_of_mem_lines (hlines ▸ List.mem_cons_self)
  refine ⟨ls, ?_⟩
  conv_rhs => rw [← Text.unlines_lines t, hlines, Text.takeWhile_unlines hl]
  exact hlines

theorem opens_unlines {l : List Char} (hnl : '\n' ∉ l) (hl : isBlank l = false)
    (ls : List (List Char)) : Opens (unlines (l :: ls)) := by
  rw [Opens, Text.takeWhile_unlines hnl, hl]

theorem itemIndent_of_lines {body l : List Char} {ls : List (List Char)}
    (hlines : Text.lines body = l :: ls) (hl : isBlank l = false) :
    itemIndent body = l.takeWhile isSpace := by
  rw [itemIndent, hlines, List.find?_cons, hl]
  rfl

/-- A body that opens with a visible line: its indentation is that line's white space. -/
theorem Opens.exists_line {body : List Char} (h : Opens body) :
    ∃ indent x ls, Text.lines body = (indent ++ x) :: ls ∧ isBlank indent = true ∧
      '\n' ∉ indent ∧ (∃ c t, x = c :: t ∧ isSpace c = false) ∧
      body.takeWhile isSpace = indent ∧ itemIndent body = indent := by
  obtain ⟨ls, hlines⟩ := exists_lines body
  obtain ⟨pad, c, t, hline, hpad, hc⟩ := Text.exists_of_visible h
  rw [hline] at hlines
  have hbody : body = unlines ((pad ++ c :: t) :: ls) := by rw [← hlines, Text.unlines_lines]
  have hnl : '\n' ∉ pad ++ c :: t :=
    Text.newline_not_mem_of_mem_lines (hlines ▸ List.mem_cons_self)
  refine ⟨pad, c :: t, ls, hlines, hpad, ?_, ⟨c, t, rfl, hc⟩, ?_, ?_⟩
  · exact fun hm => hnl (List.mem_append_left _ hm)
  · rw [hbody, Text.unlines_cons, List.append_assoc, List.cons_append, takeWhile_isSpace hpad hc]
  · rw [itemIndent_of_lines hlines (hline ▸ h), takeWhile_isSpace hpad hc]

theorem itemsFrom_of_opens {body : List Char} (h : Opens body) :
    (itemsFrom (body.takeWhile isSpace) 0 true body).2.map Text.trimLineFeeds =
      lineItems body := by
  obtain ⟨pad, x, ls, hlines, hpad, hnl, hx, htake, hitem⟩ := h.exists_line
  have hline : itemLine? pad (pad ++ x) = some x := itemLine?_eq_some_iff.mpr ⟨hpad, rfl, hx⟩
  have hls : ∀ l ∈ ls, '\n' ∉ l := fun l hl =>
    Text.newline_not_mem_of_mem_lines (hlines ▸ List.mem_cons_of_mem _ hl)
  have hl : '\n' ∉ pad ++ x :=
    Text.newline_not_mem_of_mem_lines (hlines ▸ List.mem_cons_self)
  obtain ⟨⟨stop, hstop, hlead⟩, hitems⟩ := itemsFrom_below hpad hnl hls
  have hbody : body = (pad ++ x) ++ ls.flatMap ('\n' :: ·) := by
    rw [← Text.unlines_lines body, hlines, Text.unlines_cons]
  have hfirst := itemsFrom_line hpad hnl hl (flatMap_newline_cases ls)
  rw [← hbody, hline] at hfirst
  rw [htake, hfirst, lineItems, hitem, hlines, Text.groupUnder_cons_some hline, List.map_cons,
    List.map_cons, hitems, hlead, Text.unlines_cons, ← List.append_assoc]
  obtain rfl | rfl := hstop
  · rw [List.append_nil]
  · rw [trimLineFeeds_concat]

theorem splitItems_of_ne_nil {title : String} {body : List Char} {texts : List (List Char)}
    (h : (itemsFrom (body.takeWhile isSpace) 0 true body).2 = texts) (hne : texts ≠ []) :
    splitItems title body = .ok (texts.map Text.trimLineFeeds) := by
  obtain ⟨x, xs, rfl⟩ := List.exists_cons_of_ne_nil hne
  rw [splitItems, h]

/-- Only a blank body has no items. -/
theorem splitItems_of_isBlank (title : String) {body : List Char} (h : isBlank body = true) :
    splitItems title body = .error (.emptySection title body) := by
  have hindent : isBlank (body.takeWhile isSpace) = true := List.all_takeWhile
  have hfound := found_itemsFrom hindent true body
  rw [splitItems]
  cases htexts : (itemsFrom (body.takeWhile isSpace) 0 true body).2 with
  | nil => rfl
  | cons x xs =>
    rw [htexts] at hfound
    obtain ⟨c, hc, hs⟩ := hfound.cut.visible x List.mem_cons_self
    have hbody : c ∈ body := by
      rw [← hfound.join]
      simp [List.mem_of_mem_head? hc]
    rw [List.all_eq_true.mp h c hbody] at hs
    cases hs

theorem Opens.visible {body : List Char} (h : Opens body) : isBlank body = false := by
  rw [← Bool.not_eq_true]
  intro hb
  have hall := List.all_eq_true.mp hb
  have hline : isBlank (body.takeWhile (· != '\n')) = true :=
    List.all_eq_true.mpr fun c hc => hall c ((List.takeWhile_prefix _).subset hc)
  exact absurd (hline.symm.trans h) (by decide)

theorem splitItems_of_opens (title : String) {body : List Char} (h : Opens body) :
    splitItems title body = .ok (lineItems body) := by
  obtain ⟨texts, hne, -, htexts⟩ := exists_cut h.visible
  rw [splitItems_of_ne_nil htexts hne, ← htexts, itemsFrom_of_opens h]

end RefBook.Docstring.Google
