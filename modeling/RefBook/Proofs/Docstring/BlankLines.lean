import RefBook.Proofs.Docstring.Items

/-! # Blank lines in a section

Where a section opens with a visible line, blank lines below add no item and take none
away: the items depend on the visible lines only. But a blank line above the first word
becomes part of the indentation, and then an item starts only where such a line stands
again. -/

namespace RefBook.Docstring.Google

open Text (isBlank isSpace unlines)

def visibleLines (t : List Char) : List (List Char) := (Text.lines t).filter (!isBlank ·)

/-- The name of an item: the text before its first colon. -/
def name? (t : List Char) : Option (List Char) := (Text.cut? ':' t).map Prod.fst

theorem visibleLines_newline_cons (t : List Char) : visibleLines ('\n' :: t) = visibleLines t := by
  rw [visibleLines, Text.lines_newline_cons]
  rfl

theorem visibleLines_concat (t : List Char) : visibleLines (t ++ ['\n']) = visibleLines t := by
  rw [visibleLines, Text.lines, Text.splitOn_append, List.filter_append]
  exact List.append_nil _

theorem visibleLines_append {rest : List Char} (h : ∀ c ∈ rest, (c == '\n') = true)
    (t : List Char) : visibleLines (t ++ rest) = visibleLines t := by
  induction rest generalizing t with
  | nil => rw [List.append_nil]
  | cons c rest ih =>
    obtain ⟨hc, h⟩ := List.forall_mem_cons.mp h
    rw [beq_iff_eq.mp hc, ← List.singleton_append, ← List.append_assoc, ih h, visibleLines_concat]

theorem visibleLines_trimLineFeeds (t : List Char) :
    visibleLines (Text.trimLineFeeds t) = visibleLines t := by
  have hstart : visibleLines (t.dropWhile (· == '\n')) = visibleLines t := by
    induction t with
    | nil => rfl
    | cons c t ih =>
      rw [List.dropWhile_cons]
      split
      · rename_i hc
        rw [ih, beq_iff_eq.mp hc, visibleLines_newline_cons]
      · rfl
  obtain ⟨rest, hrest, hall⟩ :=
    Text.dropEndWhile_append_dropped (· == '\n') (t.dropWhile (· == '\n'))
  rw [← hstart, hrest, visibleLines_append hall]
  rfl

/-- The visible lines of what stands before the first colon of the lines. -/
def nameLines? : List (List Char) → Option (List (List Char))
  | [] => none
  | l :: ls =>
    match Text.cut? ':' l with
    | some (head, _) => some (visibleLines head)
    | none => (nameLines? ls).map (l :: ·)

theorem visibleLines_line_append {l : List Char} (hl : '\n' ∉ l) (t : List Char) :
    visibleLines (l ++ '\n' :: t) = if isBlank l then visibleLines t else l :: visibleLines t := by
  rw [visibleLines, Text.lines_append hl, List.filter_cons]
  cases isBlank l <;> rfl

theorem name?_unlines {ls : List (List Char)} (hls : ∀ l ∈ ls, '\n' ∉ l) :
    (name? (unlines ls)).map visibleLines = nameLines? (ls.filter (!isBlank ·)) := by
  induction ls with
  | nil => rfl
  | cons l ls ih =>
    obtain ⟨hl, hls⟩ := List.forall_mem_cons.mp hls
    cases hcut : Text.cut? ':' l with
    | some c =>
      obtain ⟨head, rest⟩ := c
      obtain ⟨rfl, hhead⟩ := Text.append_of_cut? hcut
      have hvisible : isBlank (head ++ ':' :: rest) = false := by
        rw [isBlank, List.all_append, List.all_cons]
        simp [show isSpace ':' = false by decide]
      rw [name?, Text.unlines_cons, List.append_assoc, List.cons_append,
        Text.cut?_append hhead, List.filter_cons_of_pos (by simp [hvisible]), nameLines?, hcut]
      rfl
    | none =>
      have hcolon := (Text.cut?_eq_none_iff ':' l).mp hcut
      have hrest : nameLines? ((l :: ls).filter (!isBlank ·)) =
          (nameLines? (ls.filter (!isBlank ·))).map fun n => if isBlank l then n else l :: n := by
        rw [List.filter_cons]
        cases hb : isBlank l with
        | true => simp
        | false => simp [nameLines?, hcut]
      rw [hrest, ← ih hls]
      cases ls with
      | nil =>
        rw [Text.unlines_singleton, name?, hcut]
        rfl
      | cons l' ls =>
        have hnext : Text.cut? ':' ('\n' :: unlines (l' :: ls)) =
            (Text.cut? ':' (unlines (l' :: ls))).map fun c => ('\n' :: c.1, c.2) := rfl
        rw [Text.unlines_cons_cons, name?, name?, Text.cut?_append_left hcolon, hnext]
        simp only [Option.map_map, Function.comp_def, visibleLines_line_append hl]

/-- The visible lines of a name depend on the visible lines of the text only. -/
theorem name?_visibleLines (t : List Char) :
    (name? t).map visibleLines = nameLines? (visibleLines t) := by
  have h := name?_unlines fun l hl => Text.newline_not_mem_of_mem_lines (t := t) hl
  rwa [Text.unlines_lines] at h

/-- The name of an item, if it stands on one line. -/
def lineName? (t : List Char) : Option (List Char) := (name? t).filter fun n => !n.contains '\n'

theorem lineName?_eq (t : List Char) : lineName? t = name? (t.takeWhile (· != '\n')) := by
  have hsplit := List.takeWhile_append_dropWhile (p := (· != '\n')) (l := t)
  have hline : '\n' ∉ t.takeWhile (· != '\n') := fun hm => by
    simpa using List.mem_takeWhile_imp hm
  have htail : ∀ c ∈ (t.dropWhile (· != '\n')).head?, c = '\n' := fun c hc => by
    simpa [Option.mem_def.mp hc] using List.head?_dropWhile_not (· != '\n') t
  generalize t.takeWhile (· != '\n') = line at hsplit hline ⊢
  generalize t.dropWhile (· != '\n') = tail at hsplit htail
  subst hsplit
  rw [lineName?, name?, name?]
  cases hcut : Text.cut? ':' line with
  | some c =>
    obtain ⟨name, rest⟩ := c
    obtain ⟨rfl, hcolon⟩ := Text.append_of_cut? hcut
    have hname : '\n' ∉ name := fun hm => hline (List.mem_append_left _ hm)
    rw [List.append_assoc, List.cons_append, Text.cut?_append hcolon]
    simp [hname]
  | none =>
    rw [Text.cut?_append_left ((Text.cut?_eq_none_iff ':' line).mp hcut)]
    cases tail with
    | nil => rfl
    | cons c rest =>
      obtain rfl := htail c rfl
      have hnext : Text.cut? ':' ('\n' :: rest) =
          (Text.cut? ':' rest).map fun c => ('\n' :: c.1, c.2) := rfl
      rw [hnext]
      cases Text.cut? ':' rest <;> simp

theorem visibleLines_of_opens {t : List Char} (h : Opens t) :
    (visibleLines t).head? = some (t.takeWhile (· != '\n')) := by
  obtain ⟨ls, hlines⟩ := exists_lines t
  rw [visibleLines, hlines, List.filter_cons_of_pos (by rw [h]; rfl), List.head?_cons]

theorem itemIndent_eq (body : List Char) :
    itemIndent body = (visibleLines body).head?.elim [] (·.takeWhile isSpace) := by
  rw [itemIndent, visibleLines, List.head?_filter]

theorem visibleLines_item {x : List Char} (hx : isBlank x = false) {below : List (List Char)}
    (hnl : ∀ l ∈ x :: below, '\n' ∉ l) :
    visibleLines (Text.trimLineFeeds (unlines (x :: below))) = x :: below.filter (!isBlank ·) := by
  rw [visibleLines_trimLineFeeds, visibleLines, Text.lines_unlines (List.cons_ne_nil x below) hnl,
    List.filter_cons_of_pos (by rw [hx]; rfl)]

/-- The visible lines of the items are those of the body, in groups. -/
theorem visibleLines_lineItems (body : List Char) :
    (lineItems body).map visibleLines =
      (Text.groupUnder (itemLine? (itemIndent body)) (visibleLines body)).2.map
        fun g => g.1 :: g.2 := by
  rw [lineItems, visibleLines, Text.groupUnder_filter, List.map_map, List.map_map]
  · refine List.map_congr_left fun g hg => ?_
    obtain ⟨⟨l, hl, hx⟩, hbelow⟩ := Text.mem_groupUnder.2 g hg
    obtain ⟨-, hline, c, t, hc, hvisible⟩ := itemLine?_eq_some_iff.mp hx
    refine visibleLines_item (by rw [hc]; exact Text.isBlank_of_head hvisible t) ?_
    refine List.forall_mem_cons.mpr ⟨fun hm => ?_, fun x hx => ?_⟩
    · exact Text.newline_not_mem_of_mem_lines hl (hline ▸ List.mem_append_right _ hm)
    · exact Text.newline_not_mem_of_mem_lines (hbelow x hx)
  · intro l hl
    exact itemLine?_of_isBlank (by simpa using hl)

theorem opens_of_head {c : Char} (hc : isSpace c = false) (t : List Char) : Opens (c :: t) := by
  have hnewline : (c != '\n') = true := by rw [bne, eq_newline_of_visible hc]; rfl
  rw [Opens, List.takeWhile_cons, if_pos hnewline]
  exact Text.isBlank_of_head hc _

theorem opens_of_mem_lineItems {body t : List Char} (h : t ∈ lineItems body) : Opens t := by
  obtain ⟨g, hg, rfl⟩ := List.mem_map.mp h
  obtain ⟨⟨l, -, hx⟩, -⟩ := Text.mem_groupUnder.2 g hg
  obtain ⟨-, -, c, t, hc, hvisible⟩ := itemLine?_eq_some_iff.mp hx
  have hnewline := eq_newline_of_visible hvisible
  rw [hc, Text.unlines_cons, List.cons_append, Text.trimLineFeeds, List.dropWhile_cons,
    if_neg (by rw [hnewline]; decide), ← List.nil_append (c :: _),
    Text.dropEndWhile_append_of_neg (p := (· == '\n')) hnewline]
  exact opens_of_head hvisible _

/-- The same number of items, with the same visible lines and the same names: a name on one
line to the letter, and any other up to blank lines. -/
structure SameItems (items items' : List (List Char)) : Prop where
  visible : items.map visibleLines = items'.map visibleLines
  names : items.map lineName? = items'.map lineName?
  nameLines : items.map (fun t => (name? t).map visibleLines) =
    items'.map fun t => (name? t).map visibleLines

/-- The items depend on the visible lines of the body only, blank lines in them apart. -/
theorem sameItems_lineItems {body body' : List Char} (h : visibleLines body = visibleLines body') :
    SameItems (lineItems body) (lineItems body') := by
  have hvisible : (lineItems body).map visibleLines = (lineItems body').map visibleLines := by
    rw [visibleLines_lineItems, visibleLines_lineItems, itemIndent_eq, itemIndent_eq, h]
  have hname : ∀ {b : List Char}, ∀ t ∈ lineItems b,
      lineName? t = (visibleLines t).head?.bind name? := by
    intro b t ht
    rw [lineName?_eq, visibleLines_of_opens (opens_of_mem_lineItems ht)]
    rfl
  refine ⟨hvisible, ?_, ?_⟩
  · have hmap := congrArg (List.map fun ls => ls.head?.bind name?) hvisible
    rw [List.map_map, List.map_map] at hmap
    rw [List.map_congr_left hname, List.map_congr_left hname]
    exact hmap
  · have hmap := congrArg (List.map nameLines?) hvisible
    rw [List.map_map, List.map_map] at hmap
    simp only [name?_visibleLines]
    exact hmap

/-- **A section is split at the indentation of its first word.** A blank body is refused, and
any other is cut into items exactly where its whole opening white space stands again. If the
body opens with a visible line, these are the lines with that line's indentation, each with
the lines up to the next one; and blank lines put in, left out or indented otherwise change
neither the number of items nor their names. -/
theorem items_at_indent (title : String) (body : List Char) :
    (isBlank body = true → splitItems title body = .error (.emptySection title body)) ∧
    (isBlank body = false → ∃ texts, texts ≠ [] ∧
      (∀ texts', Cut (body.takeWhile isSpace) body texts' ↔ texts' = texts) ∧
      splitItems title body = .ok (texts.map Text.trimLineFeeds)) ∧
    (Opens body → splitItems title body = .ok (lineItems body) ∧
      ∀ body', Opens body' → visibleLines body = visibleLines body' →
        ∃ items, splitItems title body' = .ok items ∧ SameItems (lineItems body) items) := by
  refine ⟨splitItems_of_isBlank title, fun h => ?_, fun h =>
    ⟨splitItems_of_opens title h, fun body' h' hsame => ?_⟩⟩
  · obtain ⟨texts, hne, hcut, htexts⟩ := exists_cut h
    exact ⟨texts, hne, hcut, splitItems_of_ne_nil htexts hne⟩
  · exact ⟨lineItems body', splitItems_of_opens title h', sameItems_lineItems hsame⟩

/-- Two parameters, one with a second line. -/
def twoItems : List Char := "    x: The x,\n      or none.\n    y: The y.".toList

/-- The same with blank lines between them. -/
def spacedItems : List Char := "    x: The x,\n  \n      or none.\n\n \t\n    y: The y.".toList

theorem twoItems_as_spaced :
    isBlank twoItems = false ∧ Opens twoItems ∧ Opens spacedItems ∧
      visibleLines twoItems = visibleLines spacedItems ∧
      splitItems "Args" twoItems = .ok ["x: The x,\n      or none.".toList, "y: The y.".toList] ∧
      ∃ items, splitItems "Args" spacedItems = .ok items ∧ SameItems (lineItems twoItems) items := by
  have h : Opens twoItems := by decide
  have h' : Opens spacedItems := by decide
  have hsame : visibleLines twoItems = visibleLines spacedItems := by decide
  exact ⟨by decide, h, h', hsame, by decide,
    ((items_at_indent "Args" twoItems).2.2 h).2 spacedItems h' hsame⟩

/-- Below a blank line the items are not found at the indentation of the first one. -/
theorem blank_line_joins_items :
    splitItems "Args" "  \n    x: The x.\n    y: The y.".toList =
        .ok ["x: The x.\n    y: The y.".toList] ∧
      ¬ ∀ title body, isBlank body = false → splitItems title body = .ok (lineItems body) := by
  refine ⟨by decide, fun hall => ?_⟩
  have hread := hall "Args" "  \n    x: The x.\n    y: The y.".toList (by decide)
  exact absurd hread (by decide)

end RefBook.Docstring.Google
