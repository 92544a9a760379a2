import RefBook.Proofs.Docstring.Titled

/-! # Reading underlined sections

A heading is a title on a line of its own above a line of dashes. Where no line below
another starts with a dash there is none, so a printed record has headings where it was
printed with them; below each stand key lines, and indented below a key line its text. -/

namespace RefBook.Docstring.Numpy

open Text (isBlank isSpace trimStart unlines terminated)
open Record (indented)

/-! ## Where no heading stands -/

/-- The first visible character is no dash. -/
def Undashed (t : List Char) : Prop := (trimStart t).head? ≠ some '-'

theorem undashed_append {a b : List Char} (ha : Undashed a) (hb : Undashed b) :
    Undashed (a ++ '\n' :: b) := by
  unfold Undashed
  cases hblank : isBlank a with
  | true =>
    rw [Text.trimStart_append_of_isBlank hblank]
    exact hb
  | false =>
    rw [Text.trimStart_append_of_visible hblank]
    obtain hnil | ⟨c, t, hcons, -⟩ := Text.trimStart_cases a
    · rw [(Text.isBlank_iff a).mpr hnil] at hblank
      cases hblank
    · unfold Undashed at ha
      rw [hcons] at ha ⊢
      exact ha

theorem undashed_terminated_append {ls : List (List Char)} (h : ∀ l ∈ ls, Undashed l)
    {t : List Char} (ht : Undashed t) : Undashed (terminated ls ++ t) := by
  induction ls with
  | nil => exact ht
  | cons l ls ih =>
    rw [List.forall_mem_cons] at h
    rw [Text.terminated_cons, List.append_assoc, List.cons_append]
    exact undashed_append h.1 (ih h.2)

/-- A text without a dash below a first line that ends in blanks. -/
def Plain (t : List Char) : Prop :=
  t.head? ≠ some '.' ∧ ∀ a b, t = a ++ b → '\n' ∉ a →
    (b.takeWhile isSpace).getLast? = some '\n' → Undashed b

theorem plain_line {l : List Char} (hdot : l.head? ≠ some '.') (hnl : '\n' ∉ l) : Plain l := by
  refine ⟨hdot, fun a b hab _ hlast => ?_⟩
  have hmem := (List.takeWhile_prefix isSpace).subset (List.mem_of_mem_getLast? hlast)
  exact absurd (hab ▸ List.mem_append_right a hmem) hnl

theorem plain_append {l t : List Char} (hdot : l.head? ≠ some '.') (hnl : '\n' ∉ l)
    (ht : Undashed t) : Plain (l ++ '\n' :: t) := by
  refine ⟨?_, fun a b hab ha hlast => ?_⟩
  · cases l with
    | nil => simp
    | cons c l => exact hdot
  · -- the line breaks inside of `b`, so `b` goes on after the rest of the line
    obtain ⟨rest, rfl, rfl⟩ : ∃ rest, l = a ++ rest ∧ b = rest ++ '\n' :: t := by
      obtain ⟨rest, rfl, hrest⟩ | ⟨rest, hl, hb⟩ := List.append_eq_append_iff.mp hab
      · cases rest with
        | nil => exact ⟨[], by simp, hrest.symm⟩
        | cons c rest =>
          obtain ⟨rfl, -⟩ := List.cons.inj hrest
          exact absurd (by simp) ha
      · exact ⟨rest, hl, hb⟩
    cases hblank : isBlank rest with
    | true =>
      unfold Undashed
      rw [Text.trimStart_append_of_isBlank hblank]
      exact ht
    | false =>
      obtain ⟨pad, c, t', rfl, hpad, hc⟩ := Text.exists_of_visible hblank
      rw [List.append_assoc, List.takeWhile_append_of_pos (List.all_eq_true.mp hpad),
        List.cons_append, List.takeWhile_cons, if_neg (by simp [hc]), List.append_nil] at hlast
      have hmem := List.mem_of_mem_getLast? hlast
      exact absurd (by simp [hmem]) hnl

theorem dropPrefix?_eq_some {start t rest : List Char} (h : dropPrefix? start t = some rest) :
    t = start ++ rest := by
  rw [dropPrefix?, Option.ite_none_right_eq_some, List.isPrefixOf_iff_prefix] at h
  obtain ⟨⟨b, rfl⟩, hb⟩ := h
  rw [List.drop_left] at hb
  rw [Option.some.inj hb]

theorem dropPrefix?_append (start rest : List Char) :
    dropPrefix? start (start ++ rest) = some rest := by
  rw [dropPrefix?, if_pos (List.isPrefixOf_iff_prefix.mpr (List.prefix_append _ _)), List.drop_left]

theorem dropPrefix?_of_head {c : Char} {start t : List Char} (h : t.head? ≠ some c) :
    dropPrefix? (c :: start) t = none := by
  cases hd : dropPrefix? (c :: start) t with
  | none => rfl
  | some rest =>
    rw [dropPrefix?_eq_some hd] at h
    exact absurd rfl h

theorem title_line : ∀ s ∈ sections, '\n' ∉ s.title.toList ∧ s.title.toList ≠ [] := by decide

theorem drop_takeWhile (t : List Char) : t.drop (t.takeWhile isSpace).length = trimStart t := by
  have hsplit : t.takeWhile isSpace ++ trimStart t = t := List.takeWhile_append_dropWhile
  calc t.drop (t.takeWhile isSpace).length
      = (t.takeWhile isSpace ++ trimStart t).drop (t.takeWhile isSpace).length := by rw [hsplit]
    _ = trimStart t := List.drop_left

/-- No heading stands at the start of a plain text. -/
theorem heading?_of_plain {t : List Char} (h : Plain t) : heading? t = none := by
  refine List.findSome?_eq_none_iff.mpr fun s hs => ?_
  rw [Option.map_eq_none_iff, Section.afterHeading?]
  split
  · rw [dropPrefix?_of_head h.1]
    rfl
  · cases hd : dropPrefix? s.title.toList t with
    | none => rfl
    | some b =>
      obtain ⟨hnl, hne⟩ := title_line s hs
      have hb := h.2 _ _ (dropPrefix?_eq_some hd) hnl
      rw [Option.bind_eq_bind, Option.bind_some]
      dsimp only
      rw [drop_takeWhile]
      split
      · rfl
      · rename_i hlast
        have hdash : Undashed b := hb (by simpa using hlast)
        obtain ⟨n, hn⟩ : ∃ n, s.title.length = n + 1 := by
          refine Nat.exists_eq_add_one_of_ne_zero fun hzero => hne ?_
          rw [← List.length_eq_zero_iff, String.length_toList, hzero]
        rw [hn, List.replicate_succ, dropPrefix?_of_head hdash]
        rfl

/-! ## Line by line -/

/-- Inside of a line there is no heading. -/
theorem sectionsFrom_inside {l : List Char} (h : '\n' ∉ l) (rest : List Char) :
    sectionsFrom 0 false (l ++ '\n' :: rest) =
      (l ++ '\n' :: (sectionsFrom 0 true rest).1, (sectionsFrom 0 true rest).2) := by
  induction l with
  | nil => rfl
  | cons c l ih =>
    obtain ⟨hc, h⟩ := Text.beq_of_not_mem_cons h
    rw [List.cons_append, sectionsFrom, if_neg (by decide), hc, ih h]
    rfl

theorem sectionsFrom_last {l : List Char} (h : '\n' ∉ l) : sectionsFrom 0 false l = (l, []) := by
  induction l with
  | nil => rfl
  | cons c l ih =>
    obtain ⟨hc, h⟩ := Text.beq_of_not_mem_cons h
    rw [sectionsFrom, if_neg (by decide), hc, ih h]

/-- Where no heading stands, it makes no difference that a line starts. -/
theorem sectionsFrom_of_plain {t : List Char} (h : Plain t) :
    sectionsFrom 0 true t = sectionsFrom 0 false t := by
  cases t with
  | nil => rfl
  | cons c t => rw [sectionsFrom, sectionsFrom, if_pos rfl, if_neg (by decide), heading?_of_plain h]

/-- A line of a body: it does not start with a point or a dash. -/
structure BodyLine (l : List Char) : Prop where
  noNewline : '\n' ∉ l
  undotted : l.head? ≠ some '.'
  undashed : Undashed l

theorem sectionsFrom_line {l rest : List Char} (h : BodyLine l) (hrest : Undashed rest) :
    sectionsFrom 0 true (l ++ '\n' :: rest) =
      (l ++ '\n' :: (sectionsFrom 0 true rest).1, (sectionsFrom 0 true rest).2) := by
  rw [sectionsFrom_of_plain (plain_append h.undotted h.noNewline hrest),
    sectionsFrom_inside h.noNewline]

/-- Body lines belong to what precedes the next heading. -/
theorem sectionsFrom_terminated {ls : List (List Char)} (h : ∀ l ∈ ls, BodyLine l)
    {rest : List Char} (hrest : Undashed rest) :
    sectionsFrom 0 true (terminated ls ++ rest) =
      (terminated ls ++ (sectionsFrom 0 true rest).1, (sectionsFrom 0 true rest).2) := by
  induction ls with
  | nil => rfl
  | cons l ls ih =>
    rw [List.forall_mem_cons] at h
    have hls : Undashed (terminated ls ++ rest) :=
      undashed_terminated_append (fun l hl => (h.2 l hl).undashed) hrest
    rw [Text.terminated_cons, List.append_assoc, List.cons_append, sectionsFrom_line h.1 hls,
      ih h.2, List.append_assoc]
    rfl

/-- A text of body lines only has no sections. -/
theorem sectionsFrom_unlines {ls : List (List Char)} (hne : ls ≠ []) (h : ∀ l ∈ ls, BodyLine l) :
    sectionsFrom 0 true (unlines ls) = (unlines ls, []) := by
  obtain ⟨init, l, rfl⟩ := (List.eq_nil_or_concat' ls).resolve_left hne
  have hinit : ∀ a ∈ init, BodyLine a := fun a ha => h a (List.mem_append_left _ ha)
  have hl : BodyLine l := h l (by simp)
  rw [Text.unlines_append (List.cons_ne_nil l []), Text.unlines_singleton,
    sectionsFrom_terminated hinit hl.undashed,
    sectionsFrom_of_plain (plain_line hl.undotted hl.noNewline), sectionsFrom_last hl.noNewline]

/-! ## At a heading -/

/-- A title, its underline and what follows them on the lines below. -/
def underlined (s : Section) (body : List Char) : List Char :=
  s.title.toList ++ '\n' :: (List.replicate s.title.length '-' ++ '\n' :: body)

/-- The white space behind a title or an underline is the line feed only. -/
theorem takeWhile_newline {c : Char} (hc : isSpace c = false) (t : List Char) :
    ('\n' :: c :: t).takeWhile isSpace = ['\n'] := by
  rw [List.takeWhile_cons, if_pos (by decide), List.takeWhile_cons, if_neg (by simp [hc])]

theorem afterUnderline?_eq {c : Char} (hc : isSpace c = false) (t : List Char) :
    afterUnderline? ('\n' :: c :: t) = some ('\n' :: c :: t) := by
  rw [afterUnderline?, takeWhile_newline hc]
  rfl

theorem afterHeading?_underlined {s : Section} (hs : s.subject ≠ .deprecation)
    (hne : s.title.toList ≠ []) {c : Char} (hc : isSpace c = false) (t : List Char) :
    s.afterHeading? (underlined s (c :: t)) = some ('\n' :: c :: t) := by
  obtain ⟨n, hn⟩ : ∃ n, s.title.length = n + 1 := by
    refine Nat.exists_eq_add_one_of_ne_zero fun hzero => hne ?_
    rw [← List.length_eq_zero_iff, String.length_toList, hzero]
  rw [Section.afterHeading?, if_neg hs, underlined, dropPrefix?_append, Option.bind_eq_bind,
    Option.bind_some, hn, List.replicate_succ, List.cons_append]
  dsimp only
  have hdashes : dropPrefix? ('-' :: List.replicate n '-')
      ('-' :: (List.replicate n '-' ++ '\n' :: c :: t)) = some ('\n' :: c :: t) :=
    dropPrefix?_append ('-' :: List.replicate n '-') ('\n' :: c :: t)
  rw [takeWhile_newline (by decide), if_neg (by decide), List.length_singleton, List.drop_succ_cons,
    List.drop_zero, hdashes, Option.bind_some, afterUnderline?_eq hc]

/-- A heading is that of the first section whose title fits. -/
theorem heading?_underlined {s : Section} {before after : List Section}
    (hsplit : sections = before ++ s :: after) (hs : s.subject ≠ .deprecation)
    (hbefore : ∀ s' ∈ before, s'.subject ≠ .deprecation ∧ ¬ s'.title.toList <+: s.title.toList)
    {c : Char} (hc : isSpace c = false) (t : List Char) :
    heading? (underlined s (c :: t)) =
      some (s, (underlined s (c :: t)).length - ('\n' :: c :: t).length) := by
  have hmem : s ∈ sections := by rw [hsplit]; simp
  have hnone : before.findSome? (fun s' => (s'.afterHeading? (underlined s (c :: t))).map
      fun rest => (s', (underlined s (c :: t)).length - rest.length)) = none := by
    refine List.findSome?_eq_none_iff.mpr fun s' hs' => ?_
    obtain ⟨hsubject, hprefix⟩ := hbefore s' hs'
    have hs'mem : s' ∈ sections := by rw [hsplit]; exact List.mem_append_left _ hs'
    cases hd : dropPrefix? s'.title.toList (underlined s (c :: t)) with
    | none =>
      rw [Section.afterHeading?, if_neg hsubject, hd]
      rfl
    | some rest =>
      have hstart : s'.title.toList <+: underlined s (c :: t) :=
        ⟨rest, (dropPrefix?_eq_some hd).symm⟩
      exact absurd (Text.prefix_of_prefix_append (title_line s' hs'mem).1 hstart) hprefix
  rw [heading?, hsplit, List.findSome?_append, hnone, List.findSome?_cons,
    afterHeading?_underlined hs (title_line s hmem).2 hc]
  rfl

theorem sectionsFrom_skip {x : List Char} (hne : x ≠ []) (lineStart : Bool) (y : List Char) :
    sectionsFrom x.length lineStart (x ++ y) = sectionsFrom 0 (x.getLast? == some '\n') y := by
  induction x generalizing lineStart with
  | nil => exact absurd rfl hne
  | cons c x ih =>
    rw [List.length_cons, List.cons_append, sectionsFrom]
    cases x with
    | nil => simp
    | cons c' x =>
      rw [ih (List.cons_ne_nil c' x)]
      rfl

/-- A heading opens a section, whose body starts at the end of the underline. -/
theorem sectionsFrom_underlined {s : Section} {before after : List Section}
    (hsplit : sections = before ++ s :: after) (hs : s.subject ≠ .deprecation)
    (hbefore : ∀ s' ∈ before, s'.subject ≠ .deprecation ∧ ¬ s'.title.toList <+: s.title.toList)
    {c : Char} (hc : isSpace c = false) (t : List Char) :
    sectionsFrom 0 true (underlined s (c :: t)) =
      ([], (s, '\n' :: (sectionsFrom 0 true (c :: t)).1) :: (sectionsFrom 0 true (c :: t)).2) := by
  have hheading := heading?_underlined hsplit hs hbefore hc t
  have hmem : s ∈ sections := by rw [hsplit]; simp
  obtain ⟨c₀, t₀, htitle⟩ := List.exists_cons_of_ne_nil (title_line s hmem).2
  have hlength : s.title.length = t₀.length + 1 := by
    rw [← String.length_toList, htitle, List.length_cons]
  -- what is left out after the first character of the title
  have htext : underlined s (c :: t) =
      c₀ :: ((t₀ ++ '\n' :: List.replicate s.title.length '-') ++ '\n' :: c :: t) := by
    rw [underlined, htitle]
    simp
  have hskip : (underlined s (c :: t)).length - ('\n' :: c :: t).length - 1 =
      (t₀ ++ '\n' :: List.replicate s.title.length '-').length := by
    rw [htext, List.length_cons, List.length_append]
    omega
  have hlast : ((t₀ ++ '\n' :: List.replicate s.title.length '-').getLast? == some '\n') =
      false := by
    rw [hlength, List.replicate_succ', ← List.cons_append, ← List.append_assoc,
      List.getLast?_concat]
    decide
  have hstep : sectionsFrom 0 true (underlined s (c :: t)) =
      ([], (s, (sectionsFrom ((underlined s (c :: t)).length - ('\n' :: c :: t).length - 1)
        (c₀ == '\n') ((t₀ ++ '\n' :: List.replicate s.title.length '-') ++ '\n' :: c :: t)).1) ::
        (sectionsFrom ((underlined s (c :: t)).length - ('\n' :: c :: t).length - 1)
        (c₀ == '\n') ((t₀ ++ '\n' :: List.replicate s.title.length '-') ++ '\n' :: c :: t)).2) := by
    rw [htext] at hheading ⊢
    rw [sectionsFrom, if_pos rfl, hheading]
  rw [hstep, hskip, sectionsFrom_skip (by simp), hlast]
  rfl

theorem undashed_of_startsWord {l : List Char} (h : StartsWord l) : Undashed l := by
  unfold Undashed
  rw [h.trimStart]
  exact h.head?_ne (by decide)

theorem bodyLine_of_startsWord {l : List Char} (h : StartsWord l) (hnl : '\n' ∉ l) : BodyLine l :=
  ⟨hnl, h.head?_ne (by decide), undashed_of_startsWord h⟩

theorem bodyLine_nil : BodyLine [] := ⟨List.not_mem_nil, nofun, nofun⟩

theorem bodyLine_indented {l : List Char} (h : StartsWord l) (hnl : '\n' ∉ l) :
    BodyLine (indented l) := by
  refine ⟨?_, by simp [indented], ?_⟩
  · rw [indented, List.mem_append, not_or]
    exact ⟨by decide, hnl⟩
  · unfold Undashed
    rw [indented, Text.trimStart_append_of_isBlank (by decide)]
    exact undashed_of_startsWord h

/-- A key line, and the text that may stand below it. -/
structure Item where
  key : List Char
  value : Option Phrase
  startsWord : StartsWord key
  clear : Clear key

def Item.lines (i : Item) : List (List Char) := i.key :: i.value.toList.map (indented ·.text)

/-- The key with its value, as a section gives it. -/
def Item.pair (i : Item) : List Char × List Char := (i.key, i.value.elim [] Phrase.text)

theorem Item.lines_cases {i : Item} {l : List Char} (h : l ∈ i.lines) :
    l = i.key ∨ ∃ t : Phrase, l = indented t.text := by
  rw [Item.lines, List.mem_cons, List.mem_map] at h
  exact h.imp id fun ⟨t, _, ht⟩ => ⟨t, ht.symm⟩

theorem Item.clear_of_mem {i : Item} {l : List Char} (h : l ∈ i.lines) : Clear l := by
  obtain rfl | ⟨t, rfl⟩ := lines_cases h
  · exact i.clear
  · exact (Record.printed_indented t.printed).toClear

theorem Item.bodyLine_of_mem {i : Item} {l : List Char} (h : l ∈ i.lines) : BodyLine l := by
  obtain rfl | ⟨t, rfl⟩ := lines_cases h
  · exact bodyLine_of_startsWord i.startsWord i.clear.noNewline
  · exact bodyLine_indented t.startsWord t.noNewline

def keyLine? (line : List Char) : Option (List Char) := if isKeyLine line then some line else none

theorem keyValues_eq (body : List Char) :
    keyValues body = (Text.groupUnder keyLine? (Text.lines body)).2.map
      fun g => (g.1, Text.clean (unlines ([] :: g.2))) :=
  rfl

theorem keyLine?_of_startsWord {l : List Char} (h : StartsWord l) : keyLine? l = some l := by
  obtain ⟨c, t, rfl, hc⟩ := h.exists_cons
  rw [keyLine?, if_pos]
  rw [isKeyLine, List.head?_cons, Option.any_some, isSpace_of_isNamePart hc]
  rfl

/-- The value of a key is the text of the one visible line below it. -/
theorem clean_below (v : Option Phrase) {blanks : List (List Char)} (hb : ∀ l ∈ blanks, l = []) :
    Text.clean (unlines ([] :: (v.toList.map (indented ·.text) ++ blanks))) =
      v.elim [] Phrase.text := by
  have hblank : ∀ l ∈ blanks, isBlank l = true := fun l hl => by rw [hb l hl]; rfl
  have hnil : ∀ l ∈ [([] : List Char)], isBlank l = true := List.forall_mem_singleton.mpr rfl
  cases v with
  | none =>
    exact Text.clean_of_isBlank (Text.isBlank_unlines (List.forall_mem_append.mpr ⟨hnil, hblank⟩))
  | some t =>
    have hprinted := Record.printed_indented t.printed
    have hlines : Text.lines (Text.expandTabs 8 (unlines ([[]] ++ indented t.text :: blanks))) =
        [[]] ++ indented t.text :: blanks := by
      have hclear : ∀ l ∈ [[]] ++ indented t.text :: blanks, Clear l := by
        have hempty : Clear [] := ⟨List.not_mem_nil, List.not_mem_nil⟩
        rw [List.singleton_append, List.forall_mem_cons, List.forall_mem_cons]
        exact ⟨hempty, hprinted.toClear, fun l hl => (hb l hl).symm ▸ hempty⟩
      have htab := Text.not_mem_unlines (by decide) fun l hl => (hclear l hl).noTab
      rw [Text.expandTabs_eq_self htab,
        Text.lines_unlines (by simp) fun l hl => (hclear l hl).noNewline]
    exact (Text.clean_of_single_visible hnil hprinted.visible hblank hlines).trans
      (Record.trimStart_indented t)

/-- Each key line is found with the lines below it. -/
theorem groupUnder_items (items : List Item) {blanks : List (List Char)}
    (hb : ∀ l ∈ blanks, l = []) :
    (∀ l ∈ (Text.groupUnder keyLine? (items.flatMap Item.lines ++ blanks)).1, l = []) ∧
      (Text.groupUnder keyLine? (items.flatMap Item.lines ++ blanks)).2.map
        (fun g => (g.1, Text.clean (unlines ([] :: g.2)))) = items.map Item.pair := by
  induction items with
  | nil =>
    have hnone : ∀ l ∈ blanks, keyLine? l = none := fun l hl => by rw [hb l hl]; rfl
    rw [List.flatMap_nil, List.nil_append, Text.groupUnder_eq_of_forall_none _ _ hnone]
    exact ⟨hb, rfl⟩
  | cons i items ih =>
    obtain ⟨hlead, hgroups⟩ := ih
    have hvalue : ∀ l ∈ i.value.toList.map (indented ·.text), keyLine? l = none :=
      List.forall_mem_map.mpr fun t _ => rfl
    rw [List.flatMap_cons, List.append_assoc, Item.lines, List.cons_append,
      Text.groupUnder_cons_some (keyLine?_of_startsWord i.startsWord), Text.groupUnder_append hvalue]
    refine ⟨List.forall_mem_nil _, ?_⟩
    rw [List.map_cons, List.map_cons, hgroups, clean_below i.value hlead]
    rfl

/-- A section gives back the items that were printed. -/
theorem keyValues_items {items : List Item} (hne : items ≠ []) {blanks : List (List Char)}
    (hb : ∀ l ∈ blanks, l = []) :
    keyValues ('\n' :: unlines (items.flatMap Item.lines ++ blanks)) = items.map Item.pair := by
  have hlines : Text.lines ('\n' :: unlines (items.flatMap Item.lines ++ blanks)) =
      [[]] ++ (items.flatMap Item.lines ++ blanks) := by
    rw [Text.lines_newline_cons, Text.lines_unlines]
    · rfl
    · obtain ⟨i, items, rfl⟩ := List.exists_cons_of_ne_nil hne
      exact List.cons_ne_nil _ _
    · rw [List.forall_mem_append]
      refine ⟨fun l hl => ?_, fun l hl => by rw [hb l hl]; decide⟩
      obtain ⟨i, -, hl⟩ := List.mem_flatMap.mp hl
      exact (Item.clear_of_mem hl).noNewline
  rw [keyValues_eq, hlines, Text.groupUnder_append (List.forall_mem_singleton.mpr rfl)]
  exact (groupUnder_items items hb).2

def entryOf (p : Record.Param) : Docstring.Param :=
  { args := ["param", String.ofList p.name.text]
    description := some (String.ofList p.description.text)
    name := String.ofList p.name.text
    type := p.type.map (String.ofList ·.text)
    optional := p.type.map fun _ => false
    default := default? p.description.text }

/-- The description of a result stands in the place of its type. -/
def resultOf (t : Phrase) : Returns :=
  { args := ["returns"]
    description := none
    type := some (String.ofList t.text)
    generator := false
    name := none }

def raisesOf (x : Record.Raised) : Raises :=
  { args := ["raises", String.ofList x.type.text]
    description := some (String.ofList x.description.text)
    type := some (String.ofList x.type.text) }

theorem trimmed?_phrase (t : Phrase) (h : t.Trimmed) :
    trimmed? t.text = some (String.ofList t.text) := by
  rw [trimmed?, t.trim_text h, Record.nonEmpty?_of_startsWord t.startsWord]

theorem optionalType?_eq_none {t : Phrase} (h : t.PlainType) : optionalType? t.text = none := by
  refine List.findSome?_eq_none_iff.mpr fun mark hmark => ?_
  rw [if_neg]
  rw [List.isSuffixOf_iff_suffix]
  simp only [List.mem_cons, List.not_mem_nil, or_false] at hmark
  obtain rfl | rfl := hmark
  · exact h.unmarked ", optional" (by decide)
  · exact h.unmarked "(optional)" (by decide)

theorem nameAndType_of_no_colon {key : List Char} (h : ':' ∉ key) :
    nameAndType key = (key, none) := by
  rw [nameAndType, Text.cut?_eq_none h]

theorem nameAndType_key (p : Record.Param) :
    nameAndType p.key = (p.name.text, p.type.map Phrase.text) := by
  have hcolon : ':' ∉ p.name.text := p.name.not_mem (by decide)
  cases ht : p.type with
  | none =>
    rw [Record.Param.key_of_untyped ht, nameAndType_of_no_colon hcolon]
    rfl
  | some t =>
    have hname : Text.trimEnd p.name.text = p.name.text :=
      (Text.trimEnd_eq_self_iff _).mpr fun c hc => p.name.visible c (List.mem_of_mem_getLast? hc)
    have htype : Text.trimStart ([' '] ++ t.text) = t.text := by
      rw [Text.trimStart_append_of_isBlank (by decide), t.startsWord.trimStart]
    rw [Record.Param.key_of_typed ht, nameAndType, Text.cut?_append (by simp [hcolon])]
    dsimp only
    rw [Text.trimEnd_append_of_isBlank _ (by decide), hname, ← List.singleton_append, htype]
    rfl

theorem paramEntry_eq {s : Section} (hs : s.key = "param") {p : Record.Param}
    (htypes : ∀ t ∈ p.type, t.PlainType) (hd : p.description.Trimmed) :
    paramEntry s p.key p.description.text = .param (entryOf p) := by
  rw [paramEntry, nameAndType_key, trimmed?_phrase _ hd, hs, entryOf]
  cases ht : p.type with
  | none => rfl
  | some t =>
    simp only [Option.map_some, optionalType?_eq_none (htypes t ht)]

theorem returnsEntry_eq {s : Section} (hs : s.key = "returns") {t : Phrase} (h : t.PlainResult) :
    returnsEntry s t.text [] false = .returns (resultOf t) := by
  rw [returnsEntry, nameAndType_of_no_colon h.noColon, hs]
  rfl

theorem raisesEntry_eq {s : Section} (hs : s.key = "raises") {x : Record.Raised}
    (h : x.description.Trimmed) :
    raisesEntry s x.type.text x.description.text = .raises (raisesOf x) := by
  rw [raisesEntry, trimmed?_phrase _ h, hs]
  rfl

/-! ## The sections of a record -/

/-- A section with its items and the entries that it stands for. -/
structure Part where
  kind : Section
  items : List Item
  entries : List Entry

def Part.lines (p : Part) : List (List Char) := p.items.flatMap Item.lines

def paramItem (p : Record.Param) : Item :=
  ⟨p.key, some p.description, p.startsWord_key, p.printed_key.toClear⟩

def resultItem (t : Phrase) : Item := ⟨t.text, none, t.startsWord, t.clear⟩

def raisedItem (x : Record.Raised) : Item :=
  ⟨x.type.text, some x.description, x.type.startsWord, x.type.clear⟩

def partsOf (r : Record) : List Part := [
  ⟨⟨"Parameters", "param", .params⟩, r.params.map paramItem, r.params.map (.param ∘ entryOf)⟩,
  ⟨⟨"Returns", "returns", .returns⟩, r.returns.toList.map resultItem,
    r.returns.toList.map (.returns ∘ resultOf)⟩,
  ⟨⟨"Raises", "raises", .raises⟩, r.raises.map raisedItem, r.raises.map (.raises ∘ raisesOf)⟩]

/-- No section that is tried before has a title that fits. -/
theorem found_at_title : ∀ s ∈ [(⟨"Parameters", "param", .params⟩ : Section),
    ⟨"Returns", "returns", .returns⟩, ⟨"Raises", "raises", .raises⟩],
    s.subject ≠ .deprecation ∧ ∃ n < sections.length,
      sections = sections.take n ++ s :: sections.drop (n + 1) ∧ ∀ s' ∈ sections.take n,
        s'.subject ≠ .deprecation ∧ ¬ s'.title.toList <+: s.title.toList := by
  decide

/-- A section that is found at its heading and whose items are read to its entries. -/
structure Part.Sound (p : Part) : Prop where
  kind : p.kind ∈ [(⟨"Parameters", "param", .params⟩ : Section),
    ⟨"Returns", "returns", .returns⟩, ⟨"Raises", "raises", .raises⟩]
  empty : p.items = [] → p.entries = []
  read : ∀ body, keyValues body = p.items.map Item.pair → sectionEntries p.kind body = p.entries

theorem sound_partsOf {r : Record} (h : r.Neutral) : ∀ p ∈ partsOf r, p.Sound := by
  intro p hp
  simp only [partsOf, List.mem_cons, List.not_mem_nil, or_false] at hp
  obtain rfl | rfl | rfl := hp
  · refine ⟨by simp, fun hnil => ?_, fun body hbody => ?_⟩
    · exact List.map_eq_nil_iff.mpr (List.map_eq_nil_iff.mp hnil)
    · rw [sectionEntries]
      dsimp only
      rw [hbody, List.map_map, List.map_map]
      exact List.map_congr_left fun p hp =>
        paramEntry_eq rfl (h.types p hp) (h.descriptions p hp).trimmed
  · refine ⟨by simp, fun hnil => ?_, fun body hbody => ?_⟩
    · exact List.map_eq_nil_iff.mpr (List.map_eq_nil_iff.mp hnil)
    · rw [sectionEntries]
      dsimp only
      rw [hbody, List.map_map, List.map_map]
      exact List.map_congr_left fun t ht =>
        returnsEntry_eq rfl (h.returns t (Option.mem_toList.mp ht))
  · refine ⟨by simp, fun hnil => ?_, fun body hbody => ?_⟩
    · exact List.map_eq_nil_iff.mpr (List.map_eq_nil_iff.mp hnil)
    · rw [sectionEntries]
      dsimp only
      rw [hbody, List.map_map, List.map_map]
      exact List.map_congr_left fun x hx => raisesEntry_eq rfl (h.raises x hx).trimmed

/-! ## Finding the sections -/

/-- The heading and the lines of a section. -/
def Part.titled (p : Part) : List (List Char) :=
  p.kind.title.toList :: List.replicate p.kind.title.length '-' :: p.lines

/-- The lines of a section below a blank one. -/
def Part.block (p : Part) : List (List Char) := [] :: p.titled

theorem startsWord_title : ∀ s ∈ sections, StartsWord s.title.toList := by
  have h : ∀ s ∈ sections, s.title.toList.head?.any isNamePart = true := by decide
  exact h

theorem Part.Sound.mem_sections {p : Part} (h : p.Sound) : p.kind ∈ sections := by
  obtain ⟨-, n, -, hsplit, -⟩ := found_at_title p.kind h.kind
  rw [hsplit]
  simp

theorem Part.Sound.undashed_titled {p : Part} (h : p.Sound) (ls : List (List Char)) :
    Undashed (unlines (p.titled ++ ls)) := by
  rw [titled, List.cons_append, Text.unlines_cons]
  exact undashed_of_startsWord ((startsWord_title p.kind h.mem_sections).append _)

theorem Part.bodyLine_of_mem {p : Part} {l : List Char} (h : l ∈ p.lines) : BodyLine l := by
  obtain ⟨i, -, hl⟩ := List.mem_flatMap.mp h
  exact Item.bodyLine_of_mem hl

theorem Part.startsWord_lines {p : Part} (hne : p.items ≠ []) (ls : List (List Char)) :
    StartsWord (unlines (p.lines ++ ls)) := by
  obtain ⟨i, items, hi⟩ := List.exists_cons_of_ne_nil hne
  rw [Part.lines, hi, List.flatMap_cons, Item.lines, List.cons_append, List.cons_append,
    Text.unlines_cons]
  exact i.startsWord.append _

/-- A heading opens its section. -/
theorem Part.Sound.sectionsFrom_titled {p : Part} (h : p.Sound) (hne : p.items ≠ [])
    (ls : List (List Char)) :
    sectionsFrom 0 true (unlines (p.titled ++ ls)) =
      ([], (p.kind, '\n' :: (sectionsFrom 0 true (unlines (p.lines ++ ls))).1) ::
        (sectionsFrom 0 true (unlines (p.lines ++ ls))).2) := by
  obtain ⟨hsubject, n, -, hsplit, hbefore⟩ := found_at_title p.kind h.kind
  obtain ⟨c, t, hct, hc⟩ := (startsWord_lines hne ls).exists_cons
  have hlines : p.lines ++ ls ≠ [] := by
    intro hnil
    rw [hnil] at hct
    cases hct
  have htext : unlines (p.titled ++ ls) = underlined p.kind (unlines (p.lines ++ ls)) := by
    obtain ⟨l, ls', hcons⟩ := List.exists_cons_of_ne_nil hlines
    rw [titled, List.cons_append, List.cons_append, hcons, Text.unlines_cons_cons,
      Text.unlines_cons_cons, underlined]
  rw [htext, hct, sectionsFrom_underlined hsplit hsubject hbefore (isSpace_of_isNamePart hc)]

/-- The blank lines below a section have no part in its entries. -/
theorem Part.Sound.sectionEntries_body {p : Part} (h : p.Sound) (hne : p.items ≠ [])
    {blanks : List (List Char)} (hb : ∀ l ∈ blanks, l = []) :
    sectionEntries p.kind ('\n' :: unlines (p.lines ++ blanks)) = p.entries :=
  h.read _ (keyValues_items hne hb)

/-- The sections are found at their headings and read to their entries. -/
theorem sectionsFrom_blocks {ps : List Part} (h : ∀ p ∈ ps, p.Sound ∧ p.items ≠ []) {p : Part}
    (hp : p.Sound) (hne : p.items ≠ []) :
    (sectionsFrom 0 true (unlines (p.titled ++ ps.flatMap Part.block))).1 = [] ∧
      (sectionsFrom 0 true (unlines (p.titled ++ ps.flatMap Part.block))).2.map
        (fun g => sectionEntries g.1 g.2) = (p :: ps).map Part.entries := by
  rw [hp.sectionsFrom_titled hne]
  refine ⟨rfl, ?_⟩
  have hbody : ∀ l ∈ p.lines, BodyLine l := fun l hl => Part.bodyLine_of_mem hl
  cases ps with
  | nil =>
    have hlines : p.lines ≠ [] := by
      intro hnil
      have hw := Part.startsWord_lines hne []
      rw [hnil] at hw
      cases hw
    have hentries := hp.sectionEntries_body hne (List.forall_mem_nil _)
    rw [List.append_nil] at hentries
    rw [List.flatMap_nil, List.append_nil, sectionsFrom_unlines hlines hbody]
    exact congrArg (· :: []) hentries
  | cons q ps =>
    rw [List.forall_mem_cons] at h
    obtain ⟨⟨hq, hqne⟩, hps⟩ := h
    obtain ⟨hnone, hrest⟩ := sectionsFrom_blocks hps hq hqne
    have hblank : ∀ l ∈ p.lines ++ [[]], BodyLine l :=
      List.forall_mem_append.mpr ⟨hbody, List.forall_mem_singleton.mpr bodyLine_nil⟩
    -- the blank line above the next heading belongs to this section
    have htext : unlines (p.lines ++ (q :: ps).flatMap Part.block) =
        terminated (p.lines ++ [[]]) ++ unlines (q.titled ++ ps.flatMap Part.block) := by
      rw [← Text.unlines_append (by simp [Part.titled]), List.flatMap_cons, Part.block,
        List.append_assoc]
      rfl
    rw [htext, sectionsFrom_terminated hblank (hq.undashed_titled _), hnone, List.append_nil,
      Text.terminated_eq_unlines, List.append_assoc, List.map_cons,
      hp.sectionEntries_body hne (by decide), hrest]
    rfl

variable {r : Record}

/-- The sections of a record that have items. -/
def shown (r : Record) : List Part := (partsOf r).filter (!·.items.isEmpty)

theorem Part.isEmpty_lines (p : Part) : p.lines.isEmpty = p.items.isEmpty := by
  rw [Part.lines]
  cases p.items with
  | nil => rfl
  | cons i items => rfl

theorem lines_numpy (r : Record) : r.lines .numpy = r.lead ++ (shown r).flatMap Part.block := by
  have hsections : r.sections .numpy = (partsOf r).map fun p => (p.kind.title, p.lines) := by
    cases hr : r.returns with
    | none =>
      simp [Record.sections, partsOf, Part.lines, hr, List.flatMap_map, paramItem, raisedItem,
        Item.lines]
    | some t =>
      simp [Record.sections, partsOf, Part.lines, hr, List.flatMap_map, paramItem, raisedItem,
        resultItem, Item.lines]
  have hshown : shown r = (partsOf r).filter (!·.lines.isEmpty) := by
    simp only [shown, Part.isEmpty_lines]
  rw [Record.lines, Record.paragraphs, hsections, List.filter_map, List.map_map, List.flatMap_map,
    hshown]
  rfl

theorem sound_shown (h : r.Neutral) : ∀ p ∈ shown r, p.Sound ∧ p.items ≠ [] := by
  intro p hp
  rw [shown, List.mem_filter] at hp
  exact ⟨sound_partsOf h p hp.1, by simpa using hp.2⟩

theorem entries_shown (h : r.Neutral) :
    ((shown r).map Part.entries).flatten =
      Record.entries (r.params.map entryOf) (r.returns.map resultOf) (r.raises.map raisesOf) := by
  have hall : ((shown r).map Part.entries).flatten = (partsOf r).flatMap Part.entries := by
    refine Record.flatten_map_filter fun p hp hshown => (sound_partsOf h p hp).empty ?_
    simpa using hshown
  rw [hall, Record.entries, List.map_map, List.map_map]
  cases hr : r.returns with
  | none => simp [partsOf, hr]
  | some t => simp [partsOf, hr]

theorem bodyLine_phrase (t : Phrase) : BodyLine t.text :=
  bodyLine_of_startsWord t.startsWord t.noNewline

theorem bodyLine_lead (r : Record) : ∀ l ∈ r.lead, BodyLine l :=
  Record.forall_lead bodyLine_nil (bodyLine_phrase r.summary) fun b _ => bodyLine_phrase b

theorem parse_print {style : Style} {lead : List Char} {bodies : List (Section × List Char)}
    (h : sectionsFrom 0 true (r.print style) = (lead, bodies)) :
    parse (r.print style) = ofDescription lead
      (bodies.map fun g => sectionEntries g.1 g.2).flatten (some .numpy) := by
  rw [parse, r.clean_print, h]
  rfl

/-- The underlined section dialect reads a record from its sections. -/
theorem reads_print (h : r.Neutral) : r.Reads (parse (r.print .numpy)) := by
  have hf : ∀ p ∈ r.params, Signature.paramDoc (entryOf p) = p.doc :=
    fun p hp => Record.paramDoc_eq p rfl rfl (h.descriptions p hp).numpy rfl
  have hentries := entries_shown h
  cases hs : shown r with
  | nil =>
    have hfound : sectionsFrom 0 true (r.print .numpy) = (unlines (r.lead ++ []), []) := by
      rw [Record.print, lines_numpy, hs, List.flatMap_nil, List.append_nil]
      exact sectionsFrom_unlines (List.cons_ne_nil _ _) (bodyLine_lead r)
    rw [hs, List.map_nil] at hentries
    rw [parse_print hfound, List.map_nil, hentries]
    exact r.reads_ofDescription h.body (List.forall_mem_nil _) (some .numpy) hf (fun _ => rfl)
      fun _ => rfl
  | cons p ps =>
    have hsound := sound_shown h
    rw [hs, List.forall_mem_cons] at hsound
    obtain ⟨⟨hp, hne⟩, hps⟩ := hsound
    obtain ⟨hnone, hread⟩ := sectionsFrom_blocks hps hp hne
    have hblank : ∀ l ∈ r.lead ++ [[]], BodyLine l :=
      List.forall_mem_append.mpr ⟨bodyLine_lead r, List.forall_mem_singleton.mpr bodyLine_nil⟩
    have htext : r.print .numpy =
        terminated (r.lead ++ [[]]) ++ unlines (p.titled ++ ps.flatMap Part.block) := by
      rw [← Text.unlines_append (by simp [Part.titled]), Record.print, lines_numpy, hs,
        List.flatMap_cons, Part.block, List.append_assoc]
      rfl
    have hfound := sectionsFrom_terminated hblank (hp.undashed_titled (ps.flatMap Part.block))
    rw [← htext, hnone, List.append_nil, Text.terminated_eq_unlines, List.append_assoc] at hfound
    rw [parse_print hfound, hread, ← hs, hentries]
    exact r.reads_ofDescription h.body (by decide) (some .numpy) hf (fun _ => rfl) fun _ => rfl

/-- Without headings the text is all description. -/
theorem blind {style : Style} (h : ∀ l ∈ r.lines style, BodyLine l) :
    Blind (r.print style) .numpy := by
  have hfound : sectionsFrom 0 true (r.print style) = (r.print style, []) :=
    sectionsFrom_unlines (by rw [r.lines_eq_cons]; exact List.cons_ne_nil _ _) h
  refine ⟨parse (r.print style), rfl, ?_⟩
  rw [parse_print hfound]
  exact ofDescription_entries _ _ _

end RefBook.Docstring.Numpy
