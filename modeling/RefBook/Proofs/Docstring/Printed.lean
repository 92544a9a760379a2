import RefBook.Proofs.Docstring.Record

/-! # The lines of a printed record

Every line of a printed record is without tabs, and the sections hold no blank ones. A
section starts in the first column, so a printed record is clean: each dialect reads the
very lines that were printed. -/

namespace RefBook.Docstring

open Text (isSpace isBlank unlines dropEndWhile)

theorem isSpace_of_isNamePart {c : Char} (h : isNamePart c = true) : isSpace c = false := by
  have hc : 48 ≤ c.toNat ∧ c.toNat ≤ 122 := by
    unfold isNamePart Char.isAlphanum Char.isAlpha Char.isUpper Char.isLower Char.isDigit at h
    simp only [Bool.or_eq_true, Bool.and_eq_true, decide_eq_true_eq, beq_iff_eq, ge_iff_le,
      UInt32.le_iff_toNat_le] at h
    rcases h with h | rfl
    · simp only [Char.reduceVal, UInt32.reduceToNat, Char.toNat_val] at h
      omega
    · decide
  simp only [isSpace, Bool.or_eq_false_iff, Bool.and_eq_false_iff, decide_eq_false_iff_not,
    beq_eq_false_iff_ne, ne_eq]
  omega

/-- A text that starts with a letter, a digit or an underscore. -/
def StartsWord (t : List Char) : Prop := t.head?.any isNamePart = true

theorem StartsWord.exists_cons {t : List Char} (h : StartsWord t) :
    ∃ c t', t = c :: t' ∧ isNamePart c = true := by
  unfold StartsWord at h
  cases t with
  | nil => cases h
  | cons c t' => exact ⟨c, t', rfl, h⟩

theorem StartsWord.append {a : List Char} (h : StartsWord a) (b : List Char) :
    StartsWord (a ++ b) := by
  obtain ⟨c, t, rfl, hc⟩ := h.exists_cons
  exact hc

theorem StartsWord.ne_nil {t : List Char} (h : StartsWord t) : t ≠ [] := by
  obtain ⟨c, t', rfl, -⟩ := h.exists_cons
  exact List.cons_ne_nil c t'

theorem StartsWord.head?_ne {t : List Char} (h : StartsWord t) {c : Char}
    (hc : isNamePart c = false) : t.head? ≠ some c := by
  obtain ⟨c', t', rfl, hc'⟩ := h.exists_cons
  rw [List.head?_cons]
  rintro ⟨rfl⟩
  rw [hc'] at hc
  cases hc

theorem StartsWord.isBlank {t : List Char} (h : StartsWord t) : Text.isBlank t = false := by
  obtain ⟨c, t', rfl, hc⟩ := h.exists_cons
  exact Text.isBlank_of_head (isSpace_of_isNamePart hc) t'

theorem StartsWord.trimStart {t : List Char} (h : StartsWord t) : Text.trimStart t = t := by
  obtain ⟨c, t', rfl, hc⟩ := h.exists_cons
  exact Text.trimStart_of_head (isSpace_of_isNamePart hc) t'

theorem StartsWord.indent? {t : List Char} (h : StartsWord t) : Text.indent? t = some 0 := by
  obtain ⟨c, t', rfl, hc⟩ := h.exists_cons
  exact Text.indent?_of_head (isSpace_of_isNamePart hc) t'

theorem Phrase.startsWord (p : Phrase) : StartsWord p.text := by
  have h := p.initial
  unfold StartsWord
  cases ht : p.text with
  | nil => rw [ht] at h; cases h
  | cons c t =>
    rw [ht, List.head?_cons, Option.any_some] at h
    simp [isNamePart, Char.isAlphanum, h]

theorem Phrase.trim_text (p : Phrase) (h : p.Trimmed) : Text.trim p.text = p.text := by
  rw [Text.trim, p.startsWord.trimStart, h]

theorem Identifier.startsWord (i : Identifier) : StartsWord i.text := by
  have h := i.initial
  unfold StartsWord
  cases ht : i.text with
  | nil => rw [ht] at h; cases h
  | cons c t =>
    have hp := i.parts
    rw [ht, List.all_cons, Bool.and_eq_true] at hp
    exact hp.1

/-- A name has none of the characters that dialects use as marks. -/
theorem Identifier.not_mem (i : Identifier) {c : Char} (hc : isNamePart c = false) :
    c ∉ i.text := by
  intro hm
  rw [List.all_eq_true.mp i.parts c hm] at hc
  cases hc

/-- A text on one line without tabs. -/
structure Clear (t : List Char) : Prop where
  noTab : '\t' ∉ t
  noNewline : '\n' ∉ t

theorem Clear.append {a b : List Char} (ha : Clear a) (hb : Clear b) : Clear (a ++ b) :=
  ⟨by simp [ha.noTab, hb.noTab], by simp [ha.noNewline, hb.noNewline]⟩

theorem Phrase.clear (p : Phrase) : Clear p.text := ⟨p.noTab, p.noNewline⟩

theorem Identifier.clear (i : Identifier) : Clear i.text :=
  ⟨i.not_mem (by decide), i.not_mem (by decide)⟩

/-- A line of a section: not blank and without tabs. -/
structure Printed (l : List Char) : Prop extends Clear l where
  visible : Text.isBlank l = false

theorem StartsWord.printed {l : List Char} (h : StartsWord l) (hc : Clear l) : Printed l :=
  ⟨hc, h.isBlank⟩

theorem Phrase.printed (p : Phrase) : Printed p.text := p.startsWord.printed p.clear

namespace Record

theorem printed_indented {l : List Char} (h : Printed l) : Printed (indented l) := by
  refine ⟨Clear.append ⟨by decide, by decide⟩ h.toClear, ?_⟩
  rw [indented, Text.isBlank, List.all_append, ← Text.isBlank, ← Text.isBlank, h.visible]
  simp

/-! ## Every line of a section is printed -/

variable {r : Record}

theorem Param.startsWord_item (p : Param) : StartsWord p.item := by
  unfold item label
  rw [List.append_assoc, List.append_assoc]
  exact p.name.startsWord.append _

theorem Param.printed_item (p : Param) : Printed p.item := by
  refine p.startsWord_item.printed ?_
  have htype : Clear (p.type.elim [] fun t => " (".toList ++ t.text ++ [')']) := by
    cases p.type with
    | none => exact ⟨by decide, by decide⟩
    | some t => exact (Clear.append ⟨by decide, by decide⟩ t.clear).append ⟨by decide, by decide⟩
  exact ((p.name.clear.append htype).append ⟨by decide, by decide⟩).append p.description.clear

theorem Param.key_of_untyped {p : Param} (h : p.type = none) : p.key = p.name.text := by
  rw [key, h]
  exact List.append_nil p.name.text

theorem Param.key_of_typed {p : Param} {t : Phrase} (h : p.type = some t) :
    p.key = (p.name.text ++ [' ']) ++ ':' :: ' ' :: t.text := by
  rw [key, h, List.append_assoc]
  rfl

theorem Param.startsWord_key (p : Param) : StartsWord p.key := p.name.startsWord.append _

theorem Param.printed_key (p : Param) : Printed p.key := by
  refine p.startsWord_key.printed (p.name.clear.append ?_)
  cases p.type with
  | none => exact ⟨by decide, by decide⟩
  | some t => exact Clear.append ⟨by decide, by decide⟩ t.clear

theorem Raised.startsWord_item (x : Raised) : StartsWord x.item := by
  unfold item
  rw [List.append_assoc]
  exact x.type.startsWord.append _

theorem Raised.printed_item (x : Raised) : Printed x.item :=
  x.startsWord_item.printed
    ((x.type.clear.append ⟨by decide, by decide⟩).append x.description.clear)

theorem Markup.printed_field {m : Markup} (hm : isSpace m.marker = false) {head text : List Char}
    (hh : Clear head) (ht : Clear text) : Printed (m.field head text) := by
  have hmark : Clear [m.marker] := by
    constructor
    · rw [List.mem_singleton]
      intro h
      rw [← h] at hm
      exact absurd hm (by decide)
    · rw [List.mem_singleton]
      intro h
      rw [← h] at hm
      exact absurd hm (by decide)
  have hsep : Clear [':', ' '] := ⟨by decide, by decide⟩
  exact ⟨(hmark.append hh).append (hsep.append ht), Text.isBlank_of_head hm _⟩

theorem Markup.printed_of_mem_fields {m : Markup} (hm : isSpace m.marker = false)
    (hresult : Clear m.result.toList) (hraised : Clear m.raised.toList) :
    ∀ l ∈ m.fields r, Printed l := by
  intro l hl
  have hsep : Clear [' '] := ⟨by decide, by decide⟩
  rw [fields, List.mem_append, List.mem_append, List.mem_flatMap, List.mem_map, List.mem_map] at hl
  obtain (⟨p, -, hl⟩ | ⟨t, -, rfl⟩) | ⟨x, -, rfl⟩ := hl
  · have hhead : ∀ word : List Char, Clear word → Clear (word ++ ' ' :: p.name.text) :=
      fun word hword => hword.append (hsep.append p.name.clear)
    rw [paramFields, List.mem_cons, List.mem_map] at hl
    obtain rfl | ⟨t, -, rfl⟩ := hl
    · exact printed_field hm (hhead _ ⟨by decide, by decide⟩) p.description.clear
    · exact printed_field hm (hhead _ ⟨by decide, by decide⟩) t.clear
  · exact printed_field hm hresult t.clear
  · exact printed_field hm (hraised.append (hsep.append x.type.clear)) x.description.clear

/-- The lines of sections, dialect by dialect. -/
inductive Line (r : Record) : Style → List Char → Prop
  | field {l : List Char} (h : l ∈ Markup.rest.fields r) : Line r .rest l
  | item {p : Param} (h : p ∈ r.params) : Line r .google (indented p.item)
  | result {t : Phrase} (h : t ∈ r.returns) : Line r .google (indented t.text)
  | raisedItem {x : Raised} (h : x ∈ r.raises) : Line r .google (indented x.item)
  | key {p : Param} (h : p ∈ r.params) : Line r .numpy p.key
  | description {p : Param} (h : p ∈ r.params) : Line r .numpy (indented p.description.text)
  | resultKey {t : Phrase} (h : t ∈ r.returns) : Line r .numpy t.text
  | raisedKey {x : Raised} (h : x ∈ r.raises) : Line r .numpy x.type.text
  | raisedDescription {x : Raised} (h : x ∈ r.raises) : Line r .numpy (indented x.description.text)
  | tag {l : List Char} (h : l ∈ Markup.epydoc.fields r) : Line r .epydoc l

theorem line_of_mem_sections (style : Style) :
    ∀ s ∈ r.sections style, ∀ l ∈ s.2, r.Line style l := by
  intro s hs l hl
  cases style with
  | rest =>
    rw [sections, List.mem_singleton] at hs
    subst hs
    exact .field hl
  | google =>
    simp only [sections, List.mem_cons, List.not_mem_nil, or_false] at hs
    obtain rfl | rfl | rfl := hs
    · obtain ⟨p, hp, rfl⟩ := List.mem_map.mp hl
      exact .item hp
    · obtain ⟨t, ht, rfl⟩ := List.mem_map.mp hl
      exact .result (Option.mem_toList.mp ht)
    · obtain ⟨x, hx, rfl⟩ := List.mem_map.mp hl
      exact .raisedItem hx
  | numpy =>
    simp only [sections, List.mem_cons, List.not_mem_nil, or_false] at hs
    obtain rfl | rfl | rfl := hs
    · obtain ⟨p, hp, hl⟩ := List.mem_flatMap.mp hl
      simp only [List.mem_cons, List.not_mem_nil, or_false] at hl
      obtain rfl | rfl := hl
      · exact .key hp
      · exact .description hp
    · obtain ⟨t, ht, rfl⟩ := List.mem_map.mp hl
      exact .resultKey (Option.mem_toList.mp ht)
    · obtain ⟨x, hx, hl⟩ := List.mem_flatMap.mp hl
      simp only [List.mem_cons, List.not_mem_nil, or_false] at hl
      obtain rfl | rfl := hl
      · exact .raisedKey hx
      · exact .raisedDescription hx
  | epydoc =>
    rw [sections, List.mem_singleton] at hs
    subst hs
    exact .tag hl

theorem Line.printed {style : Style} {l : List Char} (h : r.Line style l) : Printed l := by
  cases h with
  | field h =>
    exact Markup.printed_of_mem_fields (by decide) ⟨by decide, by decide⟩
      ⟨by decide, by decide⟩ l h
  | item => exact printed_indented (Param.printed_item _)
  | result => exact printed_indented (Phrase.printed _)
  | raisedItem => exact printed_indented (Raised.printed_item _)
  | key => exact Param.printed_key _
  | description => exact printed_indented (Phrase.printed _)
  | resultKey => exact Phrase.printed _
  | raisedKey => exact (Identifier.startsWord _).printed (Identifier.clear _)
  | raisedDescription => exact printed_indented (Phrase.printed _)
  | tag h =>
    exact Markup.printed_of_mem_fields (by decide) ⟨by decide, by decide⟩
      ⟨by decide, by decide⟩ l h

/-- The titles of the sections, which do not depend on the record. -/
def titles : Style → List String
  | .rest | .epydoc => [""]
  | .google => ["Args", "Returns", "Raises"]
  | .numpy => ["Parameters", "Returns", "Raises"]

theorem map_sections (r : Record) (style : Style) :
    (r.sections style).map (·.1) = titles style := by
  cases style with
  | rest | google | numpy | epydoc => rfl

theorem printed_of_mem_heading (style : Style) :
    ∀ title ∈ titles style, ∀ l ∈ heading style title, Printed l := by
  have h : ∀ title ∈ titles style, ∀ l ∈ heading style title,
      ('\t' ∉ l ∧ '\n' ∉ l) ∧ isBlank l = false := by
    cases style with
    | rest | google | numpy | epydoc => decide
  intro title ht l hl
  obtain ⟨⟨htab, hnl⟩, hv⟩ := h title ht l hl
  exact ⟨⟨htab, hnl⟩, hv⟩

/-- Every field starts with the marker. -/
theorem Markup.head?_of_mem_fields (m : Markup) : ∀ l ∈ m.fields r, l.head? = some m.marker := by
  intro l hl
  rw [fields, List.mem_append, List.mem_append, List.mem_flatMap, List.mem_map, List.mem_map] at hl
  obtain (⟨p, -, hl⟩ | ⟨t, -, rfl⟩) | ⟨x, -, rfl⟩ := hl
  · rw [paramFields, List.mem_cons, List.mem_map] at hl
    obtain rfl | ⟨t, -, rfl⟩ := hl
    · rfl
    · rfl
  · rfl
  · rfl

theorem Markup.head_fields (m : Markup) (hm : isSpace m.marker = false) (hne : m.fields r ≠ []) :
    ∃ h t, m.fields r = h :: t ∧ Text.indent? h = some 0 := by
  obtain ⟨h, t, hcons⟩ := List.exists_cons_of_ne_nil hne
  have hhead := m.head?_of_mem_fields h (hcons ▸ List.mem_cons_self)
  refine ⟨h, t, hcons, ?_⟩
  cases h with
  | nil => cases hhead
  | cons c l =>
    rw [List.head?_cons, Option.some.injEq] at hhead
    rw [hhead]
    exact Text.indent?_of_head hm l

theorem head_heading {style : Style} (hs : style = .google ∨ style = .numpy) :
    ∀ title ∈ titles style, ((heading style title).head?.bind Text.indent?) = some 0 := by
  obtain rfl | rfl := hs
  · decide
  · decide

/-- A heading starts in the first column, and so does a field. -/
theorem head_paragraph (style : Style) : ∀ s ∈ r.sections style, s.2 ≠ [] →
    ∃ h t, heading style s.1 ++ s.2 = h :: t ∧ Text.indent? h = some 0 := by
  intro s hs hne
  have htitle : s.1 ∈ titles style := by
    rw [← map_sections r style]
    exact List.mem_map_of_mem hs
  cases style with
  | rest =>
    rw [sections, List.mem_singleton] at hs
    subst hs
    exact Markup.rest.head_fields (by decide) hne
  | google => exact ⟨_, s.2, rfl, head_heading (.inl rfl) s.1 htitle⟩
  | numpy => exact ⟨_, _ :: s.2, rfl, head_heading (.inr rfl) s.1 htitle⟩
  | epydoc =>
    rw [sections, List.mem_singleton] at hs
    subst hs
    exact Markup.epydoc.head_fields (by decide) hne

/-- What holds of the summary, of the description and of a blank line holds of the lead. -/
theorem forall_lead {P : List Char → Prop} (hblank : P []) (hsummary : P r.summary.text)
    (hbody : ∀ b ∈ r.body, P b.text) : ∀ l ∈ r.lead, P l := by
  intro l hl
  rw [lead, List.mem_cons, List.mem_flatMap] at hl
  obtain rfl | ⟨b, hb, hl⟩ := hl
  · exact hsummary
  · simp only [List.mem_cons, List.not_mem_nil, or_false] at hl
    obtain rfl | rfl := hl
    · exact hblank
    · exact hbody b (Option.mem_toList.mp hb)

/-- What holds of the lead, of headings and of the lines of sections holds of all lines. -/
theorem forall_lines {P : List Char → Prop} {style : Style} (hblank : P [])
    (hlead : ∀ l ∈ r.lead, P l) (hheading : ∀ title ∈ titles style, ∀ l ∈ heading style title, P l)
    (hsections : ∀ l, r.Line style l → P l) : ∀ l ∈ r.lines style, P l := by
  intro l hl
  rw [lines, List.mem_append, List.mem_flatMap] at hl
  obtain hl | ⟨p, hp, hl⟩ := hl
  · exact hlead l hl
  · obtain ⟨s, hs, rfl⟩ := List.mem_map.mp hp
    have hs := List.mem_of_mem_filter hs
    obtain rfl | hl := List.mem_cons.mp hl
    · exact hblank
    · obtain hl | hl := List.mem_append.mp hl
      · refine hheading s.1 ?_ l hl
        rw [← map_sections r style]
        exact List.mem_map_of_mem hs
      · exact hsections l (line_of_mem_sections style s hs l hl)

/-! ## A printed record is clean -/

/-- The lines below the summary. -/
def below (r : Record) (style : Style) : List (List Char) :=
  (r.body.toList.map (fun b => [b.text]) ++ r.paragraphs style).flatMap ([] :: ·)

theorem lines_eq_cons (r : Record) (style : Style) :
    r.lines style = r.summary.text :: r.below style := by
  rw [lines, lead, below, List.flatMap_append, List.flatMap_map, List.cons_append]

theorem paragraph_cases (style : Style) {p : List (List Char)}
    (hp : p ∈ r.body.toList.map (fun b => [b.text]) ++ r.paragraphs style) :
    (∃ h t, p = h :: t ∧ Text.indent? h = some 0) ∧ ∀ l ∈ p, Printed l := by
  rw [List.mem_append] at hp
  obtain hp | hp := hp
  · obtain ⟨b, -, rfl⟩ := List.mem_map.mp hp
    refine ⟨⟨b.text, [], rfl, b.startsWord.indent?⟩, ?_⟩
    intro l hl
    rw [List.mem_singleton.mp hl]
    exact b.printed
  · obtain ⟨s, hs, rfl⟩ := List.mem_map.mp hp
    rw [List.mem_filter] at hs
    refine ⟨head_paragraph style s hs.1 (by simpa using hs.2), ?_⟩
    intro l hl
    have htitle : s.1 ∈ titles style := by
      rw [← map_sections r style]
      exact List.mem_map_of_mem hs.1
    obtain hl | hl := List.mem_append.mp hl
    · exact printed_of_mem_heading style s.1 htitle l hl
    · exact (line_of_mem_sections style s hs.1 l hl).printed

theorem ends_flatMap {ps : List (List (List Char))}
    (h : ∀ p ∈ ps, p ≠ [] ∧ ∀ l ∈ p, Text.isBlank l = false) :
    dropEndWhile isBlank (ps.flatMap ([] :: ·)) = ps.flatMap ([] :: ·) := by
  induction ps using List.reverseRecOn with
  | nil => rfl
  | append_singleton ps p _ =>
    obtain ⟨hne, hvisible⟩ := h p (by simp)
    obtain ⟨q, l, rfl⟩ := (List.eq_nil_or_concat' p).resolve_left hne
    rw [List.flatMap_append, List.flatMap_singleton, ← List.cons_append, ← List.append_assoc]
    exact Text.dropEndWhile_append_of_neg (hvisible l (by simp)) _ []

theorem tidy (r : Record) (style : Style) : Text.Tidy r.summary.text (r.below style) := by
  have hclear : ∀ l ∈ r.summary.text :: r.below style, Clear l := by
    intro l hl
    obtain rfl | hl := List.mem_cons.mp hl
    · exact r.summary.clear
    · obtain ⟨p, hp, hl⟩ := List.mem_flatMap.mp hl
      obtain rfl | hl := List.mem_cons.mp hl
      · exact ⟨List.not_mem_nil, List.not_mem_nil⟩
      · exact ((paragraph_cases style hp).2 l hl).toClear
  have hflush : Text.Flush (r.below style) := by
    cases hps : r.body.toList.map (fun b => [b.text]) ++ r.paragraphs style with
    | nil =>
      rw [below, hps]
      rfl
    | cons p ps =>
      obtain ⟨⟨h, t, rfl, hi⟩, -⟩ := paragraph_cases (r := r) style (hps ▸ List.mem_cons_self)
      refine Text.flush_of_mem ?_ hi
      rw [below, hps]
      simp
  exact
    { visible := r.summary.startsWord.isBlank
      unindented := r.summary.startsWord.trimStart
      flush := hflush
      ends := by
        refine ends_flatMap fun p hp => ?_
        obtain ⟨⟨h, t, rfl, -⟩, hprinted⟩ := paragraph_cases style hp
        exact ⟨List.cons_ne_nil h t, fun l hl => (hprinted l hl).visible⟩
      noTab := fun l hl => (hclear l hl).noTab
      noNewline := fun l hl => (hclear l hl).noNewline }

theorem clean_print (r : Record) (style : Style) : Text.clean (r.print style) = r.print style := by
  rw [print, lines_eq_cons, Text.clean, (r.tidy style).cleanLines_unlines]

theorem lines_print (r : Record) (style : Style) :
    Text.lines (r.print style) = r.lines style := by
  rw [print, lines_eq_cons, (r.tidy style).lines_unlines]

end Record

end RefBook.Docstring
