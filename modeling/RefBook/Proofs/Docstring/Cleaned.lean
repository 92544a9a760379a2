import RefBook.Docstring.Detect
import RefBook.Extract.Declaration
import RefBook.Proofs.Docstring.Title

/-! # Reading a cleaned documentation text

A documentation text is cleaned when it is extracted, and each dialect cleans once more
what it reads. The two agree on a text whose lines keep their places under the first
cleaning: its first visible line is its first line or stands at the margin of the lines
below it, and below a section title on that line there is a visible line in the first
column. Nothing is lost of such a text, whatever dialect it is written in. Where the
items below an opening title are all indented, cleaning pulls them into the column of
the title, and the section is lost. -/

namespace RefBook.Docstring

open Text (lines trimStart clean opening Aligned Flush isBlank expandTabs expandTabsFrom
  dropEndWhile)

namespace Google

/-- A text that opens with a title keeps its lines, if one below the title stands in the
first column. -/
theorem lines_dedent_of_title {t g : List Char} {below : List (List Char)}
    (h : (lines t).dropWhile isBlank = g :: below) (ht : (openingTitle? t).isSome = true)
    (hf : Flush (below.map (expandTabs 8))) :
    lines (dedent t) =
      expandTabs 8 (trimStart g) :: dropEndWhile isBlank (below.map (expandTabs 8)) := by
  have hg := Text.visible_of_dropWhile h
  have hstart : lines ('\n' :: trimStart t) = [] :: trimStart g :: below := by
    have hnl : ∀ l ∈ trimStart g :: below, '\n' ∉ l := by
      have hmem : ∀ l ∈ g :: below, '\n' ∉ l := fun l hl =>
        Text.newline_not_mem_of_mem_lines ((List.dropWhile_suffix isBlank).subset (h ▸ hl))
      rw [List.forall_mem_cons] at hmem ⊢
      exact ⟨fun hm => hmem.1 ((List.dropWhile_suffix Text.isSpace).subset hm), hmem.2⟩
    rw [Text.lines_newline_cons, Text.trimStart_eq_unlines h hg,
      Text.lines_unlines (List.cons_ne_nil _ _) hnl]
  -- the title starts in the first column, so the margin of the whole is that of the rest
  obtain ⟨c, rest, hhead, hc⟩ := (Text.trimStart_cases g).resolve_left fun hnil => by
    rw [(Text.isBlank_iff g).mpr hnil] at hg
    cases hg
  have htitle : expandTabs 8 (trimStart g) = c :: expandTabsFrom 8 1 rest := by
    rw [hhead]
    exact Text.expandTabsFrom_of_head hc 8 0 rest
  have ho : opening ('\n' :: trimStart t) =
      expandTabs 8 (trimStart g) :: below.map (expandTabs 8) := by
    rw [Text.opening_eq_map, hstart, List.dropWhile_cons, if_pos Text.isBlank_nil,
      List.dropWhile_cons, if_neg, List.map_cons]
    rw [Text.isBlank_trimStart, hg]
    decide
  have ha : Aligned ('\n' :: trimStart t) := by
    unfold Aligned
    rw [ho]
    refine .inr ?_
    rw [htitle, Text.indent?_of_head hc]
    exact hf.eq_none_or
  rw [dedent_of_openingTitle? ht, Text.lines_clean ho ha, Text.unindented_of_flush hf, htitle,
    Text.trimStart_of_head hc]

end Google

/-- Whether the lines of a text keep their places under cleaning, below a title on its
first visible line too. -/
structure Settled (t : List Char) : Prop where
  aligned : Aligned t
  titled : (Google.openingTitle? t).isSome = true → Flush (opening t).tail

instance (t : List Char) : Decidable (Settled t) :=
  decidable_of_iff (Aligned t ∧ ((Google.openingTitle? t).isSome = true → Flush (opening t).tail))
    ⟨fun h => ⟨h.1, h.2⟩, fun h => ⟨h.1, h.2⟩⟩

theorem dropWhile_lines_clean {t g : List Char} {below : List (List Char)}
    (ho : opening t = g :: below) (ha : Aligned t) :
    (lines (clean t)).dropWhile isBlank =
      trimStart g :: dropEndWhile isBlank (Text.unindented below) := by
  have hv := (Text.tidy_of_opening ho).visible
  rw [Text.lines_clean ho ha, List.dropWhile_cons, if_neg (by rw [hv]; decide)]

/-- Cleaning keeps the title on the first visible line. -/
theorem openingTitle?_clean {t : List Char} (h : Aligned t) :
    Google.openingTitle? (clean t) = Google.openingTitle? t := by
  cases hraw : (lines t).dropWhile isBlank with
  | nil =>
    have ho : opening t = [] := by rw [Text.opening_eq_map, hraw, List.map_nil]
    rw [clean, Text.cleanLines_of_opening_nil ho, Google.openingTitle?_of_blank hraw]
    rfl
  | cons g below =>
    have ho : opening t = expandTabs 8 g :: below.map (expandTabs 8) := by
      rw [Text.opening_eq_map, hraw, List.map_cons]
    obtain ⟨column, hcolumn⟩ := Text.trimStart_expandTabsFrom 8 0 g
    rw [Google.openingTitle?_eq (dropWhile_lines_clean ho h), Google.openingTitle?_eq hraw,
      Text.trimStart_trimStart, expandTabs, hcolumn, Google.section?_expandTabsFrom]

theorem group_dedent_clean {t : List Char} (h : Settled t) :
    Text.groupUnder Google.section? (lines (Google.dedent (clean t))) =
      Text.groupUnder Google.section? (lines (Google.dedent t)) := by
  have htitle := openingTitle?_clean h.aligned
  cases hs : Google.openingTitle? t with
  | none =>
    rw [Google.dedent_of_untitled hs, Google.dedent_of_untitled (htitle.trans hs),
      Text.clean_clean h.aligned]
  | some s =>
    obtain ⟨g, below, hraw⟩ : ∃ g below, (lines t).dropWhile isBlank = g :: below := by
      refine List.exists_cons_of_ne_nil fun hnil => ?_
      rw [Google.openingTitle?_of_blank hnil] at hs
      cases hs
    have ho : opening t = expandTabs 8 g :: below.map (expandTabs 8) := by
      rw [Text.opening_eq_map, hraw, List.map_cons]
    have hf : Flush (below.map (expandTabs 8)) := by
      have htail := h.titled (by rw [hs]; rfl)
      rwa [ho] at htail
    have htidy := Text.tidy_of_opening ho
    have hclean := dropWhile_lines_clean ho h.aligned
    rw [Text.unindented_of_flush hf] at htidy hclean
    have htabs := htidy.map_expandTabs
    -- the two title lines may end in different blanks, but they open the same section
    have hfirst : Google.section? (expandTabs 8 (trimStart g)) = some s := by
      rw [expandTabs, Google.section?_expandTabsFrom, ← Google.openingTitle?_eq hraw, hs]
    have hfirst' : Google.section? (expandTabs 8 (trimStart (trimStart (expandTabs 8 g)))) =
        some s := by
      rw [expandTabs, Google.section?_expandTabsFrom, ← Google.openingTitle?_eq hclean, htitle, hs]
    rw [Google.lines_dedent_of_title hraw (by rw [hs]; rfl) hf,
      Google.lines_dedent_of_title hclean (by rw [htitle, hs]; rfl) (htabs.symm ▸ htidy.flush),
      htabs, htidy.ends, Text.groupUnder, Text.groupUnder, hfirst, hfirst']

theorem parseAs_clean {t : List Char} (h : Settled t) (style : Style) :
    parseAs style (clean t) = parseAs style t := by
  have hc := Text.clean_clean h.aligned
  cases style with
  | rest => rw [parseAs, parseAs, Rest.parse, Rest.parse, hc]
  | google => rw [parseAs, parseAs, Google.parse, Google.parse, group_dedent_clean h]
  | numpy => rw [parseAs, parseAs, Numpy.parse, Numpy.parse, hc]
  | epydoc => rw [parseAs, parseAs, Epydoc.parse, Epydoc.parse, hc]

theorem parse_clean {t : List Char} (h : Settled t) : parse (clean t) = parse t := by
  unfold parse
  rw [Text.clean_clean h.aligned]
  simp only [parseAs_clean h]

/-- **Extraction keeps what a settled documentation text says**: read from the text that
is extracted, it has the summary, the description and the entries, of the same kinds and
in the same order, that it has when it is read as it was written. -/
theorem extracted_docs_read_as_written (d : List Char) (span : Source.Span)
    (body : List Source.Stmt) (h : Settled d) :
    (Extract.docstring? (.expr (.constant span (.str d)) :: body)).map
      (fun docs => parse docs.toList) = some (parse d) := by
  rw [Extract.docstring?, Option.map_some, String.toList_ofList, parse_clean h]

/-- Two sections and nothing before them, the second title in the first column. -/
def openingSections : List Char :=
  "\nArgs:\t\n    x (int): The x.\n\n    key: The key.\nReturns:\n    The y.\n  ".toList

theorem openingSections_read_as_written :
    Settled openingSections ∧ (parse openingSections).entries.length = 3 ∧
      (Extract.docstring? [.expr (.constant ⟨0, 62⟩ (.str openingSections))]).map
        (fun docs => parse docs.toList) = some (parse openingSections) := by
  have hs : Settled openingSections := by decide
  exact ⟨hs, by decide, extracted_docs_read_as_written openingSections ⟨0, 62⟩ [] hs⟩

/-- A section that opens the text, with all its items indented. -/
def indentedSection : List Char := "Args:\n    x: The x.".toList

/-- Extraction loses the entries of a section that opens the text: it pulls the items into
the column of their title. -/
theorem indentedSection_lost :
    ¬ ∀ (d : List Char) (span : Source.Span) (body : List Source.Stmt),
      (Extract.docstring? (.expr (.constant span (.str d)) :: body)).map
        (fun docs => (parse docs.toList).entries) = some (parse d).entries := by
  intro h
  have hlost : (parse (clean indentedSection)).entries = [] := by decide
  have hread : (parse indentedSection).entries.length = 1 := by decide
  have heq := h indentedSection ⟨0, 24⟩ []
  rw [Extract.docstring?, Option.map_some, String.toList_ofList, hlost] at heq
  rw [← Option.some.inj heq] at hread
  cases hread

end RefBook.Docstring
