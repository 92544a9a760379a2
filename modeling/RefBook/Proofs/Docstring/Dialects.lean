import RefBook.Proofs.Docstring.Escaped
import RefBook.Proofs.Docstring.Tags
import RefBook.Proofs.Docstring.Underlined

/-! # One signature in every dialect

What marks an entry in one dialect does not stand in the lines that another one prints, so
a dialect finds entries in its own print of a neutral record only. Whatever dialect a
record was printed in, that dialect is found, and the signature is that of the record. -/

namespace RefBook.Docstring

open Text (isSpace unlines)

namespace Record

variable {r : Record}

/-- How the lines of sections start. -/
inductive Start : Style → List Char → Prop
  | rest {l : List Char} (h : l.head? = some ':') : Start .rest l
  | epydoc {l : List Char} (h : l.head? = some '@') : Start .epydoc l
  | word {style : Style} {l : List Char} (h : StartsWord l) : Start style l
  | margin {style : Style} {l : List Char} (h : StartsWord l) : Start style (indented l)

theorem Line.start {style : Style} {l : List Char} (h : r.Line style l) : Start style l := by
  cases h with
  | field h => exact .rest (Markup.rest.head?_of_mem_fields l h)
  | item => exact .margin (Param.startsWord_item _)
  | result => exact .margin (Phrase.startsWord _)
  | raisedItem => exact .margin (Raised.startsWord_item _)
  | key => exact .word (Param.startsWord_key _)
  | description => exact .margin (Phrase.startsWord _)
  | resultKey => exact .word (Phrase.startsWord _)
  | raisedKey => exact .word (Identifier.startsWord _)
  | raisedDescription => exact .margin (Phrase.startsWord _)
  | tag h => exact .epydoc (Markup.epydoc.head?_of_mem_fields l h)

theorem isMarked_eq_false {m : Char} {l : List Char} (h : l.head? ≠ some m) :
    isMarked m l = false :=
  beq_eq_false_iff_ne.mpr h

theorem isMarked_indented {m : Char} (hm : m ≠ ' ') (l : List Char) :
    isMarked m (indented l) = false :=
  isMarked_eq_false fun h => hm (Option.some.inj h).symm

/-- Only the fields of the field list dialect start with a colon. -/
theorem no_colon_at_start {style : Style} (hs : style ≠ .rest) :
    ∀ l ∈ r.lines style, isMarked ':' l = false := by
  refine forall_lines rfl (unmarked_lead (by decide)) ?_ fun l hl => ?_
  · cases style with
    | rest | google | numpy | epydoc => decide
  · cases hl.start with
    | rest h => exact absurd rfl hs
    | epydoc h => exact isMarked_eq_false (by rw [h]; decide)
    | word h => exact h.isMarked (by decide)
    | margin h => exact isMarked_indented (by decide) _

/-- Only the fields of the tag dialect start with its marker. -/
theorem no_tag_at_start {style : Style} (hs : style ≠ .epydoc) :
    ∀ l ∈ r.lines style, isMarked '@' l = false := by
  refine forall_lines rfl (unmarked_lead (by decide)) ?_ fun l hl => ?_
  · cases style with
    | rest | google | numpy | epydoc => decide
  · cases hl.start with
    | rest h => exact isMarked_eq_false (by rw [h]; decide)
    | epydoc h => exact absurd rfl hs
    | word h => exact h.isMarked (by decide)
    | margin h => exact isMarked_indented (by decide) _

theorem bodyLine_of_head {c : Char} {l : List Char} (hnl : '\n' ∉ l) (h : l.head? = some c)
    (hc : isSpace c = false ∧ c ≠ '.' ∧ c ≠ '-') : Numpy.BodyLine l := by
  cases l with
  | nil => cases h
  | cons a l =>
    rw [List.head?_cons, Option.some.injEq] at h
    subst h
    refine ⟨hnl, fun h => hc.2.1 (Option.some.inj h), ?_⟩
    unfold Numpy.Undashed
    rw [Text.trimStart_of_head hc.1]
    exact fun h => hc.2.2 (Option.some.inj h)

/-- Only the underlined section dialect prints dashes at the start of a line. -/
theorem bodyLine_of_mem {style : Style} (hs : style ≠ .numpy) :
    ∀ l ∈ r.lines style, Numpy.BodyLine l := by
  refine forall_lines Numpy.bodyLine_nil (Numpy.bodyLine_lead r) ?_ fun l hl => ?_
  · intro title ht l hl
    cases style with
    | rest => cases hl
    | epydoc => cases hl
    | numpy => exact absurd rfl hs
    | google =>
      have hword : ∀ title ∈ titles .google, ∀ l ∈ heading .google title,
          l.head?.any isNamePart = true := by
        decide
      exact Numpy.bodyLine_of_startsWord (hword title ht l hl)
        (printed_of_mem_heading .google title ht l hl).noNewline
  · have hnl := hl.printed.noNewline
    cases hl.start with
    | rest h => exact bodyLine_of_head hnl h (by decide)
    | epydoc h => exact bodyLine_of_head hnl h (by decide)
    | word h => exact Numpy.bodyLine_of_startsWord h hnl
    | margin h =>
      rw [indented, List.mem_append, not_or] at hnl
      exact Numpy.bodyLine_indented h hnl.2

/-- A key line has a blank before the colon, as no title has. -/
theorem Param.section?_key (p : Param) : Google.section? p.key = none := by
  have hcolon : ':' ∉ p.name.text := p.name.not_mem (by decide)
  cases ht : p.type with
  | none =>
    rw [key_of_untyped ht]
    exact Google.section?_of_no_colon hcolon
  | some t =>
    rw [key_of_typed ht]
    exact Google.section?_of_spaced (c := ' ') (by simp [hcolon]) (by simp) (by decide)

/-- Only the titled section dialect prints its titles. -/
theorem untitled_of_mem (h : r.Neutral) {style : Style} (hs : style ≠ .google) :
    ∀ l ∈ r.lines style, Google.section? l = none := by
  refine forall_lines rfl (Google.untitled_lead h) ?_ fun l hl => ?_
  · cases style with
    | google => exact absurd rfl hs
    | rest | numpy | epydoc => decide
  · cases hl with
    | field h =>
      refine Google.section?_of_head ?_
      rw [Markup.rest.head?_of_mem_fields l h]
      decide
    | item | result | raisedItem => exact absurd rfl hs
    | key => exact Param.section?_key _
    | description => exact Google.section?_of_blank_head rfl
    | resultKey ht => exact Google.section?_of_no_colon (h.returns _ ht).noColon
    | raisedKey => exact Google.section?_of_no_colon (Identifier.not_mem _ (by decide))
    | raisedDescription => exact Google.section?_of_blank_head rfl
    | tag h =>
      refine Google.section?_of_head ?_
      rw [Markup.epydoc.head?_of_mem_fields l h]
      decide

/-- A dialect finds entries in its own print of a neutral record only. -/
theorem Neutral.blind (h : r.Neutral) {style s : Style} (hs : s ≠ style) :
    Blind (r.print style) s := by
  cases s with
  | rest => exact Rest.blind (no_colon_at_start hs.symm)
  | google => exact Google.blind h.summary (untitled_of_mem h hs.symm)
  | numpy => exact Numpy.blind (bodyLine_of_mem hs.symm)
  | epydoc => exact Epydoc.blind (no_tag_at_start hs.symm)

/-- Its own dialect reads a neutral record. -/
theorem Neutral.exists_reading (h : r.Neutral) (style : Style) :
    ∃ d, parseAs style (r.print style) = .ok d ∧ r.Reads d := by
  cases style with
  | rest =>
    obtain ⟨d, hd, hreads⟩ := Rest.exists_reading h
    exact ⟨d, parseAs_rest.mpr hd, hreads⟩
  | google =>
    obtain ⟨d, hd, hreads⟩ := Google.exists_reading h
    exact ⟨d, parseAs_google.mpr hd, hreads⟩
  | numpy => exact ⟨Numpy.parse (r.print .numpy), rfl, Numpy.reads_print h⟩
  | epydoc =>
    obtain ⟨d, hd, hreads⟩ := Epydoc.exists_reading h
    exact ⟨d, parseAs_epydoc.mpr hd, hreads⟩

/-- A record without parameters, result and exceptions has no sections to print. -/
theorem Bare.print_eq (h : r.Bare) (style : Style) : r.print style = unlines r.lead := by
  have hempty : ∀ s ∈ r.sections style, (!s.2.isEmpty) = false := by
    cases style with
    | rest | google | numpy | epydoc =>
      simp [sections, Markup.fields, h.params, h.returns, h.raises]
  have hparagraphs : r.paragraphs style = [] := by
    rw [paragraphs, List.map_eq_nil_iff, List.filter_eq_nil_iff]
    exact fun s hs => by rw [hempty s hs]; decide
  rw [print, lines, hparagraphs, List.flatMap_nil, List.append_nil]

/-- The reading that is found is one of the record. -/
theorem Neutral.reads_parse (h : r.Neutral) (style : Style) : r.Reads (parse (r.print style)) := by
  obtain ⟨d, hd, hreads⟩ := h.exists_reading style
  by_cases he : d.entries = []
  · -- without entries the first dialect is taken, and its print is the same text
    obtain ⟨d', hd', hreads'⟩ := h.exists_reading .rest
    have hbare := hreads.bare he
    have hprint : r.print .rest = r.print style :=
      (hbare.print_eq .rest).trans (hbare.print_eq style).symm
    rw [hprint] at hd'
    have hblind : ∀ s, Blind (r.print style) s := by
      intro s
      by_cases hs : s = style
      · subst hs
        exact ⟨d, hd, he⟩
      · exact h.blind hs
    rw [parse_eq_of_all_blind hd' hblind]
    exact hreads'
  · rw [parse_eq_of_blind hd (fun s hs => h.blind hs) he]
    exact hreads

/-- A record is read to one signature, its own, in whatever dialect it is printed. -/
theorem read_alike_in_every_dialect (r : Record) (h : r.escaped.Neutral) (style : Style) :
    Signature.parse (String.ofList (r.print style)) = r.escaped.signature := by
  rw [Signature.parse, String.toList_ofList, doubleBackslashes_print]
  exact (h.reads_parse style).ofDocstring_eq

/-- A record with every kind of piece, and with backslashes. -/
def searchRecord : Record where
  summary := { text := "Finds \\d+ in a text.".toList }
  body := some { text := "Looks for decimal digits only.".toList }
  params := [
    ⟨{ text := "text".toList }, some { text := "str".toList }, { text := "What: a text.".toList }⟩,
    ⟨{ text := "start".toList }, none, { text := "Where to start (an index).".toList }⟩]
  returns := some { text := "The position, or -1".toList }
  raises := [⟨{ text := "ValueError".toList }, { text := "If the text has a \\0.".toList }⟩]

theorem searchRecord_read_alike :
    searchRecord.escaped.Neutral ∧ ∀ style,
      Signature.parse (String.ofList (searchRecord.print style)) = searchRecord.escaped.signature :=
  have h : searchRecord.escaped.Neutral := by decide +kernel
  ⟨h, read_alike_in_every_dialect searchRecord h⟩

/-- A record whose parameter has a default value in some of the dialects only. -/
def waitRecord : Record where
  summary := { text := "Waits.".toList }
  body := none
  params := [⟨{ text := "n".toList }, none, { text := "Seconds, defaults to 3.".toList }⟩]
  returns := none
  raises := []

theorem waitRecord_read_differently :
    ¬ ∀ (r : Record) (s s' : Style), Signature.parse (String.ofList (r.print s)) =
      Signature.parse (String.ofList (r.print s')) := by
  intro h
  have hdefault := congrArg (fun s => (s.param? "n").map (·.default)) (h waitRecord .rest .google)
  revert hdefault
  decide +kernel

end Record

end RefBook.Docstring
