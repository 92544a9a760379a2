import RefBook.Docstring.Detect
import RefBook.Proofs.Outcome

/-! # The dialect that is found

Detection tries the dialects one after the other and keeps the first of the richest
readings. The underlined section dialect accepts every text, so there always is one, and
the reading that is found names the dialect it comes from. -/

namespace RefBook.Docstring

theorem ofDescription_entries (t : List Char) (es : List Entry) (style : Option Style) :
    (ofDescription t es style).entries = es := by
  unfold ofDescription
  split
  · rfl
  · rfl

theorem ofDescription_style (t : List Char) (es : List Entry) (style : Option Style) :
    (ofDescription t es style).style = style := by
  unfold ofDescription
  split
  · rfl
  · rfl

section ParseAs

variable {t : List Char} {d : Docstring}

theorem parseAs_rest : parseAs .rest t = .ok d ↔ Rest.parse t = .ok d := mapError_eq_ok

theorem parseAs_google : parseAs .google t = .ok d ↔ Google.parse t = .ok d := mapError_eq_ok

/-- The underlined section dialect accepts every text. -/
theorem parseAs_numpy (t : List Char) : parseAs .numpy t = .ok (Numpy.parse t) := rfl

theorem parseAs_epydoc : parseAs .epydoc t = .ok d ↔ Epydoc.parse t = .ok d := mapError_eq_ok

theorem Rest.style_of_parse (h : Rest.parse t = .ok d) : d.style = some .rest := by
  unfold Rest.parse at h
  generalize splitAtMarker ':' (Text.clean t) = split at h
  obtain ⟨fields, -, hd⟩ := bind_eq_ok.mp h
  cases hd
  exact ofDescription_style _ _ _

theorem Google.style_of_parse (h : Google.parse t = .ok d) : d.style = some .google := by
  unfold Google.parse at h
  generalize Text.groupUnder section? (Text.lines (dedent t)) = groups at h
  obtain ⟨entries, -, hd⟩ := bind_eq_ok.mp h
  cases hd
  exact ofDescription_style _ _ _

theorem Numpy.style_parse (t : List Char) : (Numpy.parse t).style = some .numpy :=
  ofDescription_style _ _ _

theorem Epydoc.style_of_parse (h : Epydoc.parse t = .ok d) : d.style = some .epydoc := by
  unfold Epydoc.parse at h
  generalize splitAtMarker '@' (Text.clean t) = split at h
  obtain ⟨tags, -, hd⟩ := bind_eq_ok.mp h
  split at hd
  · cases hd
    exact ofDescription_style _ _ _
  · cases hd

/-- A reading names the dialect it comes from. -/
theorem style_of_parseAs {style : Style} (h : parseAs style t = .ok d) : d.style = some style := by
  cases style with
  | rest => exact Rest.style_of_parse (parseAs_rest.mp h)
  | google => exact Google.style_of_parse (parseAs_google.mp h)
  | numpy =>
    cases h
    exact Numpy.style_parse t
  | epydoc => exact Epydoc.style_of_parse (parseAs_epydoc.mp h)

end ParseAs

/-- Detection prefers a dialect to another one. -/
def Style.Precedes (s s' : Style) : Prop := Style.all.idxOf s < Style.all.idxOf s'

instance (s s' : Style) : Decidable (s.Precedes s') := inferInstanceAs (Decidable (_ < _))

theorem Style.mem_all (s : Style) : s ∈ Style.all := by
  cases s <;> decide

theorem Style.precedes_or_eq_or_precedes (s s' : Style) :
    s.Precedes s' ∨ s = s' ∨ s'.Precedes s := by
  cases s <;> cases s' <;> decide

theorem Style.Precedes.ne {s s' : Style} (h : s.Precedes s') : s ≠ s' := by
  rintro rfl
  exact Nat.lt_irrefl _ h

/-- What precedes a dialect stands before it in the list. -/
theorem Style.Precedes.mem {s s' : Style} {before after : List Style} (h : s.Precedes s')
    (hall : Style.all = before ++ s' :: after) : s ∈ before := by
  by_cases hs : s ∈ before
  · exact hs
  · have hs' : List.idxOf s' (before ++ s' :: after) ≤ before.length := by
      rw [List.idxOf_append]
      split
      · exact List.idxOf_le_length
      · exact Nat.le_of_eq (by rw [List.idxOf_cons_self, Nat.zero_add])
    unfold Style.Precedes at h
    rw [hall, List.idxOf_append, if_neg hs] at h
    omega

/-- The reading found so far, after one more dialect. -/
def tryStyle (t : List Char) (best : Option Docstring) (style : Style) : Option Docstring :=
  match parseAs style t with
  | .ok d => some (richer best d)
  | .error _ => best

/-- The reading that is found, if any dialect accepts the text. -/
def found? (t : List Char) : Option Docstring := Style.all.foldl (tryStyle t) none

theorem parse_of_found? {t : List Char} {d : Docstring} (h : found? t = some d) : parse t = d := by
  show (found? t).getD _ = d
  rw [h]
  rfl

/-- A reading that is richer than those of the dialects before it, and as rich as those of
the dialects after it. -/
structure Leads (t : List Char) (before : List Style) (style : Style) (after : List Style)
    (d : Docstring) : Prop where
  reads : parseAs style t = .ok d
  before : ∀ s ∈ before, ∀ e, parseAs s t = .ok e → e.entries.length < d.entries.length
  after : ∀ s ∈ after, ∀ e, parseAs s t = .ok e → e.entries.length ≤ d.entries.length

section Leads

variable {t : List Char} {before after : List Style} {style s : Style} {d e : Docstring}

/-- A dialect that makes no more of the text is passed over. -/
theorem Leads.keep (h : Leads t before style after d)
    (hs : ∀ e, parseAs s t = .ok e → e.entries.length ≤ d.entries.length) :
    Leads t before style (after ++ [s]) d where
  reads := h.reads
  before := h.before
  after := by
    intro s' hs' e he
    rcases List.mem_append.mp hs' with hs' | hs'
    · exact h.after s' hs' e he
    · cases List.mem_singleton.mp hs'
      exact hs e he

/-- A dialect that makes more of the text than all before it takes the lead. -/
theorem Leads.displace (h : Leads t before style after d) (hs : parseAs s t = .ok e)
    (hlt : d.entries.length < e.entries.length) : Leads t (before ++ style :: after) s [] e where
  reads := hs
  before := by
    intro s' hs' e' he'
    rcases List.mem_append.mp hs' with hs' | hs'
    · exact Nat.lt_trans (h.before s' hs' e' he') hlt
    · rcases List.mem_cons.mp hs' with rfl | hs'
      · cases h.reads.symm.trans he'
        exact hlt
      · exact Nat.lt_of_le_of_lt (h.after s' hs' e' he') hlt
  after := by
    intro s' hs'
    cases hs'

end Leads

/-- What has been found after the dialects in `tried`. -/
inductive Found (t : List Char) (tried : List Style) : Option Docstring → Prop
  /-- All of them refuse the text. -/
  | nothing (h : ∀ s ∈ tried, ∀ d, parseAs s t ≠ .ok d) : Found t tried none
  | reading {before after : List Style} {style : Style} {d : Docstring}
    (hsplit : tried = before ++ style :: after) (h : Leads t before style after d) :
    Found t tried (some d)

/-- A reading that leads still does after a dialect that makes no more of the text. -/
theorem Found.of_keep {t : List Char} {tried before after : List Style} {style s : Style}
    {d : Docstring} (hsplit : tried = before ++ style :: after) (h : Leads t before style after d)
    (hs : ∀ e, parseAs s t = .ok e → e.entries.length ≤ d.entries.length) :
    Found t (tried ++ [s]) (some d) :=
  .reading (by rw [hsplit, List.append_assoc, List.cons_append]) (h.keep hs)

/-- A dialect that refuses the text changes nothing. -/
theorem Found.step_of_error {t : List Char} {tried : List Style} {best : Option Docstring}
    {s : Style} {cause : Problem} (h : Found t tried best) (hs : parseAs s t = .error cause) :
    Found t (tried ++ [s]) best := by
  have hrefuses : ∀ d, parseAs s t ≠ .ok d := by
    intro d hd
    rw [hs] at hd
    cases hd
  cases h with
  | nothing h =>
    refine .nothing fun s' hs' => ?_
    rcases List.mem_append.mp hs' with hs' | hs'
    · exact h s' hs'
    · cases List.mem_singleton.mp hs'
      exact hrefuses
  | reading hsplit h => exact .of_keep hsplit h fun e he => absurd he (hrefuses e)

/-- The reading of a further dialect takes the lead, or what was found is kept. -/
theorem Found.step_of_ok {t : List Char} {tried : List Style} {best : Option Docstring}
    {s : Style} {e : Docstring} (h : Found t tried best) (hs : parseAs s t = .ok e) :
    Found t (tried ++ [s]) (some (richer best e)) := by
  cases h with
  | nothing h =>
    refine .reading rfl ⟨hs, fun s' hs' d hd => absurd hd (h s' hs' d), ?_⟩
    intro s' hs'
    cases hs'
  | @reading before after style d hsplit h =>
    by_cases hlt : d.entries.length < e.entries.length
    · rw [richer, if_pos hlt]
      exact .reading (congrArg (· ++ [s]) hsplit) (h.displace hs hlt)
    · rw [richer, if_neg hlt]
      refine .of_keep hsplit h fun e' he' => ?_
      cases hs.symm.trans he'
      exact Nat.le_of_not_lt hlt

theorem Found.step {t : List Char} {tried : List Style} {best : Option Docstring}
    (h : Found t tried best) (s : Style) : Found t (tried ++ [s]) (tryStyle t best s) := by
  unfold tryStyle
  cases hs : parseAs s t with
  | error cause => exact h.step_of_error hs
  | ok e => exact h.step_of_ok hs

/-- All further dialects, one after the other. -/
theorem Found.run {t : List Char} {tried : List Style} {best : Option Docstring}
    (h : Found t tried best) (styles : List Style) :
    Found t (tried ++ styles) (styles.foldl (tryStyle t) best) := by
  induction styles generalizing tried best with
  | nil => rwa [List.append_nil]
  | cons s styles ih =>
    rw [List.append_cons, List.foldl_cons]
    exact ih (h.step s)

theorem found_found? (t : List Char) : Found t Style.all (found? t) :=
  Found.run (.nothing fun _ hs => absurd hs List.not_mem_nil) Style.all

/-- The reading of a dialect that has the most entries, and more than the readings of the
dialects that detection prefers. -/
structure Richest (t : List Char) (style : Style) (d : Docstring) : Prop where
  reads : parseAs style t = .ok d
  most : ∀ s e, parseAs s t = .ok e → e.entries.length ≤ d.entries.length
  first : ∀ s e, s.Precedes style → parseAs s t = .ok e → e.entries.length < d.entries.length

theorem Leads.richest {t : List Char} {before after : List Style} {style : Style} {d : Docstring}
    (h : Leads t before style after d) (hall : Style.all = before ++ style :: after) :
    Richest t style d where
  reads := h.reads
  most := by
    intro s e he
    have hs := s.mem_all
    rw [hall, List.mem_append, List.mem_cons] at hs
    rcases hs with hs | rfl | hs
    · exact Nat.le_of_lt (h.before s hs e he)
    · cases h.reads.symm.trans he
      exact Nat.le_refl _
    · exact h.after s hs e he
  first := fun s e hs he => h.before s (hs.mem hall) e he

/-- Of two dialects that both have the first of the richest readings, none precedes the
other, so there is one such reading only. -/
theorem Richest.unique {t : List Char} {style style' : Style} {d d' : Docstring}
    (h : Richest t style d) (h' : Richest t style' d') : d = d' := by
  rcases style.precedes_or_eq_or_precedes style' with hlt | rfl | hlt
  · have hless := h'.first style d hlt h.reads
    have hmost := h.most style' d' h'.reads
    omega
  · exact Except.ok.inj (h.reads.symm.trans h'.reads)
  · have hless := h.first style' d' hlt h'.reads
    have hmost := h'.most style d h.reads
    omega

/-- Some dialect has the first of the richest readings, and that one is found. -/
theorem exists_richest (t : List Char) : ∃ style d, found? t = some d ∧ Richest t style d := by
  have h := found_found? t
  generalize found? t = best at h
  cases h with
  | nothing h => exact absurd (parseAs_numpy t) (h .numpy (Style.mem_all _) _)
  | @reading before after style d hsplit h => exact ⟨style, d, rfl, h.richest hsplit⟩

theorem Richest.parse_eq {t : List Char} {style : Style} {d : Docstring} (h : Richest t style d) :
    parse t = d := by
  obtain ⟨style', d', hfound, h'⟩ := exists_richest t
  rw [parse_of_found? hfound, h.unique h']

/-- A dialect that accepts a text and finds no entries in it. -/
def Blind (t : List Char) (style : Style) : Prop :=
  ∃ d, parseAs style t = .ok d ∧ d.entries = []

theorem Blind.length_eq {t : List Char} {style : Style} {d : Docstring} (h : Blind t style)
    (hd : parseAs style t = .ok d) : d.entries.length = 0 := by
  obtain ⟨e, he, hempty⟩ := h
  cases he.symm.trans hd
  rw [hempty, List.length_nil]

/-- A reading with entries is found if no other dialect has entries for the text. -/
theorem parse_eq_of_blind {style : Style} {t : List Char} {d : Docstring}
    (hown : parseAs style t = .ok d) (hothers : ∀ s, s ≠ style → Blind t s)
    (hd : d.entries ≠ []) : parse t = d := by
  have h : Richest t style d := by
    refine ⟨hown, fun s e he => ?_, fun s e hs he => ?_⟩
    · by_cases hs : s = style
      · subst hs
        cases hown.symm.trans he
        exact Nat.le_refl _
      · rw [(hothers s hs).length_eq he]
        exact Nat.zero_le _
    · rw [(hothers s hs.ne).length_eq he]
      exact List.length_pos_iff.mpr hd
  exact h.parse_eq

/-- Without entries in any dialect, the reading of the first one is found. -/
theorem parse_eq_of_all_blind {t : List Char} {d : Docstring} (hrest : parseAs .rest t = .ok d)
    (hothers : ∀ s, Blind t s) : parse t = d := by
  have h : Richest t .rest d := by
    refine ⟨hrest, fun s e he => ?_, fun s e hs _ => ?_⟩
    · rw [(hothers s).length_eq he]
      exact Nat.zero_le _
    · exact absurd hs (by cases s <;> decide)
  exact h.parse_eq

/-- **Detection finds the first of the richest readings**, for every text. Some dialect
gives the docstring that is found, which names it; no dialect that accepts the text has
more entries, and those that detection prefers to it have fewer. The underlined section
dialect accepts the text, so the search never comes to nothing. -/
theorem parse_first_of_richest (t : List Char) :
    ∃ style, (parse t).style = some style ∧ parseAs style t = .ok (parse t) ∧
      (∀ s d, parseAs s t = .ok d → d.entries.length ≤ (parse t).entries.length) ∧
      (∀ s d, s.Precedes style → parseAs s t = .ok d →
        d.entries.length < (parse t).entries.length) ∧
      (∃ d, parseAs .numpy t = .ok d) ∧ found? t = some (parse t) := by
  obtain ⟨style, d, hfound, h⟩ := exists_richest t
  rw [parse_of_found? hfound]
  exact ⟨style, style_of_parseAs h.reads, h.reads, h.most, h.first, ⟨_, parseAs_numpy t⟩, hfound⟩

/-- Two entries in the second dialect against one in the first. -/
example : (parse ":param x: X.\n\nArgs:\n    y: Y.\n    z: Z.".toList).style = some .google := by
  decide +kernel

end RefBook.Docstring
