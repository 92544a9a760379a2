import RefBook.Proofs.Docstring.Detection
import RefBook.Proofs.Docstring.Printed

/-! # Readings of a record

A docstring reads a record if it has the summary, the description, the parameters, the
result and the exceptions of the record, whatever dialect it comes from and whatever else
it notes about its entries. The signature depends on these only. -/

namespace RefBook.Docstring

open Text (isBlank unlines)

namespace Record

theorem nonEmpty?_of_startsWord {t : List Char} (h : StartsWord t) :
    nonEmpty? t = some (String.ofList t) := by
  obtain ⟨c, t', rfl, -⟩ := h.exists_cons
  rfl

/-- A description in front of a docstring: what its summary and its body say. -/
structure Describes (r : Record) (d : Docstring) : Prop where
  summary : d.summary = some (String.ofList r.summary.text)
  body : d.body = r.body.map (String.ofList ·.text)

theorem trimmed?_of_isBlank {t : List Char} (h : isBlank t = true) : trimmed? t = none := by
  rw [trimmed?, Text.trim, (Text.isBlank_iff t).mp h]
  rfl

/-- A first line that starts with a word is the summary, and the rest is the body. -/
theorem ofDescription_append {first : List Char} (hw : StartsWord first) (hnl : '\n' ∉ first)
    (rest : List Char) (es : List Entry) (style : Option Style) :
    (ofDescription (first ++ '\n' :: rest) es style).summary = some (String.ofList first) ∧
      (ofDescription (first ++ '\n' :: rest) es style).body = trimmed? rest := by
  rw [ofDescription, Text.cut?_append hnl]
  exact ⟨nonEmpty?_of_startsWord hw, rfl⟩

/-- Blank lines after a description have no part in it. -/
theorem describes_lead (r : Record) (hbody : ∀ b ∈ r.body, b.Plain)
    {blanks : List (List Char)} (hblanks : ∀ l ∈ blanks, Text.isBlank l = true)
    (es : List Entry) (style : Option Style) :
    r.Describes (ofDescription (unlines (r.lead ++ blanks)) es style) := by
  have hw := r.summary.startsWord
  have hnl := r.summary.noNewline
  cases hb : r.body with
  | none =>
    have hlead : r.lead ++ blanks = r.summary.text :: blanks := by rw [lead, hb]; rfl
    rw [hlead]
    cases blanks with
    | nil =>
      rw [Text.unlines_singleton, ofDescription, Text.cut?_eq_none hnl]
      exact ⟨nonEmpty?_of_startsWord hw, by rw [hb]; rfl⟩
    | cons l ls =>
      rw [Text.unlines_cons_cons]
      obtain ⟨hsummary, hrest⟩ := ofDescription_append hw hnl (unlines (l :: ls)) es style
      rw [trimmed?_of_isBlank (Text.isBlank_unlines hblanks)] at hrest
      exact ⟨hsummary, by rw [hrest, hb]; rfl⟩
  | some b =>
    have hlead : r.lead ++ blanks = r.summary.text :: [] :: b.text :: blanks := by
      rw [lead, hb]; rfl
    have htail : isBlank (blanks.flatMap ('\n' :: ·)) = true := by
      have hcons : isBlank (unlines ([] :: blanks)) = true :=
        Text.isBlank_unlines (List.forall_mem_cons.mpr ⟨Text.isBlank_nil, hblanks⟩)
      rwa [Text.unlines_cons] at hcons
    have htrim : Text.trim (unlines ([] :: b.text :: blanks)) = b.text := by
      rw [Text.unlines_cons_cons, List.nil_append, Text.unlines_cons]
      exact Text.trim_append_append (a := ['\n']) (by decide) htail b.startsWord.trimStart
        (hbody b hb).trimmed
    rw [hlead, Text.unlines_cons_cons]
    obtain ⟨hsummary, hrest⟩ :=
      ofDescription_append hw hnl (unlines ([] :: b.text :: blanks)) es style
    rw [trimmed?, htrim, nonEmpty?_of_startsWord b.startsWord] at hrest
    exact ⟨hsummary, by rw [hrest, hb]; rfl⟩

theorem trimStart_indented (t : Phrase) : Text.trimStart (Record.indented t.text) = t.text := by
  rw [Record.indented, Text.trimStart_append_of_isBlank (by decide), t.startsWord.trimStart]

/-- Parts that are left out because they are empty add nothing. -/
theorem flatten_map_filter {α β : Type} {l : List α} {p : α → Bool} {f : α → List β}
    (h : ∀ a ∈ l, p a = false → f a = []) : ((l.filter p).map f).flatten = l.flatMap f := by
  induction l with
  | nil => rfl
  | cons a l ih =>
    rw [List.forall_mem_cons] at h
    rw [List.flatMap_cons, ← ih h.2, List.filter_cons]
    cases hp : p a with
    | true => rfl
    | false => rw [h.1 hp, List.nil_append, if_neg (by decide)]

/-- A docstring with the description of a record and entries for its parameters, its
result and its exceptions. -/
structure Reads (r : Record) (d : Docstring) : Prop extends r.Describes d where
  params : d.params.map Signature.paramDoc = r.params.map Param.doc
  returns : d.returns.bind (fun x => x.description <|> x.type) =
    r.returns.map (String.ofList ·.text)
  raises : d.raises.map (fun x => ⟨x.type, x.description⟩) = r.raises.map Raised.doc

/-- The signature of a docstring that reads a record is that of the record. -/
theorem Reads.ofDocstring_eq {r : Record} {d : Docstring} (h : r.Reads d) :
    Signature.ofDocstring d = r.signature := by
  rw [Signature.ofDocstring, signature, h.params, h.returns, h.raises, h.summary, h.body]
  congr 1
  · rw [List.map_map]
    rfl
  · cases r.returns with
    | none => rfl
    | some t => rfl
  · cases r.body with
    | none => rfl
    | some b => rfl

/-- The entries of a reading: parameters, then the result, then exceptions. -/
def entries (params : List Docstring.Param) (result : Option Returns) (raises : List Raises) :
    List Entry :=
  params.map .param ++ result.toList.map .returns ++ raises.map .raises

variable {d : Docstring} {params : List Docstring.Param} {result : Option Returns}
  {raises : List Raises}

theorem params_of_entries (h : d.entries = entries params result raises) : d.params = params := by
  have hp : Entry.param? ∘ Entry.param = some := rfl
  have hr : Entry.param? ∘ Entry.returns = fun _ => none := rfl
  have hx : Entry.param? ∘ Entry.raises = fun _ => none := rfl
  rw [Docstring.params, h, entries, List.filterMap_append, List.filterMap_append,
    List.filterMap_map, List.filterMap_map, List.filterMap_map, hp, hr, hx]
  simp

theorem returns_of_entries (h : d.entries = entries params result raises) :
    d.returns = result := by
  have hp : Entry.returns? ∘ Entry.param = fun _ => none := rfl
  have hr : Entry.returns? ∘ Entry.returns = some := rfl
  have hx : Entry.returns? ∘ Entry.raises = fun _ => none := rfl
  have hnone : ∀ {α : Type} (l : List α), l.findSome? (fun _ => (none : Option Returns)) = none :=
    fun l => List.findSome?_eq_none_iff.mpr fun _ _ => rfl
  rw [Docstring.returns, h, entries, List.findSome?_append, List.findSome?_append,
    List.findSome?_map, List.findSome?_map, List.findSome?_map, hp, hr, hx, hnone, hnone]
  cases result with
  | none => rfl
  | some x => rfl

theorem raises_of_entries (h : d.entries = entries params result raises) :
    d.raises = raises := by
  have hp : Entry.raises? ∘ Entry.param = fun _ => none := rfl
  have hr : Entry.raises? ∘ Entry.returns = fun _ => none := rfl
  have hx : Entry.raises? ∘ Entry.raises = some := rfl
  rw [Docstring.raises, h, entries, List.filterMap_append, List.filterMap_append,
    List.filterMap_map, List.filterMap_map, List.filterMap_map, hp, hr, hx]
  simp

/-- A name does not look like a path, so it is not taken for a type. -/
theorem isPathLike_name (i : Identifier) : Signature.isPathLike (String.ofList i.text) = false := by
  rw [Signature.isPathLike, String.toList_ofList, List.any_eq_false]
  intro c hc
  rw [Bool.or_eq_true, beq_iff_eq, beq_iff_eq]
  rintro (rfl | rfl)
  · exact i.not_mem (by decide) hc
  · exact i.not_mem (by decide) hc

theorem paramDoc_eq {q : Docstring.Param} (p : Param) (hname : q.name = String.ofList p.name.text)
    (htype : q.type = p.type.map (String.ofList ·.text))
    (hdefault : q.default = Rest.trailingDefault? p.description.text)
    (hdescription : q.description = some (String.ofList p.description.text)) :
    Signature.paramDoc q = p.doc := by
  rw [Signature.paramDoc, hname, isPathLike_name, hdefault, hdescription, htype, Param.doc]
  cases p.type with
  | none => rfl
  | some t => rfl

/-- An entry for each parameter, for the result and for each exception make a reading. -/
theorem reads_ofDescription (r : Record) (hbody : ∀ b ∈ r.body, b.Plain)
    {blanks : List (List Char)} (hblanks : ∀ l ∈ blanks, Text.isBlank l = true)
    (style : Option Style)
    {f : Param → Docstring.Param} {g : Phrase → Returns} {k : Raised → Raises}
    (hf : ∀ p ∈ r.params, Signature.paramDoc (f p) = p.doc)
    (hg : ∀ t, ((g t).description <|> (g t).type) = some (String.ofList t.text))
    (hk : ∀ x : Raised, RaisesDoc.mk (k x).type (k x).description = x.doc) :
    r.Reads (ofDescription (unlines (r.lead ++ blanks))
      (entries (r.params.map f) (r.returns.map g) (r.raises.map k)) style) := by
  have hentries := ofDescription_entries (unlines (r.lead ++ blanks))
    (entries (r.params.map f) (r.returns.map g) (r.raises.map k)) style
  exact
    { r.describes_lead hbody hblanks _ style with
      params := by
        rw [params_of_entries hentries, List.map_map]
        exact List.map_congr_left hf
      returns := by
        rw [returns_of_entries hentries]
        cases r.returns with
        | none => rfl
        | some t => exact hg t
      raises := by
        rw [raises_of_entries hentries, List.map_map]
        exact List.map_congr_left fun x _ => hk x }

/-- A record without parameters, result and exceptions. -/
structure Bare (r : Record) : Prop where
  params : r.params = []
  returns : r.returns = none
  raises : r.raises = []

/-- Only such a record is read without entries. -/
theorem Reads.bare {r : Record} (h : r.Reads d) (he : d.entries = []) : r.Bare where
  params := by
    have hp := h.params
    rw [Docstring.params, he] at hp
    exact List.map_eq_nil_iff.mp hp.symm
  returns := by
    have hr := h.returns
    rw [Docstring.returns, he] at hr
    exact Option.map_eq_none_iff.mp hr.symm
  raises := by
    have hx := h.raises
    rw [Docstring.raises, he] at hx
    exact List.map_eq_nil_iff.mp hx.symm

end Record

end RefBook.Docstring
