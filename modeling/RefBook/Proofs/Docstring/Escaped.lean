import RefBook.Proofs.Docstring.Printed

/-! # Records with doubled backslashes

A text is read with its backslashes doubled. Names and the marks of the dialects have no
backslashes, so the doubled print of a record is the print of the record whose pieces are
doubled. -/

namespace RefBook.Docstring

open Signature (doubleBackslashes)
open Text (unlines)

theorem doubleBackslashes_append (a b : List Char) :
    doubleBackslashes (a ++ b) = doubleBackslashes a ++ doubleBackslashes b :=
  List.flatMap_append

theorem doubleBackslashes_cons {c : Char} (h : c ≠ '\\') (t : List Char) :
    doubleBackslashes (c :: t) = c :: doubleBackslashes t := by
  rw [doubleBackslashes, List.flatMap_cons, if_neg h]
  rfl

theorem doubleBackslashes_eq_self {t : List Char} (h : '\\' ∉ t) : doubleBackslashes t = t := by
  induction t with
  | nil => rfl
  | cons c t ih =>
    rw [List.mem_cons, not_or] at h
    rw [doubleBackslashes_cons (Ne.symm h.1), ih h.2]

theorem mem_doubleBackslashes {c : Char} {t : List Char} :
    c ∈ doubleBackslashes t ↔ c ∈ t := by
  rw [doubleBackslashes, List.mem_flatMap]
  constructor
  · rintro ⟨a, ha, hc⟩
    split at hc
    · rename_i hslash
      have hca : c = a := by simpa [hslash] using hc
      exact hca ▸ ha
    · exact List.mem_singleton.mp hc ▸ ha
  · intro hc
    refine ⟨c, hc, ?_⟩
    split
    · rename_i hslash
      simp [hslash]
    · exact List.mem_singleton_self c

theorem doubleBackslashes_unlines (ls : List (List Char)) :
    doubleBackslashes (unlines ls) = unlines (ls.map doubleBackslashes) := by
  induction ls with
  | nil => rfl
  | cons l ls ih =>
    cases ls with
    | nil => rfl
    | cons l' ls =>
      rw [Text.unlines_cons_cons, doubleBackslashes_append, doubleBackslashes_cons (by decide), ih]
      exact (Text.unlines_cons_cons _ _ _).symm

def Phrase.escaped (p : Phrase) : Phrase where
  text := doubleBackslashes p.text
  initial := by
    obtain ⟨c, t, ht⟩ := List.exists_cons_of_ne_nil p.startsWord.ne_nil
    have h := p.initial
    rw [ht, List.head?_cons, Option.any_some] at h
    have hc : c ≠ '\\' := by
      rintro rfl
      exact absurd h (by decide)
    rw [ht, doubleBackslashes_cons hc]
    exact h
  noNewline := fun h => p.noNewline (mem_doubleBackslashes.mp h)
  noTab := fun h => p.noTab (mem_doubleBackslashes.mp h)

theorem Identifier.doubleBackslashes_text (i : Identifier) : doubleBackslashes i.text = i.text :=
  doubleBackslashes_eq_self (i.not_mem (by decide))

namespace Record

def Param.escaped (p : Param) : Param := ⟨p.name, p.type.map Phrase.escaped, p.description.escaped⟩

def Raised.escaped (x : Raised) : Raised := ⟨x.type, x.description.escaped⟩

def escaped (r : Record) : Record where
  summary := r.summary.escaped
  body := r.body.map Phrase.escaped
  params := r.params.map Param.escaped
  returns := r.returns.map Phrase.escaped
  raises := r.raises.map Raised.escaped
  distinct := by
    rw [List.map_map]
    exact r.distinct
  free := by
    rw [List.forall_mem_map]
    exact r.free

variable {r : Record}

theorem doubleBackslashes_indented (l : List Char) :
    doubleBackslashes (indented l) = indented (doubleBackslashes l) := by
  rw [indented, doubleBackslashes_append, doubleBackslashes_eq_self (by decide), indented]

theorem Param.doubleBackslashes_item (p : Param) : doubleBackslashes p.item = p.escaped.item := by
  have hlabel : doubleBackslashes p.label = p.escaped.label := by
    rw [label, doubleBackslashes_append, p.name.doubleBackslashes_text, label, escaped]
    cases p.type with
    | none => rfl
    | some t =>
      rw [Option.elim_some, doubleBackslashes_append, doubleBackslashes_append]
      rfl
  rw [item, doubleBackslashes_append, doubleBackslashes_append, hlabel]
  rfl

theorem Param.doubleBackslashes_key (p : Param) : doubleBackslashes p.key = p.escaped.key := by
  rw [key, doubleBackslashes_append, p.name.doubleBackslashes_text, key, escaped]
  cases p.type with
  | none => rfl
  | some t =>
    rw [Option.elim_some, doubleBackslashes_append]
    rfl

theorem Raised.doubleBackslashes_item (x : Raised) : doubleBackslashes x.item = x.escaped.item := by
  rw [item, doubleBackslashes_append, doubleBackslashes_append, x.type.doubleBackslashes_text]
  rfl

namespace Markup

variable {m : Markup}

theorem doubleBackslashes_field (hm : m.marker ≠ '\\') {head : List Char} (hh : '\\' ∉ head)
    (t : Phrase) : doubleBackslashes (m.field head t.text) = m.field head t.escaped.text := by
  have hfront : '\\' ∉ m.marker :: head := by
    rw [List.mem_cons, not_or]
    exact ⟨Ne.symm hm, hh⟩
  rw [field, doubleBackslashes_append, doubleBackslashes_eq_self hfront]
  rfl

/-- The words of the fields have no backslashes. -/
structure Plain (m : Markup) : Prop where
  marker : m.marker ≠ '\\'
  result : '\\' ∉ m.result.toList
  raised : '\\' ∉ m.raised.toList

theorem map_fields (hm : m.Plain) (r : Record) :
    (m.fields r).map doubleBackslashes = m.fields r.escaped := by
  have hhead : ∀ {word : List Char}, '\\' ∉ word →
      ∀ i : Identifier, '\\' ∉ word ++ ' ' :: i.text := by
    intro word hword i
    have hname : '\\' ∉ i.text := i.not_mem (by decide)
    simp [hword, hname]
  have hparam : ∀ p : Param, (m.paramFields p).map doubleBackslashes = m.paramFields p.escaped := by
    intro p
    rw [paramFields, List.map_cons,
      doubleBackslashes_field hm.marker (hhead (by decide) p.name) p.description, paramFields,
      Param.escaped]
    cases p.type with
    | none => rfl
    | some t =>
      exact congrArg (_ :: [·])
        (doubleBackslashes_field hm.marker (hhead (by decide) p.name) t)
  rw [fields, List.map_append, List.map_append, List.map_flatMap, List.map_map, List.map_map,
    fields, escaped]
  congr 1
  · congr 1
    · rw [List.flatMap_map]
      exact List.flatMap_congr fun p _ => hparam p
    · cases r.returns with
      | none => rfl
      | some t => exact congrArg ([·]) (doubleBackslashes_field hm.marker hm.result t)
  · rw [List.map_map]
    exact List.map_congr_left fun x _ =>
      doubleBackslashes_field hm.marker (hhead hm.raised x.type) x.description

theorem plain_rest : Markup.rest.Plain := ⟨by decide, by decide, by decide⟩

theorem plain_epydoc : Markup.epydoc.Plain := ⟨by decide, by decide, by decide⟩

end Markup

theorem map_sections_escaped (r : Record) (style : Style) :
    (r.sections style).map (fun s => (s.1, s.2.map doubleBackslashes)) =
      r.escaped.sections style := by
  cases style with
  | rest => simp only [sections, List.map_cons, List.map_nil, Markup.map_fields Markup.plain_rest]
  | epydoc =>
    simp only [sections, List.map_cons, List.map_nil, Markup.map_fields Markup.plain_epydoc]
  | google =>
    cases hr : r.returns with
    | none => simp [sections, escaped, hr, doubleBackslashes_indented,
        Param.doubleBackslashes_item, Raised.doubleBackslashes_item]
    | some t => simp [sections, escaped, hr, doubleBackslashes_indented,
        Param.doubleBackslashes_item, Raised.doubleBackslashes_item, Phrase.escaped]
  | numpy =>
    cases hr : r.returns with
    | none => simp [sections, escaped, hr, doubleBackslashes_indented, List.map_flatMap,
        List.flatMap_map, Param.doubleBackslashes_key, Param.escaped, Raised.escaped,
        Phrase.escaped, Identifier.doubleBackslashes_text]
    | some t => simp [sections, escaped, hr, doubleBackslashes_indented, List.map_flatMap,
        List.flatMap_map, Param.doubleBackslashes_key, Param.escaped, Raised.escaped,
        Phrase.escaped, Identifier.doubleBackslashes_text]

theorem map_heading (style : Style) : ∀ title ∈ titles style,
    (heading style title).map doubleBackslashes = heading style title := by
  cases style with
  | rest | google | numpy | epydoc => decide

theorem map_lines (r : Record) (style : Style) :
    (r.lines style).map doubleBackslashes = r.escaped.lines style := by
  have hlead : r.lead.map doubleBackslashes = r.escaped.lead := by
    rw [lead, lead, List.map_cons, escaped]
    cases r.body with
    | none => rfl
    | some b => rfl
  have hparagraphs : (r.paragraphs style).map (List.map doubleBackslashes) =
      r.escaped.paragraphs style := by
    rw [paragraphs, paragraphs, ← map_sections_escaped, List.map_map, List.filter_map, List.map_map]
    have hfilter : ((r.sections style).filter fun s => !s.2.isEmpty) =
        (r.sections style).filter ((fun s : String × List (List Char) => !s.2.isEmpty) ∘
          fun s => (s.1, s.2.map doubleBackslashes)) :=
      List.filter_congr fun s _ => by simp
    rw [← hfilter]
    refine List.map_congr_left fun s hs => ?_
    have htitle : s.1 ∈ titles style := by
      rw [← map_sections r style]
      exact List.mem_map_of_mem (List.mem_of_mem_filter hs)
    simp only [Function.comp_apply, List.map_append, map_heading style s.1 htitle]
  rw [lines, List.map_append, hlead, List.map_flatMap, lines, ← hparagraphs, List.flatMap_map]
  rfl

theorem doubleBackslashes_print (r : Record) (style : Style) :
    doubleBackslashes (r.print style) = r.escaped.print style := by
  rw [print, doubleBackslashes_unlines, map_lines, print]

end Record

end RefBook.Docstring
