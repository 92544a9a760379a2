import RefBook.Proofs.Docstring.Fields
import RefBook.Proofs.Docstring.TagHeads

/-! # Reading tags

A tag is read by the first of several heads that matches anywhere in it, so the text of
one tag could be taken for the head of another. In a neutral record it is not: each tag
is read by the head it was printed with. -/

namespace RefBook.Docstring

open Text (isBlank isSpace unlines)

namespace Epydoc

open Record (Markup)

theorem isNameStart_of_isAlpha {c : Char} (h : c.isAlpha = true) : isNameStart c = true := by
  unfold Char.isAlpha Char.isUpper Char.isLower at h
  simp only [Bool.or_eq_true, Bool.and_eq_true, decide_eq_true_eq, ge_iff_le,
    UInt32.le_iff_toNat_le, Char.reduceVal, UInt32.reduceToNat, Char.toNat_val] at h
  simp only [isNameStart, Bool.and_eq_true, decide_eq_true_eq, Char.le_def,
    UInt32.le_iff_toNat_le, Char.reduceVal, UInt32.reduceToNat, Char.toNat_val]
  omega

theorem isNameChar_of_isNamePart {c : Char} (h : isNamePart c = true) : isNameChar c = true := by
  simp only [isNamePart, Char.isAlphanum, Bool.or_eq_true, beq_iff_eq] at h
  rw [isNameChar, Bool.or_eq_true]
  obtain (h | h) | rfl := h
  · exact .inl (isNameStart_of_isAlpha h)
  · exact .inr h
  · exact .inl (by decide)

theorem isArgument_identifier (i : Identifier) : isArgument i.text = true := by
  have hstart := i.initial
  have hparts := i.parts
  rw [isArgument, Bool.or_eq_true]
  refine .inl ?_
  cases ht : i.text with
  | nil =>
    rw [ht] at hstart
    cases hstart
  | cons c t =>
    rw [ht] at hstart hparts
    rw [List.head?_cons, Option.any_some, Bool.or_eq_true, beq_iff_eq] at hstart
    rw [List.all_cons, Bool.and_eq_true, List.all_eq_true] at hparts
    rw [isName, Bool.and_eq_true, List.all_eq_true]
    refine ⟨?_, fun a ha => isNameChar_of_isNamePart (hparts.2 a ha)⟩
    obtain h | rfl := hstart
    · exact isNameStart_of_isAlpha h
    · decide

def word (i : Identifier) : Word where
  text := i.text
  ne_nil h := by
    have hstart := i.initial
    rw [h] at hstart
    cases hstart
  plain := plain_of_isArgument (isArgument_identifier i)

/-- What a tag of a record is read as. -/
def paramTag (p : Record.Param) : Tag :=
  ⟨.param, "param", [String.ofList p.name.text], p.description.text⟩

def typeTag (i : Identifier) (t : Phrase) : Tag :=
  ⟨.param, "type", [String.ofList i.text], t.text⟩

def resultTag (t : Phrase) : Tag := ⟨.result, "return", [], t.text⟩

def raiseTag (x : Record.Raised) : Tag :=
  ⟨.raise, "", [String.ofList x.type.text], x.description.text⟩

def tagsOf (r : Record) : List Tag :=
  r.params.flatMap (fun p => paramTag p :: p.type.toList.map (typeTag p.name)) ++
    r.returns.toList.map resultTag ++ r.raises.map raiseTag

/-- A tag of a record is read by its head, where its text mentions no other. -/
theorem tag_field {h : Header} (hargs : ∀ w ∈ h.args, isArgument w.text = true)
    (hf : h.family ≠ .note) {t : Phrase} (ht : t.Trimmed)
    (hd : ∀ f ∈ h.family.earlier, ¬ Mentions f t.text) :
    Epydoc.tag (Markup.epydoc.field h.text t.text) =
      .ok ⟨h.family, String.ofList h.key, h.args.map (String.ofList ·.text), t.text⟩ := by
  have hlegible : h.Legible := ⟨hargs, fun hnote => absurd hnote hf⟩
  have hnone : ∀ f ∈ h.family.earlier, ¬ Mentions f (' ' :: t.text) := by
    intro f hearlier
    rw [mentions_cons (by decide)]
    exact hd f hearlier
  have hread := h.tag_eq hlegible (h.clear_of_ne_note hf) hnone
  rw [Header.tag, t.cleanTail_trim ht] at hread
  exact hread

theorem isArgument_word (i : Identifier) : ∀ w ∈ [word i], isArgument w.text = true :=
  List.forall_mem_singleton.mpr (isArgument_identifier i)

theorem text_word (key : String) (i : Identifier) :
    key.toList ++ [word i].flatMap (' ' :: ·.text) = key.toList ++ ' ' :: i.text :=
  congrArg (key.toList ++ ·) (List.append_nil _)

theorem tag_param {key : String} (hkey : key ∈ paramKeys) (i : Identifier) {t : Phrase}
    (h : t.Trimmed) :
    tag (Markup.epydoc.field (key.toList ++ ' ' :: i.text) t.text) =
      .ok ⟨.param, String.ofList key.toList, [String.ofList i.text], t.text⟩ := by
  have hread := tag_field (h := .param key (word i) hkey) (isArgument_word i) (fun h => nomatch h)
    h (List.forall_mem_nil _)
  rwa [Header.text, Header.keyText, Header.args, text_word] at hread

theorem tag_raise (x : Record.Raised) (h : x.description.PlainRaised) :
    tag (Markup.epydoc.field (Markup.epydoc.raised.toList ++ ' ' :: x.type.text)
      x.description.text) = .ok (raiseTag x) := by
  have hnone : ¬ Mentions .param x.description.text :=
    (search?_eq_none_iff (f := .param) (by decide) _).mp h.headless
  have hread := tag_field (h := .raise (some (word x.type))) (isArgument_word x.type)
    (fun h => nomatch h) h.trimmed (List.forall_mem_singleton.mpr hnone)
  rwa [Header.text, Header.keyText, Header.args, Option.toList_some, text_word] at hread

theorem tag_result {t : Phrase} (h : t.PlainResult) :
    tag (Markup.epydoc.field Markup.epydoc.result.toList t.text) = .ok (resultTag t) :=
  tag_field (h := .result "return" (by decide)) (List.forall_mem_nil _) (by decide) h.trimmed
    fun _ _ hm => h.noColon hm.colon_mem

theorem mapM_tag {r : Record} (h : r.Neutral) :
    (Markup.epydoc.fields r).mapM tag = .ok (tagsOf r) := by
  refine mapM_ok_append (mapM_ok_append (mapM_ok_flatMap fun p hp => ?_)
    (mapM_ok_map fun t ht => ?_)) (mapM_ok_map fun x hx => ?_)
  · have hparam : tag (Markup.epydoc.field ("param".toList ++ ' ' :: p.name.text)
        p.description.text) = .ok (paramTag p) :=
      tag_param (by decide) p.name (h.descriptions p hp).trimmed
    have htypes : ∀ t ∈ p.type.toList, tag (Markup.epydoc.field
        ("type".toList ++ ' ' :: p.name.text) t.text) = .ok (typeTag p.name t) := fun t ht =>
      tag_param (by decide) p.name (h.types p hp t (Option.mem_toList.mp ht)).trimmed
    rw [Markup.paramFields, List.mapM_cons, hparam, mapM_ok_map htypes]
    rfl
  · exact tag_result (h.returns t (Option.mem_toList.mp ht))
  · exact tag_raise x (h.raises x hx)

/-- The text given for a name is the one that a tag gives, where there is only one such
tag. -/
theorem textOf?_eq {tags : List Tag} {type : Bool} {name : String} {text : Option (List Char)}
    (h : ∀ t, (∃ g ∈ tags, (g.subject? = some name ∧ g.isType = type) ∧ g.description = t) ↔
      text = some t) : textOf? tags type name = text := by
  cases hf : textOf? tags type name with
  | none =>
    have hnone := List.findSome?_eq_none_iff.mp hf
    cases text with
    | none => rfl
    | some t =>
      obtain ⟨g, hmem, hg, -⟩ := (h t).mpr rfl
      have hsome := hnone g (List.mem_reverse.mpr hmem)
      rw [if_pos hg] at hsome
      cases hsome
  | some t =>
    obtain ⟨g, hmem, hsome⟩ := List.exists_of_findSome?_eq_some hf
    rw [Option.ite_none_right_eq_some, Option.some.injEq] at hsome
    exact ((h t).mp ⟨g, List.mem_reverse.mp hmem, hsome⟩).symm

variable {r : Record}

theorem mem_tagsOf {g : Tag} :
    g ∈ tagsOf r ↔ (∃ p ∈ r.params, g = paramTag p ∨ ∃ t ∈ p.type, g = typeTag p.name t) ∨
      (∃ t ∈ r.returns, g = resultTag t) ∨ ∃ x ∈ r.raises, g = raiseTag x := by
  simp only [tagsOf, List.mem_append, List.mem_flatMap, List.mem_cons, List.mem_map,
    Option.mem_toList, Option.mem_def, or_assoc, eq_comm]

theorem name_ne_return {p : Record.Param} (hp : p ∈ r.params) :
    String.ofList p.name.text ≠ "return" := by
  intro h
  have hfree := r.free p hp
  rw [h] at hfree
  exact hfree (by decide)

theorem eq_of_name_eq {p q : Record.Param} (hp : p ∈ r.params) (hq : q ∈ r.params)
    (h : String.ofList q.name.text = String.ofList p.name.text) : q = p :=
  List.inj_on_of_nodup_map r.distinct hq hp (String.ofList_injective h)

theorem textOf?_type {p : Record.Param} (hp : p ∈ r.params) :
    textOf? (tagsOf r) true (String.ofList p.name.text) = p.type.map (·.text) := by
  refine textOf?_eq fun t => ?_
  constructor
  · rintro ⟨g, hg, ⟨hsubject, htype⟩, rfl⟩
    obtain ⟨q, hq, rfl | ⟨t, ht, rfl⟩⟩ | ⟨t, -, rfl⟩ | ⟨x, -, rfl⟩ := mem_tagsOf.mp hg
    · cases htype
    · rw [← eq_of_name_eq hp hq (Option.some.inj hsubject), Option.mem_def.mp ht]
      rfl
    · exact absurd (Option.some.inj hsubject).symm (name_ne_return hp)
    · cases hsubject
  · intro ht
    obtain ⟨t', ht', rfl⟩ := Option.map_eq_some_iff.mp ht
    exact ⟨typeTag p.name t', mem_tagsOf.mpr (.inl ⟨p, hp, .inr ⟨t', ht', rfl⟩⟩), ⟨rfl, rfl⟩, rfl⟩

theorem textOf?_description {p : Record.Param} (hp : p ∈ r.params) :
    textOf? (tagsOf r) false (String.ofList p.name.text) = some p.description.text := by
  refine textOf?_eq fun t => ?_
  constructor
  · rintro ⟨g, hg, ⟨hsubject, htype⟩, rfl⟩
    obtain ⟨q, hq, rfl | ⟨t, -, rfl⟩⟩ | ⟨t, -, rfl⟩ | ⟨x, -, rfl⟩ := mem_tagsOf.mp hg
    · rw [← eq_of_name_eq hp hq (Option.some.inj hsubject)]
      rfl
    · cases htype
    · exact absurd (Option.some.inj hsubject).symm (name_ne_return hp)
    · cases hsubject
  · intro ht
    exact ⟨paramTag p, mem_tagsOf.mpr (.inl ⟨p, hp, .inl rfl⟩), ⟨rfl, rfl⟩, Option.some.inj ht⟩

theorem textOf?_return (type : Bool) :
    textOf? (tagsOf r) type "return" = if type then none else r.returns.map (·.text) := by
  refine textOf?_eq fun t => ?_
  constructor
  · rintro ⟨g, hg, ⟨hsubject, htype⟩, rfl⟩
    obtain ⟨q, hq, rfl | ⟨t, -, rfl⟩⟩ | ⟨t, ht, rfl⟩ | ⟨x, -, rfl⟩ := mem_tagsOf.mp hg
    · exact absurd (Option.some.inj hsubject) (name_ne_return hq)
    · exact absurd (Option.some.inj hsubject) (name_ne_return hq)
    · rw [← htype, Option.mem_def.mp ht]
      rfl
    · cases hsubject
  · cases type with
    | true => intro h; cases h
    | false =>
      intro ht
      obtain ⟨t', ht', rfl⟩ := Option.map_eq_some_iff.mp ht
      exact ⟨resultTag t', mem_tagsOf.mpr (.inr (.inl ⟨t', ht', rfl⟩)), ⟨rfl, rfl⟩, rfl⟩

theorem isYield_of_mem_results : ∀ g ∈ results (tagsOf r), g.isYield = false := by
  intro g hg
  rw [results, List.mem_filter] at hg
  obtain ⟨q, hq, rfl | ⟨t, -, rfl⟩⟩ | ⟨t, ht, rfl⟩ | ⟨x, -, rfl⟩ := mem_tagsOf.mp hg.1
  · cases hg.2
  · cases hg.2
  · rfl
  · cases hg.2

theorem yielded_tagsOf (r : Record) : yielded (tagsOf r) = false := by
  rw [yielded]
  cases hs : results (tagsOf r) with
  | nil => rfl
  | cons g gs => exact isYield_of_mem_results g (hs ▸ List.mem_cons_self)

def entryOf (p : Record.Param) : Docstring.Param :=
  { args := ["param", String.ofList p.name.text]
    description := some (String.ofList p.description.text)
    name := String.ofList p.name.text
    type := p.type.map (String.ofList ·.text)
    optional := some false
    default := Rest.trailingDefault? p.description.text }

def resultOf (t : Phrase) : Returns :=
  { args := ["return"]
    description := some (String.ofList t.text)
    type := none
    generator := false
    name := none }

def raisesOf (x : Record.Raised) : Raises :=
  { args := ["", String.ofList x.type.text]
    description := some (String.ofList x.description.text)
    type := some (String.ofList x.type.text) }

theorem typeAndOptional_eq {t : Phrase} (h : t.PlainType) :
    typeAndOptional t.text = (t.text, false) := by
  rw [typeAndOptional, if_neg]
  rw [beq_iff_eq]
  intro hlast
  obtain ⟨init, hinit⟩ := List.getLast?_eq_some_iff.mp hlast
  exact h.unmarked "?" (by decide) ⟨init, hinit.symm⟩

theorem paramEntry_eq (h : r.Neutral) {p : Record.Param} (hp : p ∈ r.params) :
    paramEntry (tagsOf r) (paramTag p) (String.ofList p.name.text) = .param (entryOf p) := by
  rw [paramEntry, textOf?_type hp, textOf?_description hp, entryOf]
  cases ht : p.type with
  | none => rfl
  | some t =>
    simp only [Option.map_some, typeAndOptional_eq (h.types p hp t ht)]
    rfl

theorem resultEntry_eq {t : Phrase} (ht : t ∈ r.returns) :
    resultEntry (tagsOf r) (resultTag t) = .returns (resultOf t) := by
  rw [resultEntry, textOf?_return, textOf?_return, yielded_tagsOf, Option.mem_def.mp ht]
  rfl

theorem entriesFrom_param {tags : List Tag} {done : List String} {p : Record.Param}
    (hp : String.ofList p.name.text ∉ done) (rest : List Tag) :
    entriesFrom tags done (paramTag p :: rest) =
      paramEntry tags (paramTag p) (String.ofList p.name.text) ::
        entriesFrom tags (String.ofList p.name.text :: done) rest := by
  rw [entriesFrom]
  exact if_neg hp

/-- The types of a parameter that has its entry add none. -/
theorem entriesFrom_types {tags : List Tag} {done : List String} (i : Identifier)
    (hi : String.ofList i.text ∈ done) (type : Option Phrase) (rest : List Tag) :
    entriesFrom tags done (type.toList.map (typeTag i) ++ rest) = entriesFrom tags done rest := by
  cases type with
  | none => rfl
  | some t =>
    rw [Option.toList_some, List.map_singleton, List.singleton_append, entriesFrom]
    exact if_pos hi

/-- Each parameter has one entry, where its first tag stands. -/
theorem entriesFrom_params {tags : List Tag} {ps : List Record.Param} {done : List String}
    (hnodup : (ps.map (·.name.text)).Nodup)
    (hdone : ∀ p ∈ ps, String.ofList p.name.text ∉ done) (rest : List Tag) :
    entriesFrom tags done
        (ps.flatMap (fun p => paramTag p :: p.type.toList.map (typeTag p.name)) ++ rest) =
      ps.map (fun p => paramEntry tags (paramTag p) (String.ofList p.name.text)) ++
        entriesFrom tags ((ps.map (String.ofList ·.name.text)).reverse ++ done) rest := by
  induction ps generalizing done with
  | nil => rfl
  | cons p ps ih =>
    rw [List.map_cons, List.nodup_cons] at hnodup
    rw [List.forall_mem_cons] at hdone
    have hrest : ∀ q ∈ ps, String.ofList q.name.text ∉ String.ofList p.name.text :: done := by
      intro q hq
      rw [List.mem_cons, not_or]
      refine ⟨fun heq => hnodup.1 ?_, hdone.2 q hq⟩
      rw [← String.ofList_injective heq]
      exact List.mem_map_of_mem hq
    rw [List.flatMap_cons, List.cons_append, List.cons_append, entriesFrom_param hdone.1,
      List.append_assoc, entriesFrom_types p.name List.mem_cons_self, ih hnodup.2 hrest,
      List.map_cons, List.map_cons, List.reverse_cons, List.append_assoc]
    rfl

theorem entriesFrom_raises {tags : List Tag} (xs : List Record.Raised) (done : List String) :
    entriesFrom tags done (xs.map raiseTag) = xs.map fun x => .raises (raisesOf x) := by
  induction xs with
  | nil => rfl
  | cons x xs ih =>
    rw [List.map_cons, entriesFrom, List.map_cons, ← ih]
    rfl

theorem entriesFrom_tagsOf (tags : List Tag) (r : Record) :
    entriesFrom tags [] (tagsOf r) =
      r.params.map (fun p => paramEntry tags (paramTag p) (String.ofList p.name.text)) ++
        r.returns.toList.map (fun t => resultEntry tags (resultTag t)) ++
        r.raises.map fun x => .raises (raisesOf x) := by
  have hreturn : "return" ∉ (r.params.map (String.ofList ·.name.text)).reverse ++ [] := by
    rw [List.append_nil, List.mem_reverse, List.mem_map]
    rintro ⟨p, hp, hname⟩
    exact name_ne_return hp hname
  rw [tagsOf, List.append_assoc, List.append_assoc,
    entriesFrom_params r.distinct fun p _ => List.not_mem_nil]
  congr 1
  cases r.returns with
  | none => exact entriesFrom_raises r.raises _
  | some t =>
    rw [Option.toList_some, List.map_singleton, List.map_singleton, List.singleton_append,
      List.singleton_append, entriesFrom, ← entriesFrom_raises r.raises]
    exact if_neg hreturn

theorem entries_eq (h : r.Neutral) :
    entriesFrom (tagsOf r) [] (tagsOf r) =
      Record.entries (r.params.map entryOf) (r.returns.map resultOf) (r.raises.map raisesOf) := by
  rw [entriesFrom_tagsOf, Record.entries, List.map_map, List.map_map]
  congr 1
  congr 1
  · exact List.map_congr_left fun p hp => paramEntry_eq h hp
  · cases hr : r.returns with
    | none => rfl
    | some t =>
      rw [Option.toList_some, List.map_singleton, resultEntry_eq hr]
      rfl

/-- The tags of a text, if all of them can be read. -/
def readTags (t : List Char) : Except Cause (List Tag) := (chunks '@' t).mapM Epydoc.tag

/-- A text with readable tags is refused only if these disagree on whether the result is
yielded. -/
theorem parse_eq_of_readTags {t : List Char} {tags : List Tag} (h : readTags t = .ok tags) :
    parse t =
      if (results tags).all (·.isYield == yielded tags) then
        .ok (ofDescription (splitAtMarker '@' (Text.clean t)).1 (entriesFrom tags [] tags)
          (some .epydoc))
      else .error (.conflictingResult "return") := by
  rw [readTags, chunks] at h
  rw [parse]
  generalize splitAtMarker '@' (Text.clean t) = split at h ⊢
  obtain ⟨description, rest⟩ := split
  dsimp only at h ⊢
  rw [h]
  rfl

/-- The tag dialect reads a record from its tags. -/
theorem exists_reading (h : r.Neutral) : ∃ d, parse (r.print .epydoc) = .ok d ∧ r.Reads d := by
  obtain ⟨blanks, hblanks, hlead, hchunks⟩ :=
    r.splitAtMarker_print .epydoc .epydoc rfl rfl (by decide)
  have htags := mapM_tag h
  rw [← hchunks, ← r.clean_print .epydoc] at htags
  have hyield : (results (tagsOf r)).all (·.isYield == yielded (tagsOf r)) = true := by
    rw [List.all_eq_true]
    intro g hg
    rw [isYield_of_mem_results g hg, yielded_tagsOf]
    rfl
  have hparse := parse_eq_of_readTags htags
  rw [if_pos hyield] at hparse
  refine ⟨_, hparse, ?_⟩
  rw [r.clean_print, entries_eq h]
  have hdescription : (splitAtMarker '@' (r.print .epydoc)).1 = unlines (r.lead ++ blanks) := hlead
  rw [hdescription]
  refine r.reads_ofDescription h.body hblanks (some .epydoc) ?_ (fun _ => rfl) fun _ => rfl
  exact fun p _ => Record.paramDoc_eq p rfl rfl rfl rfl

/-- Without marked lines the text is all description. -/
theorem blind {style : Style} (h : ∀ l ∈ r.lines style, isMarked '@' l = false) :
    Blind (r.print style) .epydoc := by
  have htags : readTags (r.print style) = .ok [] := by
    rw [readTags, chunks, r.clean_print, r.splitAtMarker_of_unmarked h]
    rfl
  have hparse := parse_eq_of_readTags htags
  exact ⟨_, parseAs_epydoc.mpr hparse, ofDescription_entries _ _ _⟩

end Epydoc

end RefBook.Docstring
