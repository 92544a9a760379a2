import Mathlib.Data.List.Nodup
import RefBook.Proofs.Docstring.Reading
import RefBook.Proofs.Text.Words

/-! # Reading marked fields

The two dialects that mark their fields split a text at the lines that start with the
marker. A printed record has such lines for its fields only, so each field is read back
from a line of its own; and where another dialect printed the record, nothing is marked
and the text is all description. -/

namespace RefBook.Docstring

open Text (isBlank isSpace unlines terminated)

section MapM

variable {ε α β γ : Type} {f : β → Except ε γ}

theorem mapM_ok_map {l : List α} {g : α → β} {k : α → γ} (h : ∀ a ∈ l, f (g a) = .ok (k a)) :
    (l.map g).mapM f = .ok (l.map k) := by
  induction l with
  | nil => rfl
  | cons a l ih =>
    rw [List.forall_mem_cons] at h
    rw [List.map_cons, List.mapM_cons, h.1, ih h.2]
    rfl

theorem mapM_cons_eq_ok {b : β} {l : List β} {k : List γ} :
    (b :: l).mapM f = .ok k ↔ ∃ c k', f b = .ok c ∧ l.mapM f = .ok k' ∧ k = c :: k' := by
  rw [List.mapM_cons]
  simp only [bind_eq_ok, exists_and_left]
  exact exists_congr fun c => and_congr_right fun _ => exists_congr fun k' =>
    and_congr_right fun _ => by simp [pure, Except.pure, eq_comm]

theorem mapM_append_eq_ok {l l' : List β} {k : List γ} :
    (l ++ l').mapM f = .ok k ↔
      ∃ k₁ k₂, l.mapM f = .ok k₁ ∧ l'.mapM f = .ok k₂ ∧ k = k₁ ++ k₂ := by
  rw [List.mapM_append]
  simp only [bind_eq_ok, exists_and_left]
  exact exists_congr fun k₁ => and_congr_right fun _ => exists_congr fun k₂ =>
    and_congr_right fun _ => by simp [pure, Except.pure, eq_comm]

theorem mapM_ok_append {l l' : List β} {k k' : List γ} (h : l.mapM f = .ok k)
    (h' : l'.mapM f = .ok k') : (l ++ l').mapM f = .ok (k ++ k') :=
  mapM_append_eq_ok.mpr ⟨k, k', h, h', rfl⟩

theorem mapM_ok_flatMap {l : List α} {g : α → List β} {k : α → List γ}
    (h : ∀ a ∈ l, (g a).mapM f = .ok (k a)) : (l.flatMap g).mapM f = .ok (l.flatMap k) := by
  induction l with
  | nil => rfl
  | cons a l ih =>
    rw [List.forall_mem_cons] at h
    rw [List.flatMap_cons, List.flatMap_cons]
    exact mapM_ok_append h.1 (ih h.2)

end MapM

theorem findSome?_reverse {α β : Type} (g : α → Option β) (l : List α) :
    l.reverse.findSome? g = (l.filterMap g).getLast? := by
  rw [← List.head?_filterMap, List.filterMap_reverse, List.head?_reverse]

/-! ## Marked lines -/

variable {m : Char}

theorem markerOffsetIn?_eq_none_iff {ls : List (List Char)} :
    markerOffsetIn? m ls = none ↔ ∀ l ∈ ls, isMarked m l = false := by
  induction ls with
  | nil => simp [markerOffsetIn?]
  | cons l ls ih =>
    rw [markerOffsetIn?, List.forall_mem_cons, ← ih]
    cases isMarked m l <;> simp

theorem markerOffsetIn?_append {a fs : List (List Char)} (ha : ∀ l ∈ a, isMarked m l = false)
    {f : List Char} (hf : isMarked m f = true) :
    markerOffsetIn? m (a ++ f :: fs) = some (terminated a).length := by
  induction a with
  | nil =>
    rw [List.nil_append, markerOffsetIn?, hf]
    rfl
  | cons l a ih =>
    rw [List.forall_mem_cons] at ha
    rw [List.cons_append, markerOffsetIn?, ha.1, ih ha.2, Text.terminated_cons,
      List.length_append, List.length_cons]
    simp only [Bool.false_eq_true, if_false, Option.map_some, Option.some.injEq]
    omega

theorem splitAtMarker_of_none {t : List Char} (h : ∀ l ∈ Text.lines t, isMarked m l = false) :
    splitAtMarker m t = (t, []) := by
  rw [splitAtMarker, markerOffset?, markerOffsetIn?_eq_none_iff.mpr h]

/-- A text without marked lines has no fields. -/
theorem splitAtMarker_of_unmarked {ls : List (List Char)} (hne : ls ≠ [])
    (hnl : ∀ l ∈ ls, '\n' ∉ l) (h : ∀ l ∈ ls, isMarked m l = false) :
    splitAtMarker m (unlines ls) = (unlines ls, []) :=
  splitAtMarker_of_none (by rwa [Text.lines_unlines hne hnl])

/-- The fields start at the first marked line. -/
theorem splitAtMarker_append {a fs : List (List Char)} {f : List Char}
    (hnl : ∀ l ∈ a ++ f :: fs, '\n' ∉ l) (ha : ∀ l ∈ a, isMarked m l = false)
    (hf : isMarked m f = true) :
    splitAtMarker m (unlines (a ++ f :: fs)) = (terminated a, unlines (f :: fs)) := by
  have hne : a ++ f :: fs ≠ [] := List.append_ne_nil_of_right_ne_nil a (List.cons_ne_nil f fs)
  rw [splitAtMarker, markerOffset?, Text.lines_unlines hne hnl, markerOffsetIn?_append ha hf,
    Text.unlines_append (List.cons_ne_nil f fs)]
  simp

/-- Where every line is marked, each is a field. -/
theorem markerChunks_unlines {fs : List (List Char)} (hne : fs ≠ []) (hnl : ∀ l ∈ fs, '\n' ∉ l)
    (h : ∀ l ∈ fs, isMarked m l = true) : markerChunks m (unlines fs) = fs := by
  have hgroup : Text.groupUnder (fun l => if isMarked m l then some l else none) (fs.map id) =
      ([], fs.map fun l => (l, [])) :=
    Text.groupUnder_of_forall_some fun l hl => if_pos (h l hl)
  rw [List.map_id] at hgroup
  rw [markerChunks, Text.lines_unlines hne hnl, hgroup, List.map_map]
  exact List.map_id fs

/-- The fields of a text, as they stand when its margin is removed. -/
def chunks (marker : Char) (t : List Char) : List (List Char) :=
  markerChunks marker (splitAtMarker marker (Text.clean t)).2

theorem markerChunks_nil (m : Char) : markerChunks m [] = [] := rfl

theorem StartsWord.isMarked {l : List Char} (h : StartsWord l) (hm : isNamePart m = false) :
    Docstring.isMarked m l = false := by
  rw [Docstring.isMarked, beq_eq_false_iff_ne]
  exact h.head?_ne hm

namespace Record

variable {r : Record}

theorem unmarked_lead (hm : isNamePart m = false) : ∀ l ∈ r.lead, isMarked m l = false :=
  forall_lead rfl (r.summary.startsWord.isMarked hm) fun b _ => b.startsWord.isMarked hm

/-- A record printed without marked lines has no fields. -/
theorem splitAtMarker_of_unmarked (r : Record) {style : Style}
    (h : ∀ l ∈ r.lines style, isMarked m l = false) :
    splitAtMarker m (r.print style) = (r.print style, []) := by
  have hlines := r.lines_eq_cons style
  refine Docstring.splitAtMarker_of_unmarked (by rw [hlines]; exact List.cons_ne_nil _ _) ?_ h
  rw [hlines]
  exact (r.tidy style).noNewline

/-- The fields of a record are the fields that its own dialect finds, and what precedes
them is its description. -/
theorem splitAtMarker_print (r : Record) (style : Style) (mk : Markup)
    (hs : r.sections style = [("", mk.fields r)]) (hh : heading style "" = [])
    (hm : isNamePart mk.marker = false) :
    ∃ blanks, (∀ l ∈ blanks, isBlank l = true) ∧
      (splitAtMarker mk.marker (r.print style)).1 = unlines (r.lead ++ blanks) ∧
      markerChunks mk.marker (splitAtMarker mk.marker (r.print style)).2 = mk.fields r := by
  have hnl : ∀ l ∈ r.lines style, '\n' ∉ l := by
    rw [lines_eq_cons]
    exact (r.tidy style).noNewline
  have hmarked : ∀ l ∈ mk.fields r, isMarked mk.marker l = true := fun l hl => by
    rw [isMarked, mk.head?_of_mem_fields l hl, beq_self_eq_true]
  have hlead := unmarked_lead (r := r) hm
  cases hf : mk.fields r with
  | nil =>
    have hlines : r.lines style = r.lead := by
      rw [lines, paragraphs, hs, hf]
      exact List.append_nil r.lead
    rw [hlines] at hnl
    have hne : r.lead ≠ [] := List.cons_ne_nil _ _
    have hsplit := Docstring.splitAtMarker_of_unmarked hne hnl hlead
    refine ⟨[], List.forall_mem_nil _, ?_, ?_⟩
    · rw [print, hlines, hsplit, List.append_nil]
    · rw [print, hlines, hsplit, markerChunks_nil]
  | cons f fs =>
    have hlines : r.lines style = (r.lead ++ [[]]) ++ f :: fs := by
      rw [lines, paragraphs, hs, hf]
      simp [hh]
    rw [hf] at hmarked
    rw [hlines] at hnl
    have ha : ∀ l ∈ r.lead ++ [[]], isMarked mk.marker l = false := by
      rw [List.forall_mem_append]
      exact ⟨hlead, List.forall_mem_singleton.mpr rfl⟩
    have hsplit := splitAtMarker_append hnl ha (hmarked f List.mem_cons_self)
    refine ⟨[[], []], by decide, ?_, ?_⟩
    · rw [print, hlines, hsplit, Text.terminated_eq_unlines, List.append_assoc]
      rfl
    · rw [print, hlines, hsplit]
      exact markerChunks_unlines (List.cons_ne_nil f fs)
        (fun l hl => hnl l (List.mem_append_right _ hl)) hmarked

end Record

theorem cleanTail_of_not_mem {t : List Char} (h : '\n' ∉ t) : cleanTail t = t := by
  rw [cleanTail, Text.cut?_eq_none h]

/-- The text of a field, as it stands behind the colon. -/
theorem Phrase.cleanTail_trim (p : Phrase) (h : p.Trimmed) :
    cleanTail (Text.trim (' ' :: p.text)) = p.text := by
  have htrim : Text.trim (' ' :: p.text) = p.text := by
    rw [← List.append_nil (' ' :: p.text)]
    exact Text.trim_append_append (a := [' ']) (by decide) Text.isBlank_nil
      p.startsWord.trimStart h
  rw [htrim, cleanTail_of_not_mem p.noNewline]

theorem words_append {v w : List Char} (hv : ∀ c ∈ v, isSpace c = false) (hvne : v ≠ [])
    (hw : ∀ c ∈ w, isSpace c = false) (hwne : w ≠ []) : Text.words (v ++ ' ' :: w) = [v, w] := by
  rw [Text.words_append_cons (by decide), Text.words_of_visible hv hvne,
    Text.words_of_visible hw hwne]
  rfl

theorem Identifier.visible (i : Identifier) : ∀ c ∈ i.text, isSpace c = false :=
  fun c hc => isSpace_of_isNamePart (List.all_eq_true.mp i.parts c hc)

/-! ## The field list dialect -/

namespace Rest

open Record (Markup)

theorem words_head (word : String) (hw : word.toList.all (!isSpace ·) = true)
    (hne : word.toList ≠ []) (i : Identifier) :
    (Text.words (word.toList ++ ' ' :: i.text)).map String.ofList =
      [word, String.ofList i.text] := by
  have hvisible : ∀ c ∈ word.toList, isSpace c = false := by simpa using hw
  rw [words_append hvisible hne i.visible i.startsWord.ne_nil]
  simp

theorem cut?_field {head : List Char} (hw : StartsWord head) (hc : ':' ∉ head) (text : List Char) :
    Text.cut? ':' ((Markup.rest.field head text).dropWhile (· == ':')) =
      some (head, ' ' :: text) := by
  obtain ⟨c, t, rfl, -⟩ := hw.exists_cons
  have hne := (Text.beq_of_not_mem_cons hc).1
  have hdrop : (Markup.rest.field (c :: t) text).dropWhile (· == ':') =
      (c :: t) ++ ':' :: ' ' :: text := by
    rw [Markup.field, List.cons_append, List.dropWhile_cons, if_pos (by decide), List.cons_append,
      List.dropWhile_cons, if_neg (by simp [hne])]
  rw [hdrop, Text.cut?_append hc]

theorem colon_not_mem_head {word : String} (hw : ':' ∉ word.toList) (i : Identifier) :
    ':' ∉ word.toList ++ ' ' :: i.text := by
  rw [List.mem_append, List.mem_cons, not_or, not_or]
  exact ⟨hw, by decide, i.not_mem (by decide)⟩

/-- The entry of a parameter before its type is known. -/
def untyped (p : Record.Param) : Docstring.Param :=
  { args := ["param", String.ofList p.name.text]
    description := some (String.ofList p.description.text)
    name := String.ofList p.name.text
    type := none
    optional := none
    default := trailingDefault? p.description.text }

def resultOf (t : Phrase) : Returns :=
  { args := ["returns"]
    description := some (String.ofList t.text)
    type := none
    generator := false
    name := none }

def raisesOf (x : Record.Raised) : Raises :=
  { args := ["raises", String.ofList x.type.text]
    description := some (String.ofList x.description.text)
    type := some (String.ofList x.type.text) }

theorem field_param (p : Record.Param) (h : p.description.Trimmed) :
    field (Markup.rest.field ("param".toList ++ ' ' :: p.name.text) p.description.text) =
      .ok (.entry (.param (untyped p))) := by
  rw [field, cut?_field (by rfl) (colon_not_mem_head (by decide) p.name)]
  simp only [p.description.cleanTail_trim h, words_head "param" (by decide) (by decide) p.name]
  rfl

theorem field_type (i : Identifier) (t : Phrase) (h : t.Trimmed) :
    field (Markup.rest.field ("type".toList ++ ' ' :: i.text) t.text) =
      .ok (.type (String.ofList i.text) (String.ofList t.text)) := by
  rw [field, cut?_field (by rfl) (colon_not_mem_head (by decide) i)]
  simp only [t.cleanTail_trim h, words_head "type" (by decide) (by decide) i]

theorem field_returns (t : Phrase) (h : t.Trimmed) :
    field (Markup.rest.field Markup.rest.result.toList t.text) =
      .ok (.entry (.returns (resultOf t))) := by
  have hwords : Text.words Markup.rest.result.toList = ["returns".toList] := by decide
  rw [field, cut?_field (by rfl) (by decide)]
  simp only [t.cleanTail_trim h, hwords]
  rfl

theorem field_raises (x : Record.Raised) (h : x.description.Trimmed) :
    field (Markup.rest.field (Markup.rest.raised.toList ++ ' ' :: x.type.text)
      x.description.text) = .ok (.entry (.raises (raisesOf x))) := by
  rw [field, cut?_field (by rfl) (colon_not_mem_head (by decide) x.type)]
  simp only [x.description.cleanTail_trim h,
    words_head Markup.rest.raised (by decide) (by decide) x.type]
  rfl

/-- What the fields of a record are read as. -/
def fieldsOf (r : Record) : List Field :=
  r.params.flatMap (fun p => .entry (.param (untyped p)) ::
      p.type.toList.map fun t => .type (String.ofList p.name.text) (String.ofList t.text)) ++
    r.returns.toList.map (fun t => .entry (.returns (resultOf t))) ++
    r.raises.map fun x => .entry (.raises (raisesOf x))

theorem mapM_field {r : Record} (h : r.Neutral) :
    (Markup.rest.fields r).mapM field = .ok (fieldsOf r) := by
  refine mapM_ok_append (mapM_ok_append (mapM_ok_flatMap fun p hp => ?_)
    (mapM_ok_map fun t ht => ?_)) (mapM_ok_map fun x hx => ?_)
  · have htype : ∀ t ∈ p.type.toList, t.Trimmed :=
      fun t ht => (h.types p hp t (Option.mem_toList.mp ht)).trimmed
    rw [Markup.paramFields, List.mapM_cons, field_param p (h.descriptions p hp).trimmed,
      mapM_ok_map fun t ht => field_type p.name t (htype t ht)]
    rfl
  · exact field_returns t (h.returns t (Option.mem_toList.mp ht)).trimmed
  · exact field_raises x (h.raises x hx).trimmed

/-- The type that is given to a name is the one that a field gives to it, where there is
only one such field. -/
theorem typeOf?_eq {fields : List Field} {name : String} {type : Option String}
    (h : ∀ t, .type name t ∈ fields ↔ type = some t) : typeOf? fields name = type := by
  cases hf : typeOf? fields name with
  | none =>
    have hnone := List.findSome?_eq_none_iff.mp hf
    cases type with
    | none => rfl
    | some t =>
      have hmem := hnone (.type name t) (List.mem_reverse.mpr ((h t).mpr rfl))
      simp at hmem
  | some t =>
    obtain ⟨f, hmem, hsome⟩ := List.exists_of_findSome?_eq_some hf
    cases f with
    | type n type' =>
      simp only [Option.ite_none_right_eq_some, Option.some.injEq] at hsome
      obtain ⟨rfl, rfl⟩ := hsome
      exact ((h type').mp (List.mem_reverse.mp hmem)).symm
    | resultType n type' => cases hsome
    | entry e => cases hsome

theorem resultTypes_eq_nil {fields : List Field} (h : ∀ n t, .resultType n t ∉ fields) :
    resultTypes fields = [] := by
  induction fields with
  | nil => rfl
  | cons f fields ih =>
    have ih := ih fun n t hm => h n t (List.mem_cons_of_mem f hm)
    cases f with
    | type n t => exact ih
    | resultType n t => exact absurd List.mem_cons_self (h n t)
    | entry e => exact ih

theorem mem_fieldsOf_type {r : Record} {p : Record.Param} (hp : p ∈ r.params) (t : String) :
    .type (String.ofList p.name.text) t ∈ fieldsOf r ↔
      p.type.map (String.ofList ·.text) = some t := by
  constructor
  · intro hm
    simp only [fieldsOf, List.mem_append, List.mem_flatMap, List.mem_cons, List.mem_map,
      reduceCtorEq, false_or, and_false, exists_false, or_false, Field.type.injEq,
      Option.mem_toList] at hm
    obtain ⟨q, hq, t', ht', hname, rfl⟩ := hm
    have heq : q = p := List.inj_on_of_nodup_map r.distinct hq hp (String.ofList_injective hname)
    rw [← heq, Option.mem_def.mp ht', Option.map_some]
  · intro ht
    obtain ⟨t', ht', rfl⟩ := Option.map_eq_some_iff.mp ht
    refine List.mem_append_left _ (List.mem_append_left _ (List.mem_flatMap.mpr ⟨p, hp, ?_⟩))
    exact List.mem_cons_of_mem _ (List.mem_map.mpr ⟨t', Option.mem_toList.mpr ht', rfl⟩)

def typed (p : Record.Param) : Docstring.Param :=
  { untyped p with type := p.type.map (String.ofList ·.text) }

def Field.entry? : Field → Option Entry
  | .entry e => some e
  | _ => none

/-- The fields that are entries, each with its type. -/
def described (fields : List Field) : List Entry :=
  (fields.filterMap Field.entry?).map (withType fields)

/-- The entry of a result of which only the type is known. -/
def typeEntry (name : Option String) (type : Option String) : Entry :=
  .returns { args := [], description := none, type, generator := false, name }

/-- The result types follow the fields that are entries if none of these is a result. -/
theorem entries_eq (fields : List Field) :
    entries fields =
      if (described fields).any (·.returns?.isSome) then described fields
      else described fields ++ (resultTypes fields).map fun t => typeEntry t.1 (some t.2) := by
  have hdescribed : (fields.filterMap fun
      | .entry e => some (withType fields e)
      | _ => none) = described fields := by
    rw [described, List.map_filterMap]
    congr 1
    funext f
    cases f with
    | type n t => rfl
    | resultType n t => rfl
    | entry e => rfl
  exact congrArg (fun es => if es.any (·.returns?.isSome) then es
    else es ++ (resultTypes fields).map fun t => typeEntry t.1 (some t.2)) hdescribed

/-- Without result types of their own, the entries are the fields that are entries, each
with its type. -/
theorem entries_of_no_resultTypes {fields : List Field} (h : resultTypes fields = []) :
    entries fields = (fields.filterMap Field.entry?).map (withType fields) := by
  rw [entries_eq, h, List.map_nil, List.append_nil, ite_self, described]

theorem filterMap_fieldsOf (r : Record) :
    (fieldsOf r).filterMap Field.entry? =
      r.params.map (fun p => .param (untyped p)) ++
        r.returns.toList.map (fun t => .returns (resultOf t)) ++
        r.raises.map fun x => .raises (raisesOf x) := by
  have hparam : ∀ p : Record.Param, (p.type.toList.map fun t =>
      Field.type (String.ofList p.name.text) (String.ofList t.text)).filterMap Field.entry? =
        [] := by
    intro p
    cases p.type with
    | none => rfl
    | some t => rfl
  rw [fieldsOf, List.filterMap_append, List.filterMap_append, List.filterMap_flatMap,
    List.filterMap_map, List.filterMap_map]
  congr 1
  · congr 1
    · rw [← List.flatMap_pure_eq_map]
      congr 1
      funext p
      rw [List.filterMap_cons, hparam]
      rfl
    · exact congrFun List.filterMap_eq_map r.returns.toList
  · exact congrFun List.filterMap_eq_map r.raises

theorem entries_fieldsOf (r : Record) :
    entries (fieldsOf r) =
      Record.entries (r.params.map typed) (r.returns.map resultOf) (r.raises.map raisesOf) := by
  have hresults : resultTypes (fieldsOf r) = [] := by
    refine resultTypes_eq_nil fun n t hm => ?_
    simp [fieldsOf] at hm
  have hparam : ∀ p ∈ r.params, withType (fieldsOf r) (.param (untyped p)) = .param (typed p) := by
    intro p hp
    have htype := typeOf?_eq (mem_fieldsOf_type hp)
    rw [withType, untyped, typed, htype]
    rfl
  have hresult : ∀ t, withType (fieldsOf r) (.returns (resultOf t)) = .returns (resultOf t) := by
    intro t
    rw [withType, resultType?, hresults]
    rfl
  rw [entries_of_no_resultTypes hresults, filterMap_fieldsOf, List.map_append, List.map_append,
    List.map_map, List.map_map, List.map_map, Record.entries, List.map_map, List.map_map]
  congr 1
  · congr 1
    · exact List.map_congr_left hparam
    · cases r.returns with
      | none => rfl
      | some t => simp [hresult]

theorem parse_eq_map (t : List Char) :
    parse t = ((chunks ':' t).mapM field).map fun fields =>
      ofDescription (splitAtMarker ':' (Text.clean t)).1 (entries fields) (some .rest) := by
  rw [parse, chunks]
  generalize splitAtMarker ':' (Text.clean t) = split
  obtain ⟨description, rest⟩ := split
  dsimp only
  cases (markerChunks ':' rest).mapM field with
  | error cause => rfl
  | ok fields => rfl

theorem parse_eq_of_split {t : List Char} {fields : List Field}
    (h : (markerChunks ':' (splitAtMarker ':' (Text.clean t)).2).mapM field = .ok fields) :
    parse t = .ok (ofDescription (splitAtMarker ':' (Text.clean t)).1 (entries fields)
      (some .rest)) := by
  rw [parse_eq_map, chunks, h]
  rfl

/-- The field list dialect reads a record from its fields. -/
theorem exists_reading {r : Record} (h : r.Neutral) :
    ∃ d, parse (r.print .rest) = .ok d ∧ r.Reads d := by
  obtain ⟨blanks, hblanks, hlead, hchunks⟩ :=
    r.splitAtMarker_print .rest .rest rfl rfl (by decide)
  have hfields := mapM_field h
  rw [← hchunks, ← r.clean_print .rest] at hfields
  refine ⟨_, parse_eq_of_split hfields, ?_⟩
  rw [r.clean_print, entries_fieldsOf]
  have hdescription : (splitAtMarker ':' (r.print .rest)).1 = unlines (r.lead ++ blanks) := hlead
  rw [hdescription]
  refine r.reads_ofDescription h.body hblanks (some .rest) ?_ (fun _ => rfl) fun _ => rfl
  exact fun p _ => Record.paramDoc_eq p rfl rfl rfl rfl

/-- Without marked lines the text is all description. -/
theorem blind {r : Record} {style : Style} (h : ∀ l ∈ r.lines style, isMarked ':' l = false) :
    Blind (r.print style) .rest := by
  have hfields : (markerChunks ':' (splitAtMarker ':' (Text.clean (r.print style))).2).mapM field =
      .ok [] := by
    rw [r.clean_print, r.splitAtMarker_of_unmarked h]
    rfl
  exact ⟨_, parseAs_rest.mpr (parse_eq_of_split hfields), ofDescription_entries _ _ _⟩

end Rest

end RefBook.Docstring
