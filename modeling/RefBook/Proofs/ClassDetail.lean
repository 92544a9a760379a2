import Mathlib.Data.List.Infix
import RefBook.ClassDetail

/-! # The fields of a class through its documentation

Entries add fields at the end and revise the type or the description of the first field of a
name; a field never loses its place, its name or its kind. Variable tags do not name a field
twice, so where no attribute is documented the names stay distinct, and the tag that names a
field first gives it its kind. -/

namespace RefBook

open Docstring (Entry)

/-- The field that a variable tag tells about. -/
def Docstring.Entry.tagged? (e : Entry) : Option String :=
  if e.key ∈ fieldTags then e.args[1]? else none

/-- What documentation never changes of a field. -/
def Field.identity (f : Field) : String × FieldKind := (f.name, f.kind)

namespace ClassDetail

def names (d : ClassDetail) : List String := d.fields.map (·.name)

def identities (d : ClassDetail) : List (String × FieldKind) := d.fields.map Field.identity

/-- The entries of several documentation texts, in turn. -/
def entriesOf (docs : List String) : List Entry :=
  docs.flatMap fun text => (Docstring.parse text.toList).entries

theorem foldl_addDocstring (docs : List String) (d : ClassDetail) :
    docs.foldl addDocstring d = (entriesOf docs).foldl addEntry d :=
  (List.foldl_flatMap ..).symm

theorem map_fst_identities (d : ClassDetail) : d.identities.map Prod.fst = d.names :=
  List.map_map ..

theorem names_eq {d d' : ClassDetail} (h : d'.identities = d.identities) : d'.names = d.names := by
  rw [← map_fst_identities, h, map_fst_identities]

theorem field?_isSome (d : ClassDetail) (name : String) :
    (d.field? name).isSome = true ↔ name ∈ d.names := by
  simp [field?, names, List.find?_isSome]

/-- A change of a field that leaves its name and its kind. -/
def Revises (f : Field → Field) : Prop := ∀ x, (f x).identity = x.identity

theorem revises_type (type : Option String) : Revises fun x => { x with type := type } :=
  fun _ => rfl

theorem revises_description (description : Option String) :
    Revises fun x => { x with description := description } :=
  fun _ => rfl

theorem map_identity_updateFirst {f : Field → Field} (hf : Revises f) (name : String)
    (l : List Field) : (updateFirst name f l).map Field.identity = l.map Field.identity := by
  induction l with
  | nil => rfl
  | cons x rest ih =>
    rw [updateFirst]
    split
    · rw [List.map_cons, List.map_cons, hf]
    · rw [List.map_cons, List.map_cons, ih]

theorem getElem?_updateFirst_of_ne {f : Field → Field} {name : String} {l : List Field} {i : Nat}
    {x : Field} (hx : l[i]? = some x) (hne : x.name ≠ name) :
    (updateFirst name f l)[i]? = some x := by
  induction l generalizing i with
  | nil => cases hx
  | cons y rest ih =>
    rw [updateFirst]
    cases i with
    | zero =>
      obtain rfl : y = x := Option.some.inj hx
      rw [if_neg hne]
      rfl
    | succ i =>
      rw [List.getElem?_cons_succ] at hx
      split
      · exact hx
      · exact ih hx

/-- A field behind another one of its name is not the first. -/
theorem getElem?_updateFirst_of_mem {f : Field → Field} {name : String} {l : List Field} {i : Nat}
    {x : Field} (hx : l[i]? = some x) (hmem : x.name ∈ (l.take i).map (·.name)) :
    (updateFirst name f l)[i]? = some x := by
  induction l generalizing i with
  | nil => cases hx
  | cons y rest ih =>
    cases i with
    | zero => cases hmem
    | succ i =>
      rw [List.getElem?_cons_succ] at hx
      rw [List.take_succ_cons, List.map_cons, List.mem_cons] at hmem
      rw [updateFirst]
      split
      · exact hx
      · next hy =>
        rw [List.getElem?_cons_succ]
        obtain hxy | hmem := hmem
        · exact getElem?_updateFirst_of_ne hx (hxy ▸ hy)
        · exact ih hx hmem

/-- The fields that were there come first, with their names and kinds. Of the fields of one name
only the first may have another type or another description. -/
structure Extended (before after : List Field) : Prop where
  identities : before.map Field.identity <+: after.map Field.identity
  behind : ∀ i x, before[i]? = some x → x.name ∈ (before.take i).map (·.name) → after[i]? = some x

theorem Extended.refl (l : List Field) : Extended l l := ⟨List.prefix_rfl, fun _ _ hx _ => hx⟩

theorem map_name_eq (l : List Field) :
    l.map (·.name) = (l.map Field.identity).map Prod.fst := by
  rw [List.map_map]
  rfl

theorem Extended.names {l l' : List Field} (h : Extended l l') :
    l.map (·.name) <+: l'.map (·.name) := by
  rw [map_name_eq, map_name_eq]
  exact h.identities.map Prod.fst

theorem Extended.trans {l l' l'' : List Field} (h : Extended l l') (h' : Extended l' l'') :
    Extended l l'' where
  identities := h.identities.trans h'.identities
  behind i x hx hmem := by
    refine h'.behind i x (h.behind i x hx hmem) ?_
    rw [List.map_take] at hmem ⊢
    exact (List.IsPrefix.take h.names i).subset hmem

theorem extended_append (l added : List Field) : Extended l (l ++ added) where
  identities := by
    rw [List.map_append]
    exact List.prefix_append ..
  behind i _ hx _ := by
    obtain ⟨hi, -⟩ := List.getElem?_eq_some_iff.mp hx
    rw [List.getElem?_append_left hi, hx]

theorem extended_updateFirst {f : Field → Field} (hf : Revises f) (name : String)
    (l : List Field) : Extended l (updateFirst name f l) where
  identities := (map_identity_updateFirst hf name l).symm ▸ List.prefix_rfl
  behind _ _ hx hmem := getElem?_updateFirst_of_mem hx hmem

/-- What an entry can do: list an attribute as a new field, give the type of a field, describe a
field that is there, introduce one that is not, or nothing. -/
inductive Step (d : ClassDetail) (e : Entry) : ClassDetail → Prop
  | list (p : Docstring.Param) (is : e = .param p) (key : e.key = "attribute") :
    Step d e ⟨d.fields ++ [⟨p.name, p.type, p.description, .unknown⟩]⟩
  | retype (p : Docstring.Param) (is : e = .param p) (key : e.key = "type") :
    Step d e ⟨updateFirst p.name (fun f => { f with type := p.type }) d.fields⟩
  | describe (name : String) (var : e.tagged? = some name) (old : name ∈ d.names) :
    Step d e ⟨updateFirst name (fun f => { f with description := e.description }) d.fields⟩
  | introduce (name : String) (type : Option String) (var : e.tagged? = some name)
    (new : name ∉ d.names) :
    Step d e ⟨d.fields ++ [⟨name, type, e.description, .ofTag e.key⟩]⟩
  | pass (var : e.tagged? = none) : Step d e d

theorem step_addEntry (d : ClassDetail) (e : Entry) : Step d e (d.addEntry e) := by
  unfold addEntry
  split
  · next p key => exact .list p rfl key
  · next p key => exact .retype p rfl key
  · next e _ _ _ _ =>
    split
    · next htag =>
      have hvar : e.tagged? = e.args[1]? := if_pos htag
      split
      · next name more hargs =>
        rw [hargs] at hvar
        split
        · next hsome => exact .describe name hvar ((field?_isSome d name).mp hsome)
        · next hsome => exact .introduce name more.head? hvar (mt (field?_isSome d name).mpr hsome)
      · next hargs =>
        refine .pass (hvar.trans (List.getElem?_eq_none ?_))
        match h : e.args with
        | [] | [_] => simp
        | _ :: name :: more => exact absurd h (hargs _ name more)
    · next htag => exact .pass (if_neg htag)

variable {d r r' : ClassDetail} {e : Entry}

theorem Step.extended (h : Step d e r) : Extended d.fields r.fields := by
  cases h with
  | list | introduce => exact extended_append ..
  | retype => exact extended_updateFirst (revises_type _) ..
  | describe => exact extended_updateFirst (revises_description _) ..
  | pass => exact .refl _

/-- A variable tag adds a name that is not there yet, or none. -/
theorem Step.names_of_tag (h : Step d e r) (htag : e.key ∈ fieldTags) :
    r.names = d.names ++ e.tagged?.toList.filter (· ∉ d.names) := by
  cases h with
  | list _ _ key | retype _ _ key => exact absurd (key ▸ htag) (by decide)
  | describe name var old =>
    rw [names_eq (map_identity_updateFirst (revises_description _) ..), var]
    simp [old]
  | introduce name type var new =>
    rw [var, Option.toList_some, List.filter_cons_of_pos (by simpa using new), List.filter_nil,
      names, List.map_append]
    rfl
  | pass var =>
    rw [var]
    exact (List.append_nil _).symm

theorem Step.names_of_type (h : Step d e r) (hkey : e.key = "type") : r.names = d.names := by
  have hvar : e.tagged? = none := if_neg (hkey ▸ by decide)
  cases h with
  | list _ _ key => exact absurd (hkey.symm.trans key) (by decide)
  | retype => exact names_eq (map_identity_updateFirst (revises_type _) ..)
  | describe _ var | introduce _ _ var => exact nomatch hvar.symm.trans var
  | pass => rfl

theorem extended_foldl (es : List Entry) (d : ClassDetail) :
    Extended d.fields (es.foldl addEntry d).fields := by
  induction es generalizing d with
  | nil => exact .refl _
  | cons e es ih => exact (step_addEntry d e).extended.trans (ih (d.addEntry e))

/-- The fields as variable tags tell them: the names are distinct, and they are those that were
there and those that the tags tell about. Each field that was not there has the kind of the first
tag that tells about it. -/
structure Told (d : ClassDetail) (es : List Entry) (r : ClassDetail) : Prop where
  longer : d.fields.length ≤ r.fields.length
  distinct : r.names.Nodup
  mem_names : ∀ name, name ∈ r.names ↔ name ∈ d.names ∨ ∃ e ∈ es, e.tagged? = some name
  kinds : ∀ x ∈ r.identities.drop d.fields.length,
    ∃ e, es.find? (·.tagged? = some x.1) = some e ∧ x.2 = .ofTag e.key

variable {es : List Entry}

theorem Told.start (h : d.names.Nodup) : Told d [] d where
  longer := le_rfl
  distinct := h
  mem_names := by simp
  kinds x hx := by
    rw [identities, List.drop_eq_nil_of_le (List.length_map ..).le] at hx
    cases hx

/-- An entry that tells about a field that is there, or about none. -/
theorem Told.revise (ht : Told d es r) (hr : r'.identities = r.identities)
    (hvar : ∀ name, e.tagged? = some name → name ∈ r.names) : Told d (es ++ [e]) r' where
  longer := by
    have hlen : r'.fields.length = r.fields.length := by
      simpa [identities] using congrArg List.length hr
    exact hlen ▸ ht.longer
  distinct := names_eq hr ▸ ht.distinct
  mem_names name := by
    have hold := ht.mem_names name
    rw [names_eq hr]
    grind
  kinds x hx := by
    obtain ⟨e', hfind, hkind⟩ := ht.kinds x (hr ▸ hx)
    exact ⟨e', by rw [List.find?_append, hfind, Option.some_or], hkind⟩

/-- The first entry that tells about a field. -/
theorem Told.introduce (ht : Told d es r) {x : Field} (hvar : e.tagged? = some x.name)
    (hkind : x.kind = .ofTag e.key) (hnew : x.name ∉ r.names) :
    Told d (es ++ [e]) ⟨r.fields ++ [x]⟩ where
  longer := by
    rw [List.length_append]
    exact Nat.le_add_right_of_le ht.longer
  distinct := by
    rw [names, List.map_append]
    exact List.nodup_append.mpr ⟨ht.distinct, by simp, by grind [names]⟩
  mem_names name := by
    have hold := ht.mem_names name
    grind [names]
  kinds y hy := by
    have hlen : d.fields.length ≤ (r.fields.map Field.identity).length := by
      simpa using ht.longer
    rw [identities, List.map_append, List.drop_append_of_le_length hlen, List.mem_append] at hy
    obtain hy | hy := hy
    · obtain ⟨e', hfind, hkind'⟩ := ht.kinds y hy
      exact ⟨e', by rw [List.find?_append, hfind, Option.some_or], hkind'⟩
    · obtain rfl : y = x.identity := by simpa using hy
      have hnone : es.find? (·.tagged? = some x.identity.1) = none := by
        rw [List.find?_eq_none]
        intro e' he' h
        exact hnew ((ht.mem_names _).mpr (.inr ⟨e', he', of_decide_eq_true h⟩))
      refine ⟨e, ?_, hkind⟩
      rw [List.find?_append, hnone, Option.none_or, List.find?_singleton]
      exact if_pos (decide_eq_true hvar)

def ListsAttribute (e : Entry) : Prop := ∃ p, e = .param p ∧ e.key = "attribute"

theorem Step.told (h : Step r e r') (ht : Told d es r) (hlist : ¬ ListsAttribute e) :
    Told d (es ++ [e]) r' := by
  cases h with
  | list p is key => exact absurd ⟨p, is, key⟩ hlist
  | retype p is key =>
    have hvar : e.tagged? = none := if_neg (key ▸ by decide)
    exact ht.revise (map_identity_updateFirst (revises_type _) ..) (by simp [hvar])
  | describe name var old =>
    refine ht.revise (map_identity_updateFirst (revises_description _) ..) ?_
    intro name' var'
    exact Option.some.inj (var.symm.trans var') ▸ old
  | introduce name type var new => exact ht.introduce var rfl new
  | pass var => exact ht.revise rfl (by simp [var])

theorem told_foldl {new : List Entry} (ht : Told d es r) (hlist : ∀ e ∈ new, ¬ ListsAttribute e) :
    Told d (es ++ new) (new.foldl addEntry r) := by
  induction new generalizing es r with
  | nil => exact (List.append_nil es).symm ▸ ht
  | cons e new ih =>
    have he := (step_addEntry r e).told ht (hlist e List.mem_cons_self)
    have hrun := ih he fun e' he' => hlist e' (List.mem_cons_of_mem e he')
    rwa [List.append_assoc] at hrun

/-- However many texts document a class, the fields it had stay in front with their names and
kinds, and no field that is behind another one of its name changes at all. On the way a variable
tag adds no name that is there already, and a type tag leaves the names. Where the names are
distinct and the texts list no attributes, the variable tags alone tell the fields. -/
theorem documented_fields_kept (d : ClassDetail) (docs : List String) :
    Extended d.fields (docs.foldl addDocstring d).fields ∧
    (∀ (r : ClassDetail) (e : Entry),
      (e.key ∈ fieldTags →
        (r.addEntry e).names = r.names ++ e.tagged?.toList.filter (· ∉ r.names)) ∧
      (e.key = "type" → (r.addEntry e).names = r.names)) ∧
    (d.names.Nodup → (∀ e ∈ entriesOf docs, ¬ ListsAttribute e) →
      Told d (entriesOf docs) (docs.foldl addDocstring d)) := by
  rw [foldl_addDocstring]
  refine ⟨extended_foldl _ d, ?_, ?_⟩
  · intro r e
    exact ⟨(step_addEntry r e).names_of_tag, (step_addEntry r e).names_of_type⟩
  · intro hdistinct hlist
    exact told_foldl (.start hdistinct) hlist

/-- A class with a field of its own, and two texts about its fields. -/
def named : ClassDetail := ⟨[⟨"name", some "str", none, .unknown⟩]⟩

def sizeTexts : List String :=
  [":ivar size int: The size.\n:cvar name: The name.",
    "@type size: float\n@var size: In bytes.\n@cvar other: Other."]

/-- What the two texts say, entry by entry. -/
def sizeEntries : List Entry :=
  [.note ⟨["ivar", "size", "int"], some "The size."⟩,
    .note ⟨["cvar", "name"], some "The name."⟩,
    .param ⟨["type", "size"], none, "size", some "float", some false, none⟩,
    .note ⟨["var", "size"], some "In bytes."⟩,
    .note ⟨["cvar", "other"], some "Other."⟩]

theorem entriesOf_sizeTexts : entriesOf sizeTexts = sizeEntries := by decide +kernel

theorem sizeTexts_told :
    (sizeTexts.foldl addDocstring named).fields =
      [⟨"name", some "str", some "The name.", .unknown⟩,
        ⟨"size", some "float", some "In bytes.", .ofInstance⟩,
        ⟨"other", none, some "Other.", .ofClass⟩] ∧
    (∃ e ∈ entriesOf sizeTexts, e.key ∈ fieldTags ∧
      (named.addEntry e).names = named.names ++ e.tagged?.toList.filter (· ∉ named.names)) ∧
    (∃ e ∈ entriesOf sizeTexts, e.key = "type" ∧ (named.addEntry e).names = named.names) ∧
    named.names.Nodup ∧ (∀ e ∈ entriesOf sizeTexts, e.key ≠ "attribute") ∧
    Told named (entriesOf sizeTexts) (sizeTexts.foldl addDocstring named) := by
  have hdistinct : named.names.Nodup := by decide
  obtain ⟨-, hstep, htold⟩ := documented_fields_kept named sizeTexts
  rw [foldl_addDocstring, entriesOf_sizeTexts] at htold ⊢
  have hkeys : ∀ e ∈ sizeEntries, e.key ≠ "attribute" := by decide
  have hlist : ∀ e ∈ sizeEntries, ¬ ListsAttribute e := fun e he ⟨_, _, hkey⟩ => hkeys e he hkey
  obtain ⟨e, he, htag⟩ : ∃ e ∈ sizeEntries, e.key ∈ fieldTags := by decide
  obtain ⟨e', he', htype⟩ : ∃ e ∈ sizeEntries, e.key = "type" := by decide
  exact ⟨by decide, ⟨e, he, htag, (hstep named e).1 htag⟩,
    ⟨e', he', htype, (hstep named e').2 htype⟩, hdistinct, hkeys, htold hdistinct hlist⟩

end ClassDetail

end RefBook
