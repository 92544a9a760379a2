import Mathlib.Data.List.Dedup
import RefBook.Proofs.Docstring.Fields

/-! # Types in fields of their own

The types of parameters and of results may stand in fields of their own, anywhere among
the others. The fields fall into three families, and the entries of a text depend on its
fields only through the order within each family. A parameter without a type of its own
has the last one that a field gives to its name, a result the last one that a field gives
to no name. -/

namespace RefBook.Docstring.Rest

open Text (isBlank unlines)

/-- A field cut at the colon behind its head. -/
def cutField? (chunk : List Char) : Option (List Char × List Char) :=
  Text.cut? ':' (chunk.dropWhile (· == ':'))

/-- The words of a field's head, its key first. -/
def headWords (chunk : List Char) : List String :=
  (cutField? chunk).elim [] fun (head, _) => (Text.words head).map String.ofList

def fieldText (chunk : List Char) : List Char :=
  (cutField? chunk).elim [] fun (_, rest) => cleanTail (Text.trim rest)

/-- The families of fields: the types of parameters, the types of results, and all
others. -/
inductive Family
  | type
  | resultType
  | other
deriving DecidableEq

def familyOf : List String → Family
  | ["type", _] => .type
  | ["rtype"] | ["rtype", _] => .resultType
  | _ => .other

def family (chunk : List Char) : Family := familyOf (headWords chunk)

/-- A field without the blank lines at its end. -/
def stem (chunk : List Char) : List Char :=
  unlines (Text.dropEndWhile isBlank (Text.lines chunk))

/-- The same fields, up to blank lines at their ends, in an order that keeps the order
within each family. -/
def Reordered (cs cs' : List (List Char)) : Prop :=
  ∀ k, (cs.map stem).filter (family · = k) = (cs'.map stem).filter (family · = k)

theorem Reordered.perm {cs cs' : List (List Char)} (h : Reordered cs cs') :
    (cs.map stem).Perm (cs'.map stem) := by
  rw [List.perm_iff_count]
  intro c
  have hcount := congrArg (List.count c) (h (family c))
  rwa [List.count_filter (by simp), List.count_filter (by simp)] at hcount

theorem exists_stem_append (chunk : List Char) :
    ∃ blanks, chunk = stem chunk ++ blanks ∧ isBlank blanks = true := by
  obtain ⟨r, hr, hblank⟩ := Text.dropEndWhile_append_dropped isBlank (Text.lines chunk)
  cases hs : Text.dropEndWhile isBlank (Text.lines chunk) with
  | nil =>
    rw [hs, List.nil_append] at hr
    refine ⟨chunk, by rw [stem, hs]; rfl, ?_⟩
    rw [← Text.unlines_lines chunk, hr]
    exact Text.isBlank_unlines hblank
  | cons l ls =>
    refine ⟨r.flatMap ('\n' :: ·), ?_, ?_⟩
    · rw [stem, hs, ← Text.unlines_append_right (List.cons_ne_nil l ls), ← hs, ← hr,
        Text.unlines_lines]
    · rw [isBlank, List.all_flatMap, List.all_eq_true]
      intro l hl
      rw [List.all_cons, Text.isSpace_newline]
      exact hblank l hl

theorem cutField?_append {blanks : List Char} (h : isBlank blanks = true) (chunk : List Char) :
    cutField? (chunk ++ blanks) = (cutField? chunk).map fun c => (c.1, c.2 ++ blanks) := by
  have hcolon : ':' ∉ blanks := fun hm => by
    have hspace := List.all_eq_true.mp h ':' hm
    exact absurd hspace (by decide)
  have hdrop : blanks.dropWhile (· == ':') = blanks := by
    cases blanks with
    | nil => rfl
    | cons c t => rw [List.dropWhile_cons, if_neg (by simp [(Text.beq_of_not_mem_cons hcolon).1])]
  have hstart : (chunk ++ blanks).dropWhile (· == ':') =
      chunk.dropWhile (· == ':') ++ blanks := by
    rw [List.dropWhile_append]
    split
    · rename_i hnil
      rw [hdrop, List.isEmpty_iff.mp hnil, List.nil_append]
    · rfl
  rw [cutField?, cutField?, hstart]
  induction chunk.dropWhile (· == ':') with
  | nil => rw [List.nil_append, Text.cut?_eq_none hcolon]; rfl
  | cons c t ih =>
    rw [List.cons_append, Text.cut?, Text.cut?]
    split
    · rfl
    · rw [ih, Option.map_map, Option.map_map]
      rfl

theorem headWords_stem (chunk : List Char) : headWords (stem chunk) = headWords chunk := by
  obtain ⟨blanks, hchunk, hblank⟩ := exists_stem_append chunk
  have hcut := cutField?_append hblank (stem chunk)
  rw [← hchunk] at hcut
  rw [headWords, headWords, hcut, Option.elim_map]
  rfl

theorem fieldText_stem (chunk : List Char) : fieldText (stem chunk) = fieldText chunk := by
  obtain ⟨blanks, hchunk, hblank⟩ := exists_stem_append chunk
  have hcut := cutField?_append hblank (stem chunk)
  have htrim : ∀ rest, Text.trim (rest ++ blanks) = Text.trim rest := by
    intro rest
    cases hr : isBlank rest with
    | true =>
      rw [Text.trim, Text.trim, Text.trimStart_append_of_isBlank hr,
        (Text.isBlank_iff rest).mp hr, (Text.isBlank_iff blanks).mp hblank]
    | false =>
      rw [Text.trim, Text.trim, Text.trimStart_append_of_visible hr,
        Text.trimEnd_append_of_isBlank _ hblank]
  rw [← hchunk] at hcut
  rw [fieldText, fieldText, hcut, Option.elim_map]
  simp only [Function.comp_def, htrim]

/-! ## Reading a field -/

/-- What a field with the given head says, if it can be read. -/
def readAs? (description : List Char) : List String → Option Field
  | [] => none
  | ["type", name] => some (.type name (String.ofList description))
  | ["rtype"] => some (.resultType none (String.ofList description))
  | ["rtype", name] => some (.resultType (some name) (String.ofList description))
  | key :: arguments => (entry key arguments description).toOption.map .entry

def read? (chunk : List Char) : Option Field := readAs? (fieldText chunk) (headWords chunk)

theorem toOption_field (chunk : List Char) : (field chunk).toOption = read? chunk := by
  rw [field, read?, fieldText, headWords, cutField?]
  cases Text.cut? ':' (chunk.dropWhile (· == ':')) with
  | none => rfl
  | some c =>
    obtain ⟨head, rest⟩ := c
    dsimp only [Option.elim_some]
    generalize (Text.words head).map String.ofList = words
    fun_cases readAs? (cleanTail (Text.trim rest)) words with
    | case1 => rfl
    | case2 name => rfl
    | case3 => rfl
    | case4 name => rfl
    | case5 key arguments =>
      simp only
      cases entry key arguments (cleanTail (Text.trim rest)) with
      | error e => rfl
      | ok e => rfl

theorem read?_stem (chunk : List Char) : read? (stem chunk) = read? chunk := by
  rw [read?, read?, headWords_stem, fieldText_stem]

def Field.family : Field → Family
  | .type _ _ => .type
  | .resultType _ _ => .resultType
  | .entry _ => .other

def resultTypeWords (name : Option String) : List String := "rtype" :: name.toList

/-- An entry that has no type but what its own field gives it. -/
def Inline : Entry → Prop
  | .param p => p.args.length = 2 → p.type = none
  | .returns r => r.name = none ∧ (r.args.length = 1 → r.type = none)
  | _ => True

theorem typeArgument?_singleton {key : String} {arguments : List String} {type : Option String}
    (h : typeArgument? key arguments = .ok type) : (key :: arguments).length = 1 → type = none := by
  intro hlen
  cases arguments with
  | nil => cases h; rfl
  | cons a as => simp at hlen

/-- An entry keeps the words of its head, and a type only if it is one of them. -/
theorem entry_spec {key : String} {arguments : List String} {description : List Char} {e : Entry}
    (h : entry key arguments description = .ok e) :
    e.args = key :: arguments ∧ Inline e := by
  unfold entry at h
  dsimp only at h
  split at h
  · split at h
    · cases h
      exact ⟨rfl, fun _ => rfl⟩
    · cases h
      exact ⟨rfl, fun hlen => absurd hlen (Nat.succ_ne_self 2)⟩
    · cases h
  · split at h
    · cases ht : typeArgument? key arguments with
      | error cause => rw [ht] at h; cases h
      | ok type =>
        rw [ht] at h
        cases h
        exact ⟨rfl, rfl, typeArgument?_singleton ht⟩
    · split at h
      · split at h
        · cases h
          exact ⟨rfl, trivial⟩
        · cases h
          exact ⟨rfl, trivial⟩
      · split at h
        · cases ht : typeArgument? key arguments with
          | error cause => rw [ht] at h; cases h
          | ok type =>
            rw [ht] at h
            cases h
            exact ⟨rfl, trivial⟩
        · cases h
          exact ⟨rfl, trivial⟩

/-- What a field is read as follows from its head. -/
theorem read?_cases {chunk : List Char} {f : Field} (h : read? chunk = some f) :
    (∃ name, headWords chunk = ["type", name] ∧
      f = .type name (String.ofList (fieldText chunk))) ∨
    (∃ name, headWords chunk = resultTypeWords name ∧
      f = .resultType name (String.ofList (fieldText chunk))) ∨
    (∃ e, familyOf e.args = .other ∧ headWords chunk = e.args ∧ f = .entry e ∧ Inline e) := by
  rw [read?] at h
  generalize headWords chunk = words at h ⊢
  fun_cases readAs? (fieldText chunk) words with
  | case1 => cases h
  | case2 name =>
    cases h
    exact .inl ⟨name, rfl, rfl⟩
  | case3 =>
    cases h
    exact .inr (.inl ⟨none, rfl, rfl⟩)
  | case4 name =>
    cases h
    exact .inr (.inl ⟨some name, rfl, rfl⟩)
  | case5 key arguments htype hrtype hnamed =>
    have hother : familyOf (key :: arguments) = .other := by
      unfold familyOf
      split <;> simp_all
    rw [readAs?] at h
    · obtain ⟨e, he, rfl⟩ := Option.map_eq_some_iff.mp h
      cases hentry : entry key arguments (fieldText chunk) with
      | error cause => rw [hentry] at he; cases he
      | ok e' =>
        rw [hentry] at he
        cases he
        obtain ⟨hargs, hinline⟩ := entry_spec hentry
        exact .inr (.inr ⟨e, hargs ▸ hother, hargs.symm, rfl, hinline⟩)
    · exact htype
    · exact hrtype
    · exact hnamed

theorem family_of_read? {chunk : List Char} {f : Field} (h : read? chunk = some f) :
    f.family = family chunk := by
  rw [family]
  obtain ⟨name, hwords, rfl⟩ | ⟨name, hwords, rfl⟩ | ⟨e, hother, hwords, rfl, -⟩ := read?_cases h
  · rw [hwords]; rfl
  · rw [hwords]
    cases name with
    | none => rfl
    | some name => rfl
  · rw [hwords, hother]; rfl

/-! ## Reading a text -/

/-- The fields that can be read. -/
def fieldsOfChunks (cs : List (List Char)) : List Field := cs.filterMap read?

def allRead (cs : List (List Char)) : Bool := cs.all fun c => (read? c).isSome

/-- A list of fields is read if each of them is. -/
theorem toOption_mapM_field (cs : List (List Char)) :
    (cs.mapM field).toOption = if allRead cs then some (fieldsOfChunks cs) else none := by
  induction cs with
  | nil => rfl
  | cons c cs ih =>
    have hread := toOption_field c
    rw [List.mapM_cons, allRead, List.all_cons, ← allRead, fieldsOfChunks, List.filterMap_cons,
      ← hread]
    cases field c with
    | error cause => rfl
    | ok f =>
      cases hcs : cs.mapM field with
      | error cause =>
        rw [hcs] at ih
        cases hall : allRead cs with
        | true => rw [hall] at ih; cases ih
        | false => rfl
      | ok fs =>
        rw [hcs] at ih
        cases hall : allRead cs with
        | true => rw [hall] at ih; cases ih; rfl
        | false => rw [hall] at ih; cases ih

theorem toOption_parse (t : List Char) :
    (parse t).toOption.map (·.entries) =
      if allRead (chunks ':' t) then some (entries (fieldsOfChunks (chunks ':' t))) else none := by
  have hfields := toOption_mapM_field (chunks ':' t)
  rw [parse_eq_map]
  cases hread : (chunks ':' t).mapM field with
  | error cause =>
    rw [hread] at hfields
    split at hfields
    · cases hfields
    · rename_i h
      rw [if_neg h]
      rfl
  | ok fs =>
    rw [hread] at hfields
    split at hfields
    · rename_i h
      rw [if_pos h, ← Option.some.inj hfields]
      exact congrArg some (ofDescription_entries _ _ _)
    · cases hfields

/-! ## The order of the fields -/

theorem filterMap_filter_family {α : Type} {g : Field → Option α} {k : Family}
    (h : ∀ f, f.family ≠ k → g f = none) (fs : List Field) :
    (fs.filter (·.family = k)).filterMap g = fs.filterMap g := by
  rw [List.filterMap_filter]
  refine List.filterMap_congr fun f _ => ?_
  by_cases hf : f.family = k
  · simp [hf]
  · simp [hf, h f hf]

def Field.typeOf? (name : String) : Field → Option String
  | .type n text => if n = name then some text else none
  | _ => none

def Field.resultTypeOf? (name : Option String) : Field → Option String
  | .resultType n text => if n = name then some text else none
  | _ => none

def Field.resultName? : Field → Option (Option String)
  | .resultType n _ => some n
  | _ => none

theorem typeOf?_eq_getLast? (fs : List Field) (name : String) :
    typeOf? fs name = (fs.filterMap (Field.typeOf? name)).getLast? := by
  rw [← findSome?_reverse, typeOf?]
  rfl

theorem resultTypes_filter_family (fs : List Field) :
    resultTypes (fs.filter (·.family = .resultType)) = resultTypes fs := by
  induction fs with
  | nil => rfl
  | cons f fs ih =>
    cases f with
    | type n t => exact ih
    | entry e => exact ih
    | resultType n t =>
      rw [List.filter_cons_of_pos rfl, resultTypes, resultTypes, ih]

theorem Field.entry?_eq_none {f : Field} (h : f.family ≠ .other) : f.entry? = none := by
  cases f with
  | type n t => rfl
  | resultType n t => rfl
  | entry e => exact absurd rfl h

theorem Field.typeOf?_eq_none (name : String) {f : Field} (h : f.family ≠ .type) :
    f.typeOf? name = none := by
  cases f with
  | type n t => exact absurd rfl h
  | resultType n t => rfl
  | entry e => rfl

/-- The entries depend on the order of the fields within each family only. -/
theorem entries_congr {fs fs' : List Field}
    (h : ∀ k, fs.filter (·.family = k) = fs'.filter (·.family = k)) : entries fs = entries fs' := by
  have hfilterMap : ∀ {α : Type} {g : Field → Option α} {k : Family},
      (∀ f, f.family ≠ k → g f = none) → fs.filterMap g = fs'.filterMap g := by
    intro α g k hg
    rw [← filterMap_filter_family hg, h k, filterMap_filter_family hg]
  have hentries : fs.filterMap Field.entry? = fs'.filterMap Field.entry? :=
    hfilterMap fun f hf => Field.entry?_eq_none hf
  have htypes : typeOf? fs = typeOf? fs' := by
    funext name
    rw [typeOf?_eq_getLast?, typeOf?_eq_getLast?,
      hfilterMap fun f hf => Field.typeOf?_eq_none name hf]
  have hresults : resultTypes fs = resultTypes fs' := by
    rw [← resultTypes_filter_family, h, resultTypes_filter_family]
  have hwithType : withType fs = withType fs' := by
    funext e
    cases e <;> simp [withType, resultType?, htypes, hresults]
  rw [entries_eq, entries_eq, described, described, hentries, hwithType, hresults]

theorem filter_fieldsOfChunks (cs : List (List Char)) (k : Family) :
    (fieldsOfChunks cs).filter (·.family = k) = fieldsOfChunks (cs.filter (family · = k)) := by
  rw [fieldsOfChunks, fieldsOfChunks, List.filter_filterMap, List.filterMap_filter]
  refine List.filterMap_congr fun c _ => ?_
  cases hread : read? c with
  | none => simp
  | some f =>
    rw [← family_of_read? hread]
    by_cases hk : f.family = k <;> simp [hk]

theorem fieldsOfChunks_stems (cs : List (List Char)) :
    fieldsOfChunks (cs.map stem) = fieldsOfChunks cs := by
  rw [fieldsOfChunks, List.filterMap_map]
  exact List.filterMap_congr fun c _ => read?_stem c

theorem allRead_stems (cs : List (List Char)) : allRead (cs.map stem) = allRead cs := by
  rw [allRead, List.all_map]
  simp only [Function.comp_def, read?_stem]
  rfl

theorem Reordered.allRead_eq {cs cs' : List (List Char)} (h : Reordered cs cs') :
    allRead cs = allRead cs' := by
  rw [← allRead_stems, ← allRead_stems cs']
  exact h.perm.all_eq

theorem Reordered.entries_eq {cs cs' : List (List Char)} (h : Reordered cs cs') :
    entries (fieldsOfChunks cs) = entries (fieldsOfChunks cs') := by
  rw [← fieldsOfChunks_stems, ← fieldsOfChunks_stems cs']
  refine entries_congr fun k => ?_
  rw [filter_fieldsOfChunks, filter_fieldsOfChunks, h k]

/-! ## The types of the entries -/

/-- What the last field with these words in its head says. -/
def lastText? (cs : List (List Char)) (words : List String) : Option String :=
  ((cs.filter (headWords · = words)).map fun c => String.ofList (fieldText c)).getLast?

def resultName? (chunk : List Char) : Option (Option String) :=
  match headWords chunk with
  | ["rtype"] => some none
  | ["rtype", name] => some (some name)
  | _ => none

theorem resultTypes_names (fs : List Field) :
    (resultTypes fs).map Prod.fst = (fs.filterMap Field.resultName?).dedup := by
  induction fs with
  | nil => rfl
  | cons f fs ih =>
    cases f with
    | type n t => exact ih
    | entry e => exact ih
    | resultType n t =>
      have hany : (resultTypes fs).any (·.1 == n) = true ↔ n ∈ fs.filterMap Field.resultName? := by
        rw [← List.mem_dedup, ← ih, List.any_eq_true, List.mem_map]
        simp only [beq_iff_eq]
      have hname : (Field.resultType n t :: fs).filterMap Field.resultName? =
          n :: fs.filterMap Field.resultName? := rfl
      rw [resultTypes, hname]
      split
      · rename_i h
        rw [List.dedup_cons_of_mem (hany.mp h), ih]
      · rename_i h
        rw [List.dedup_cons_of_notMem (fun hm => h (hany.mpr hm)), List.map_cons, ih]

theorem resultTypeOf?_eq_nil {fs : List Field} {name : Option String}
    (h : name ∉ fs.filterMap Field.resultName?) : fs.filterMap (Field.resultTypeOf? name) = [] := by
  rw [List.filterMap_eq_nil_iff]
  intro f hf
  cases f with
  | type n t => rfl
  | entry e => rfl
  | resultType n t =>
    refine if_neg ?_
    rintro rfl
    exact h (List.mem_filterMap.mpr ⟨_, hf, rfl⟩)

theorem getLast?_filterMap_cons {α β : Type} {g : α → Option β} {l : List α} {b : β}
    (h : (l.filterMap g).getLast? = some b) (a : α) :
    ((a :: l).filterMap g).getLast? = some b := by
  rw [List.filterMap_cons]
  cases g a with
  | none => exact h
  | some b' => rw [List.getLast?_cons, h]; rfl

/-- Each result type is the last one of its name. -/
theorem resultTypes_last {fs : List Field} {t : Option String × String}
    (h : t ∈ resultTypes fs) : (fs.filterMap (Field.resultTypeOf? t.1)).getLast? = some t.2 := by
  induction fs with
  | nil => cases h
  | cons f fs ih =>
    cases f with
    | type n text => exact ih h
    | entry e => exact ih h
    | resultType n text =>
      rw [resultTypes] at h
      split at h
      · exact getLast?_filterMap_cons (ih h) _
      · rename_i hany
        obtain rfl | h := List.mem_cons.mp h
        · have hnew : n ∉ fs.filterMap Field.resultName? := by
            rw [← List.mem_dedup, ← resultTypes_names, List.mem_map]
            rintro ⟨t, ht, rfl⟩
            exact hany (List.any_eq_true.mpr ⟨t, ht, beq_self_eq_true _⟩)
          rw [List.filterMap_cons, Field.resultTypeOf?, if_pos rfl, resultTypeOf?_eq_nil hnew]
          rfl
        · exact getLast?_filterMap_cons (ih h) _

theorem resultType?_eq_getLast? (fs : List Field) (name : Option String) :
    resultType? fs name = (fs.filterMap (Field.resultTypeOf? name)).getLast? := by
  cases hf : resultType? fs name with
  | none =>
    rw [resultType?] at hf
    have hnew : name ∉ fs.filterMap Field.resultName? := by
      rw [← List.mem_dedup, ← resultTypes_names, List.mem_map]
      rintro ⟨t, ht, rfl⟩
      have hnone : (if t.1 = t.1 then some t.2 else none) = none :=
        List.findSome?_eq_none_iff.mp hf t ht
      rw [if_pos rfl] at hnone
      cases hnone
    rw [resultTypeOf?_eq_nil hnew, List.getLast?_nil]
  | some type =>
    rw [resultType?] at hf
    obtain ⟨t, ht, hsome⟩ := List.exists_of_findSome?_eq_some hf
    rw [Option.ite_none_right_eq_some, Option.some.injEq] at hsome
    obtain ⟨rfl, rfl⟩ := hsome
    exact (resultTypes_last ht).symm

/-- The last text that readable fields give by a rule on their heads. -/
theorem getLast?_fieldsOfChunks {g : Field → Option String} {cs : List (List Char)}
    {words : List String} (hcs : allRead cs = true)
    (h : ∀ c f, read? c = some f →
      g f = if headWords c = words then some (String.ofList (fieldText c)) else none) :
    ((fieldsOfChunks cs).filterMap g).getLast? = lastText? cs words := by
  rw [lastText?, fieldsOfChunks, List.filterMap_filterMap, ← List.filterMap_eq_map,
    List.filterMap_filter]
  congr 1
  refine List.filterMap_congr fun c hc => ?_
  obtain ⟨f, hread⟩ := Option.isSome_iff_exists.mp (List.all_eq_true.mp hcs c hc)
  rw [hread, Option.bind_some, h c f hread]
  by_cases hw : headWords c = words <;> simp [hw]

theorem typeOf?_fieldsOfChunks {cs : List (List Char)} (hcs : allRead cs = true) (name : String) :
    typeOf? (fieldsOfChunks cs) name = lastText? cs ["type", name] := by
  rw [typeOf?_eq_getLast?]
  refine getLast?_fieldsOfChunks hcs fun c f hread => ?_
  obtain ⟨n, hwords, rfl⟩ | ⟨n, hwords, rfl⟩ | ⟨e, hother, hwords, rfl, -⟩ := read?_cases hread
  · rw [hwords]
    simp [Field.typeOf?]
  · rw [hwords, resultTypeWords]
    simp [Field.typeOf?]
  · rw [hwords, if_neg]
    · rfl
    · intro h
      rw [h] at hother
      cases hother

theorem resultTypeOf?_fieldsOfChunks {cs : List (List Char)} (hcs : allRead cs = true)
    (name : Option String) :
    ((fieldsOfChunks cs).filterMap (Field.resultTypeOf? name)).getLast? =
      lastText? cs (resultTypeWords name) := by
  refine getLast?_fieldsOfChunks hcs fun c f hread => ?_
  obtain ⟨n, hwords, rfl⟩ | ⟨n, hwords, rfl⟩ | ⟨e, hother, hwords, rfl, -⟩ := read?_cases hread
  · rw [hwords, resultTypeWords]
    simp [Field.resultTypeOf?]
  · rw [hwords, resultTypeWords, resultTypeWords]
    cases n <;> cases name <;> simp [Field.resultTypeOf?]
  · rw [hwords, if_neg]
    · rfl
    · intro h
      rw [h] at hother
      cases name <;> cases hother

theorem resultNames_fieldsOfChunks {cs : List (List Char)} (hcs : allRead cs = true) :
    (fieldsOfChunks cs).filterMap Field.resultName? = cs.filterMap resultName? := by
  rw [fieldsOfChunks, List.filterMap_filterMap]
  refine List.filterMap_congr fun c hc => ?_
  obtain ⟨f, hread⟩ := Option.isSome_iff_exists.mp (List.all_eq_true.mp hcs c hc)
  rw [hread, Option.bind_some, resultName?]
  obtain ⟨n, hwords, rfl⟩ | ⟨n, hwords, rfl⟩ | ⟨e, hother, hwords, rfl, -⟩ := read?_cases hread
  · rw [hwords]
    rfl
  · rw [hwords]
    cases n <;> rfl
  · rw [hwords]
    split
    · rename_i heq
      rw [heq] at hother
      cases hother
    · rename_i heq
      rw [heq] at hother
      cases hother
    · rfl

/-- The entries of a text with their types in place. -/
structure Completed (cs : List (List Char)) (es : List Entry) : Prop where
  /-- A parameter without an inline type has the last type of its name. -/
  params : ∀ p, .param p ∈ es → p.args.length = 2 → p.type = lastText? cs ["type", p.name]
  /-- A result without an inline type has the last type of no name. -/
  results : ∀ r, .returns r ∈ es → r.args.length = 1 → r.type = lastText? cs ["rtype"]
  /-- The entries are those of the other fields, in their order; if none of these is a
  result, there follows one for each name of a result type, where it is named last. -/
  order : ∃ described, described.map Entry.args = (cs.filter (family · = .other)).map headWords ∧
    es = if described.any (·.returns?.isSome) then described
      else described ++ (cs.filterMap resultName?).dedup.map fun name =>
        typeEntry name (lastText? cs (resultTypeWords name))

theorem args_withType (fs : List Field) (e : Entry) : (withType fs e).args = e.args := by
  cases e <;> rfl

theorem mem_typeEntries {fs : List Field} {e : Entry} (h : e ∈ entries fs) :
    e ∈ described fs ∨ ∃ name type, e = typeEntry name type := by
  rw [entries_eq] at h
  split at h
  · exact .inl h
  · obtain h | h := List.mem_append.mp h
    · exact .inl h
    · obtain ⟨t, -, rfl⟩ := List.mem_map.mp h
      exact .inr ⟨_, _, rfl⟩

theorem exists_of_mem_described {cs : List (List Char)} {e : Entry}
    (h : e ∈ described (fieldsOfChunks cs)) :
    ∃ e', Inline e' ∧ e = withType (fieldsOfChunks cs) e' := by
  obtain ⟨e', he', rfl⟩ := List.mem_map.mp h
  obtain ⟨f, hf, hentry⟩ := List.mem_filterMap.mp he'
  obtain ⟨c, -, hread⟩ := List.mem_filterMap.mp hf
  refine ⟨e', ?_, rfl⟩
  obtain ⟨n, -, rfl⟩ | ⟨n, -, rfl⟩ | ⟨e, -, -, rfl, hinline⟩ := read?_cases hread
  · cases hentry
  · cases hentry
  · cases hentry
    exact hinline

theorem args_described {cs : List (List Char)} (hcs : allRead cs = true) :
    (described (fieldsOfChunks cs)).map Entry.args =
      (cs.filter (family · = .other)).map headWords := by
  rw [described, List.map_map, fieldsOfChunks, List.filterMap_filterMap, List.map_filterMap,
    ← List.filterMap_eq_map, List.filterMap_filter]
  refine List.filterMap_congr fun c hc => ?_
  obtain ⟨f, hread⟩ := Option.isSome_iff_exists.mp (List.all_eq_true.mp hcs c hc)
  rw [hread, Option.bind_some, ← family_of_read? hread]
  obtain ⟨n, -, rfl⟩ | ⟨n, -, rfl⟩ | ⟨e, -, hwords, rfl, -⟩ := read?_cases hread
  · rfl
  · rfl
  · simp [Field.entry?, Field.family, args_withType, hwords]

theorem completed_entries {cs : List (List Char)} (hcs : allRead cs = true) :
    Completed cs (entries (fieldsOfChunks cs)) where
  params p hp hlen := by
    obtain hp | ⟨name, type, hp⟩ := mem_typeEntries hp
    · obtain ⟨e, hinline, he⟩ := exists_of_mem_described hp
      cases e with
      | param q =>
        cases he
        rw [← typeOf?_fieldsOfChunks hcs]
        dsimp only
        rw [hinline hlen]
        rfl
      | returns r => cases he
      | raises r => cases he
      | deprecation d => cases he
      | note n => cases he
    · cases hp
  results r hr hlen := by
    obtain hr | ⟨name, type, hr⟩ := mem_typeEntries hr
    · obtain ⟨e, hinline, he⟩ := exists_of_mem_described hr
      cases e with
      | param q => cases he
      | returns r =>
        cases he
        obtain ⟨hname, htype⟩ := hinline
        have hlast := resultTypeOf?_fieldsOfChunks hcs none
        rw [← resultType?_eq_getLast?] at hlast
        dsimp only
        rw [htype hlen, hname]
        exact hlast
      | raises r => cases he
      | deprecation d => cases he
      | note n => cases he
    · cases hr
      cases hlen
  order := by
    refine ⟨described (fieldsOfChunks cs), args_described hcs, ?_⟩
    have htypes : ((resultTypes (fieldsOfChunks cs)).map fun t => typeEntry t.1 (some t.2)) =
        (cs.filterMap resultName?).dedup.map fun name =>
          typeEntry name (lastText? cs (resultTypeWords name)) := by
      rw [← resultNames_fieldsOfChunks hcs, ← resultTypes_names, List.map_map]
      refine List.map_congr_left fun t ht => ?_
      rw [Function.comp_apply, ← resultTypeOf?_fieldsOfChunks hcs, resultTypes_last ht]
    rw [Rest.entries_eq, htypes]

/-- **Types may stand anywhere**: two texts whose fields differ only in where the fields of
one family stand among those of the others, and in blank lines below them, are refused both
or have the same entries. Each entry without an inline type has the last one given to it,
and result types make entries of their own only where there is no result. -/
theorem types_in_any_place {t t' : List Char}
    (h : Reordered (chunks ':' t) (chunks ':' t')) :
    (parse t).toOption.map (·.entries) = (parse t').toOption.map (·.entries) ∧
      ∀ d, parse t = .ok d → Completed (chunks ':' t) d.entries := by
  refine ⟨?_, fun d hd => ?_⟩
  · rw [toOption_parse, toOption_parse, h.allRead_eq, h.entries_eq]
  · have hentries := toOption_parse t
    rw [hd] at hentries
    split at hentries
    · rename_i hall
      have heq : d.entries = entries (fieldsOfChunks (chunks ':' t)) := Option.some.inj hentries
      rw [heq]
      exact completed_entries hall
    · cases hentries

/-- The types stand where what they are about stands. -/
def typesBeside : List Char :=
  "Sums.\n\n:param x: The x.\n:type x: int\n\n:rtype: int\n:returns: A sum\n    of all.\n:type x: str".toList

/-- The types stand before all else. -/
def typesFirst : List Char :=
  "Sums.\n\n:type x: int\n:rtype: int\n\n:type x: str\n:param x: The x.\n:returns: A sum\n    of all.".toList

theorem typesFirst_as_beside :
    Reordered (chunks ':' typesBeside) (chunks ':' typesFirst) ∧
      (parse typesBeside).toOption.isSome = true ∧
      (parse typesBeside).toOption.map (·.entries) = (parse typesFirst).toOption.map (·.entries) ∧
      ∀ d, parse typesBeside = .ok d → Completed (chunks ':' typesBeside) d.entries := by
  have hbeside : chunks ':' typesBeside =
      [":param x: The x.".toList, ":type x: int\n".toList, ":rtype: int".toList,
        ":returns: A sum\n    of all.".toList, ":type x: str".toList] := by
    decide +kernel
  have hfirst : chunks ':' typesFirst =
      [":type x: int".toList, ":rtype: int\n".toList, ":type x: str".toList,
        ":param x: The x.".toList, ":returns: A sum\n    of all.".toList] := by
    decide +kernel
  have h : Reordered (chunks ':' typesBeside) (chunks ':' typesFirst) := by
    rw [hbeside, hfirst]
    intro k
    cases k <;> decide
  have hread : (parse typesBeside).toOption.isSome = true := by
    have hall : allRead (chunks ':' typesBeside) = true := by
      rw [hbeside]
      decide
    have hentries := toOption_parse typesBeside
    rw [if_pos hall] at hentries
    rw [← Option.isSome_map, hentries]
    rfl
  exact ⟨h, hread, types_in_any_place h⟩

end RefBook.Docstring.Rest
