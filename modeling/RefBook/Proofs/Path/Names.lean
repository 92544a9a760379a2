import RefBook.Module.Target
import RefBook.Path
import RefBook.Proofs.Text.Split

/-! # Dotted names and the files behind them

A module has the name of its root and then one component for each name on the path of
its file. Paths are cut at slashes and dotted names at points, and both cuts can be made
anywhere: the steps of `a/b` are those of `a` and then those of `b`, and the components
of `a.b` are those of `a` and then those of `b`. -/

namespace RefBook

theorem components_ne_nil (name : String) : components name ≠ [] := by
  simp [components, Text.splitOn_ne_nil]

theorem components_append (a b : String) :
    components (a ++ "." ++ b) = components a ++ components b := by
  have h : (a ++ "." ++ b).toList = a.toList ++ '.' :: b.toList := by simp
  rw [components, h, Text.splitOn_append, List.map_append]
  rfl

theorem components_of_not_mem {name : String} (h : '.' ∉ name.toList) :
    components name = [name] := by
  rw [components, Text.splitOn_of_not_mem h, List.map_singleton, String.ofList_toList]

theorem dot_not_mem_of_mem_components {name part : String} (h : part ∈ components name) :
    '.' ∉ part.toList := by
  obtain ⟨piece, hp, rfl⟩ := List.mem_map.mp h
  rw [String.toList_ofList]
  exact Text.not_mem_of_mem_splitOn hp

theorem dotted_components (name : String) : dotted (components name) = name := by
  rw [← String.toList_inj, dotted, String.toList_intercalate, components, List.map_map]
  simp only [Function.comp_def, String.toList_ofList, List.map_id']
  rw [Text.splitOn_eq]
  exact List.intercalate_splitOn '.'

theorem dotted_append {a b : List String} (ha : a ≠ []) (hb : b ≠ []) :
    dotted (a ++ b) = dotted a ++ "." ++ dotted b :=
  String.intercalate_append_of_ne_nil ha hb

theorem dotted_singleton (part : String) : dotted [part] = part := String.intercalate_singleton

theorem components_dotted {parts : List String} (hne : parts ≠ [])
    (h : ∀ p ∈ parts, '.' ∉ p.toList) : components (dotted parts) = parts := by
  induction parts with
  | nil => exact absurd rfl hne
  | cons part parts ih =>
    rw [List.forall_mem_cons] at h
    by_cases hp : parts = []
    · rw [hp, dotted_singleton, components_of_not_mem h.1]
    · rw [← List.singleton_append, dotted_append (List.cons_ne_nil _ _) hp, dotted_singleton,
        components_append, components_of_not_mem h.1, ih hp h.2]

/-- The first of the parts may have points in it, and then has components of its own. -/
theorem components_dotted_cons (root : String) {parts : List String}
    (h : ∀ p ∈ parts, '.' ∉ p.toList) :
    components (dotted (root :: parts)) = components root ++ parts := by
  by_cases hp : parts = []
  · rw [hp, dotted_singleton, List.append_nil]
  · rw [← List.singleton_append, dotted_append (List.cons_ne_nil _ _) hp, dotted_singleton,
      components_append, components_dotted hp h]

/-- A name has the mark of a package, which is left out, or is left as it is. -/
theorem Module.displayNameOf_cases (name : String) :
    (∃ d, name = d ++ packageSuffix ∧ displayNameOf name = d) ∨
      (¬ packageSuffix.toList <:+ name.toList ∧ displayNameOf name = name) := by
  unfold displayNameOf
  simp only []
  split
  · rename_i h
    rw [List.isSuffixOf_iff_suffix] at h
    obtain ⟨d, hd⟩ := h
    left
    have hname : name = String.ofList d ++ packageSuffix := by
      rw [← String.toList_inj, ← hd]
      simp
    refine ⟨String.ofList d, hname, ?_⟩
    rw [← hd]
    simp
  · rename_i h
    rw [List.isSuffixOf_iff_suffix] at h
    exact .inr ⟨h, rfl⟩

namespace Path

/-- The steps of a path apart from that to the top. -/
def stepsBelow (path : String) : List Step :=
  ((Text.splitOn '/' path.toList).filter fun piece => !piece.isEmpty).map Step.ofPiece

theorem allSteps_eq (path : String) :
    allSteps path = (if isAbsolute path then [.top] else []) ++ stepsBelow path := rfl

theorem stepsBelow_append (a b : String) :
    stepsBelow (a ++ "/" ++ b) = stepsBelow a ++ stepsBelow b := by
  have h : (a ++ "/" ++ b).toList = a.toList ++ '/' :: b.toList := by simp
  rw [stepsBelow, h, Text.splitOn_append, List.filter_append, List.map_append]
  rfl

/-- What can be the name of a file: something without slashes that is no way to stay
or to go up. -/
structure IsName (name : String) : Prop where
  ne_empty : name ≠ ""
  no_slash : '/' ∉ name.toList
  ne_here : name ≠ "."
  ne_up : name ≠ ".."

theorem IsName.ofPiece {name : String} (h : IsName name) :
    Step.ofPiece name.toList = .down name := by
  have hhere : name.toList ≠ ['.'] := fun he => h.ne_here (String.toList_inj.mp he)
  have hup : name.toList ≠ ['.', '.'] := fun he => h.ne_up (String.toList_inj.mp he)
  simp [Step.ofPiece, hhere, hup]

theorem IsName.stepsBelow {name : String} (h : IsName name) : stepsBelow name = [.down name] := by
  have hne : name.toList ≠ [] := fun he => h.ne_empty (String.toList_eq_nil_iff.mp he)
  rw [Path.stepsBelow, Text.splitOn_of_not_mem h.no_slash]
  simp [hne, h.ofPiece]

/-- An ending in which something else than points stands makes a name of what is before
it. -/
theorem isName_append {name ending : String} {c : Char} (hname : '/' ∉ name.toList)
    (hending : '/' ∉ ending.toList) (hc : c ∈ ending.toList) (hdot : c ≠ '.') :
    IsName (name ++ ending) := by
  have hmem : c ∈ (name ++ ending).toList := by
    rw [String.toList_append]
    exact List.mem_append_right _ hc
  constructor
  · intro he
    simp [he] at hmem
  · rw [String.toList_append, List.mem_append, not_or]
    exact ⟨hname, hending⟩
  · intro he
    simp [he, hdot] at hmem
  · intro he
    simp [he, hdot] at hmem

/-- A step down is by a name without slashes. -/
theorem slash_not_mem_of_down {path name : String} (h : .down name ∈ allSteps path) :
    '/' ∉ name.toList := by
  rw [allSteps_eq, List.mem_append] at h
  rcases h with h | h
  · split at h <;> simp at h
  · obtain ⟨piece, hp, he⟩ := List.mem_map.mp h
    have hslash := Text.not_mem_of_mem_splitOn (List.mem_filter.mp hp).1
    unfold Step.ofPiece at he
    split at he
    · cases he
    · split at he
      · cases he
      · cases he
        rwa [String.toList_ofList]

/-- A file name as a component of a module name, if the step is to a file. -/
def part? : Step → Option String
  | .down name => some (stem name)
  | _ => none

/-- The components that a path below the root gives to the name of its module. -/
def parts (path : String) : List String := (stepsBelow path).filterMap part?

theorem moduleName_eq (root path : String) :
    moduleName root path = dotted (root :: parts path) := by
  have htop : (steps path).filterMap part? = parts path := by
    rw [steps, allSteps_eq, List.filter_append, List.filterMap_append, parts]
    have hnone : ((if isAbsolute path then [Step.top] else []).filter (· != .here)).filterMap
        part? = [] := by
      split <;> rfl
    rw [hnone, List.nil_append, List.filterMap_filter]
    congr 1
    funext s
    cases s <;> rfl
  rw [← htop]
  rfl

theorem parts_append (a b : String) : parts (a ++ "/" ++ b) = parts a ++ parts b := by
  rw [parts, stepsBelow_append, List.filterMap_append]
  rfl

theorem stem_append (name : String) : stem (name ++ ".py") = name := by
  have hs : sourceSuffix.isSuffixOf (name.toList ++ sourceSuffix) = true := by
    rw [List.isSuffixOf_iff_suffix]
    exact List.suffix_append _ _
  have ht : (name ++ ".py").toList = name.toList ++ sourceSuffix := by simp [sourceSuffix]
  simp only [stem, ht, hs, if_true]
  simp

theorem stem_of_not_mem {name : String} (h : '.' ∉ name.toList) : stem name = name := by
  rw [stem, if_neg]
  rw [List.isSuffixOf_iff_suffix]
  intro hs
  exact h (hs.subset (by decide))

theorem mem_of_mem_stem {c : Char} {name : String} (h : c ∈ (stem name).toList) :
    c ∈ name.toList := by
  unfold stem at h
  simp only at h
  split at h
  · rw [String.toList_ofList] at h
    exact List.mem_of_mem_take h
  · exact h

theorem slash_not_mem_of_mem_parts {path part : String} (h : part ∈ parts path) :
    '/' ∉ part.toList := by
  obtain ⟨s, hs, hp⟩ := List.mem_filterMap.mp h
  cases s with
  | down name =>
    cases hp
    have hstep : .down name ∈ allSteps path := by
      rw [allSteps_eq]
      exact List.mem_append_right _ hs
    have hslash := slash_not_mem_of_down hstep
    exact fun hm => hslash (mem_of_mem_stem hm)
  | top => cases hp
  | here => cases hp
  | up => cases hp

theorem slash_not_mem_dotted {l : List String} (h : ∀ p ∈ l, '/' ∉ p.toList) :
    '/' ∉ (dotted l).toList := by
  induction l with
  | nil => simp [dotted]
  | cons p l ih =>
    rw [List.forall_mem_cons] at h
    by_cases hl : l = []
    · rw [hl, dotted_singleton]
      exact h.1
    · rw [← List.singleton_append, dotted_append (List.cons_ne_nil _ _) hl, dotted_singleton]
      simp [h.1, ih h.2]

/-- The name of a module has no slashes if that of its root has none. -/
theorem slash_not_mem_moduleName {root : String} (h : '/' ∉ root.toList) (path : String) :
    '/' ∉ (moduleName root path).toList := by
  rw [moduleName_eq]
  apply slash_not_mem_dotted
  rw [List.forall_mem_cons]
  exact ⟨h, fun p hp => slash_not_mem_of_mem_parts hp⟩

theorem parts_ne_nil {path : String} (h : sourceSuffix <:+ path.toList) : parts path ≠ [] := by
  -- some piece has a letter in it, and so is a name
  have hp : 'p' ∈ Text.joinWith ['/'] (Text.splitOn '/' path.toList) := by
    rw [Text.joinWith_splitOn]
    exact h.subset (by decide)
  obtain hsep | ⟨piece, hpiece, hmem⟩ := Text.mem_joinWith hp
  · exact absurd hsep (by decide)
  have hstep : Step.ofPiece piece = .down (String.ofList piece) := by
    have hhere : piece ≠ ['.'] := by rintro rfl; revert hmem; decide
    have hup : piece ≠ ['.', '.'] := by rintro rfl; revert hmem; decide
    simp [Step.ofPiece, hhere, hup]
  have hne : piece ≠ [] := List.ne_nil_of_mem hmem
  apply List.ne_nil_of_mem (a := stem (String.ofList piece))
  rw [parts, List.mem_filterMap]
  refine ⟨.down (String.ofList piece), ?_, rfl⟩
  rw [stepsBelow, List.mem_map]
  exact ⟨piece, List.mem_filter.mpr ⟨hpiece, by simpa using hne⟩, hstep⟩

/-- The name of a module starts with that of its root, also without the mark of a
package. -/
theorem prefix_displayNameOf (root : String) {path : String} (h : parts path ≠ []) :
    root.toList <+: (Module.displayNameOf (moduleName root path)).toList := by
  have hname : moduleName root path = root ++ "." ++ dotted (parts path) := by
    rw [moduleName_eq, ← List.singleton_append, dotted_append (List.cons_ne_nil _ _) h,
      dotted_singleton]
  obtain ⟨d, hd, hdisplay⟩ | ⟨_, hdisplay⟩ := Module.displayNameOf_cases (moduleName root path)
  · rw [hdisplay]
    have hlist : root.toList ++ '.' :: (dotted (parts path)).toList =
        d.toList ++ '.' :: "__init__".toList := by
      have hboth := congrArg String.toList (hname.symm.trans hd)
      simpa [Module.packageSuffix] using hboth
    -- the mark has no other point than its first, so it does not reach into the root
    rcases List.append_eq_append_iff.mp hlist with ⟨x, hx, _⟩ | ⟨x, hx, hrest⟩
    · exact ⟨x, hx.symm⟩
    · cases x with
      | nil => exact ⟨[], by rw [hx, List.append_nil, List.append_nil]⟩
      | cons c x =>
        have hdot : '.' ∈ "__init__".toList := by
          rw [(List.cons.inj hrest).2]
          simp
        exact absurd hdot (by decide)
  · rw [hdisplay, hname, String.append_assoc, String.toList_append]
    exact List.prefix_append _ _

/-- A name that can stand in a path and in a dotted name, in both as one component. -/
structure Plain (name : String) : Prop where
  ne_empty : name ≠ ""
  no_dot : '.' ∉ name.toList
  no_slash : '/' ∉ name.toList

instance (name : String) : Decidable (Plain name) :=
  decidable_of_decidable_of_iff
    (p := name ≠ "" ∧ '.' ∉ name.toList ∧ '/' ∉ name.toList)
    ⟨fun h => ⟨h.1, h.2.1, h.2.2⟩, fun h => ⟨h.ne_empty, h.no_dot, h.no_slash⟩⟩

theorem Plain.isName {name : String} (h : Plain name) : IsName name where
  ne_empty := h.ne_empty
  no_slash := h.no_slash
  ne_here := by
    rintro rfl
    exact h.no_dot (by decide)
  ne_up := by
    rintro rfl
    exact h.no_dot (by decide)

theorem Plain.isName_source {name : String} (h : Plain name) : IsName (name ++ ".py") :=
  isName_append (c := 'p') h.no_slash (by decide) (by decide) (by decide)

/-- The path of a source file: the directories on the way to it and its name, without
the ending. -/
def sourceFile (names : List String) : String := "/".intercalate names ++ ".py"

theorem parts_sourceFile {names : List String} (hne : names ≠ []) (h : ∀ n ∈ names, Plain n) :
    parts (sourceFile names) = names := by
  induction names with
  | nil => exact absurd rfl hne
  | cons name names ih =>
    rw [List.forall_mem_cons] at h
    by_cases hn : names = []
    · rw [hn, sourceFile, String.intercalate_singleton, parts, h.1.isName_source.stepsBelow]
      simp [part?, stem_append]
    · have hpath : sourceFile (name :: names) = name ++ "/" ++ sourceFile names := by
        rw [sourceFile, String.intercalate_cons_of_ne_nil hn, sourceFile, String.append_assoc]
      have hname : parts name = [name] := by
        rw [parts, h.1.isName.stepsBelow]
        simp [part?, stem_of_not_mem h.1.no_dot]
      rw [hpath, parts_append, hname, ih hn h.2, List.singleton_append]

/-- A source file with plain names on its path gives its module exactly these, below the
root. -/
theorem moduleName_sourceFile (root : String) {names : List String} (hne : names ≠ [])
    (h : ∀ n ∈ names, Plain n) : moduleName root (sourceFile names) = dotted (root :: names) := by
  rw [moduleName_eq, parts_sourceFile hne h]

end Path

end RefBook
