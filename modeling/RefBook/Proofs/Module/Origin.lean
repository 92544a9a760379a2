import RefBook.Proofs.Module.Relative
import RefBook.Proofs.Registry.LeftAlone

/-! # The import that a name comes from

Which import binds a name is decided three times: when the name is looked up, when it is
asked whether it has a target, and when the target is made. All three times the first import
that binds the name decides. What a `from` import with dots makes of it starts with
components of the importing module, as many as there are left when one goes for each dot. -/

namespace RefBook

/-- The first `keep` of the parts, if there are as many. -/
def firstParts? (parts : List String) (keep : Nat) : Option (List String) :=
  if keep ≤ parts.length then some (parts.take keep) else none

/-- The last of the parts may have points in it, and then has components of its own. -/
theorem components_dotted_concat {parts : List String} (h : ∀ p ∈ parts, '.' ∉ p.toList)
    (last : String) : components (dotted (parts ++ [last])) = parts ++ components last := by
  by_cases hp : parts = []
  · rw [hp, List.nil_append, dotted_singleton, List.nil_append]
  · rw [dotted_append hp (List.cons_ne_nil _ _), dotted_singleton, components_append,
      components_dotted hp h]

namespace Module

variable {m : Module} {name : String}

theorem isSome_targetIn? {i : Import} (h : i.binds name = true) :
    ∃ t, m.targetIn? name i = some t := by
  rw [← Option.ne_none_iff_exists', Ne, m.targetIn?_eq_none_iff name i, h]
  exact Bool.noConfusion

/-- The first import that binds a name gives it its target. -/
theorem exists_target_of_find? {i : Import} (h : m.imports.find? (·.binds name) = some i) :
    ∃ t, m.targetIn? name i = some t ∧ m.resolveImport name = some t := by
  obtain ⟨t, ht⟩ := isSome_targetIn? (m := m) (List.find?_some (p := Import.binds name) h)
  exact ⟨t, ht, by rw [resolveImport_eq, h, Option.bind_some, ht]⟩

/-- A name has a target if and only if an import binds it. -/
theorem resolveImport_isSome_iff :
    (m.resolveImport name).isSome = true ↔ ∃ i ∈ m.imports, i.binds name = true := by
  rw [Option.isSome_iff_ne_none, Ne, m.resolveImport_eq_none_iff name]
  simp

/-- A name that is not defined is looked up among the imports alone. -/
theorem lookup_of_not_defined (h : m.defines name = false) :
    m.lookup name = (m.imports.find? (·.binds name)).map .imported := by
  simp only [defines, Bool.or_eq_false_iff, List.any_eq_false] at h
  obtain ⟨⟨⟨hclasses, hfunctions⟩, hvars⟩, haliases⟩ := h
  rw [lookup, List.find?_eq_none.mpr hclasses, List.find?_eq_none.mpr hfunctions,
    List.find?_eq_none.mpr hvars, List.find?_eq_none.mpr haliases]
  rfl

theorem map_or_eq_some {α β : Type} {x : Option α} {f : α → β} {y : Option β} {b : β}
    (hf : ∀ a, f a ≠ b) (h : (x.map f <|> y) = some b) : y = some b := by
  cases x with
  | none => exact h
  | some a => exact absurd (Option.some.inj h) (hf a)

/-- An import that is found is the first one that binds the name. -/
theorem find?_of_lookup {i : Import} (h : m.lookup name = some (.imported i)) :
    m.imports.find? (·.binds name) = some i := by
  have himport : (m.imports.find? (·.binds name)).map .imported = some (Symbol.imported i) :=
    map_or_eq_some (by simp) (map_or_eq_some (by simp)
      (map_or_eq_some (by simp) (map_or_eq_some (by simp) h)))
  obtain ⟨j, hj, heq⟩ := Option.map_eq_some_iff.mp himport
  cases heq
  exact hj

/-- However far one goes up, no more components are asked for than there are. -/
theorem firstParts?_components (m : Module) (drop : Nat) :
    firstParts? (components m.name) ((components m.name).length - drop) =
      some (m.parentParts drop) :=
  if_pos (Nat.sub_le _ _)

theorem dot_not_mem_of_mem_parentParts {drop : Nat} {part : String}
    (h : part ∈ m.parentParts drop) : '.' ∉ part.toList :=
  dot_not_mem_of_mem_components (List.mem_of_mem_take h)

/-- A module that is named with dots lies below what is left of the importing one. -/
theorem components_fromModule {level : Nat} (h : 1 ≤ level) (module : String) :
    components (m.fromModule (some module) level) =
      (components m.name).take ((components m.name).length - level) ++ components module := by
  obtain ⟨n, rfl⟩ : ∃ n, level = n + 1 := ⟨level - 1, by omega⟩
  exact components_dotted_concat (fun _ hp => dot_not_mem_of_mem_parentParts hp) module

/-- **One import decides what a name stands for.** A name has a target exactly if some import
binds it, and the first that does gives the target; it is also what looking the name up
finds where the module defines no such name, so whenever an import is found there is a
target. Going up from a module asks for no component that is not there, at any level. What
is taken from a module named with dots is looked for below the components that are left of
the importing module, and without dots in the named module itself. -/
theorem first_import_decides (m : Module) (name : String) :
    ((m.resolveImport name).isSome = true ↔ ∃ i ∈ m.imports, i.binds name = true) ∧
    m.resolveImport name = (m.imports.find? (·.binds name)).bind (m.targetIn? name) ∧
    (m.defines name = false →
      m.lookup name = (m.imports.find? (·.binds name)).map .imported) ∧
    (∀ i, m.lookup name = some (.imported i) →
      m.imports.find? (·.binds name) = some i ∧
      ∃ t, m.targetIn? name i = some t ∧ m.resolveImport name = some t) ∧
    (∀ drop, firstParts? (components m.name) ((components m.name).length - drop) =
      some (m.parentParts drop)) ∧
    ∀ module names level,
      m.imports.find? (·.binds name) = some (.selected (some module) names level) →
      ∃ t, m.resolveImport name = some t ∧
        (names.find? (·.bound == name)).map (·.name) = some t.item ∧
        (level = 0 → t.module = module) ∧
        (1 ≤ level → components t.module =
          (components m.name).take ((components m.name).length - level) ++
            components module) := by
  refine ⟨resolveImport_isSome_iff, m.resolveImport_eq name, lookup_of_not_defined, ?_,
    m.firstParts?_components, ?_⟩
  · intro i hi
    have hfirst := find?_of_lookup hi
    exact ⟨hfirst, exists_target_of_find? hfirst⟩
  · intro module names level hfirst
    obtain ⟨t, ht, hresolve⟩ := exists_target_of_find? hfirst
    obtain ⟨n, hn, rfl⟩ := Option.map_eq_some_iff.mp ht
    refine ⟨_, hresolve, by rw [hn]; rfl, ?_, fun h => components_fromModule h module⟩
    rintro rfl
    rfl

/-- A module that goes up further than its name has components to take a name, which a later
line of it takes again, and there without going up. -/
def climbingModule : Module :=
  ⟨"lib.tools", none, [], [], [], [],
    [.whole "os.path" none,
      .selected (some "core.engine") [⟨"Gear", none⟩, ⟨"Engine", some "Motor"⟩] 5,
      .selected (some "late") [⟨"Motor", none⟩, ⟨"stop", none⟩] 0], ["Motor"]⟩

theorem climbingModule_decided :
    climbingModule.defines "Motor" = false ∧
    climbingModule.lookup "Motor" = some (.imported
      (.selected (some "core.engine") [⟨"Gear", none⟩, ⟨"Engine", some "Motor"⟩] 5)) ∧
    (∃ t, climbingModule.resolveImport "Motor" = some t ∧ t.item = "Engine" ∧
      components t.module = ["core", "engine"]) ∧
    ∃ t, climbingModule.resolveImport "stop" = some t ∧ t.item = "stop" ∧ t.module = "late" := by
  obtain ⟨-, -, hlookup, hfound, -, hmotor⟩ := first_import_decides climbingModule "Motor"
  obtain ⟨-, -, -, -, -, hstop⟩ := first_import_decides climbingModule "stop"
  have hdefines : climbingModule.defines "Motor" = false := rfl
  have hmotorFirst := (hfound _ (hlookup hdefines)).1
  obtain ⟨t, ht, hitem, -, hmodule⟩ := hmotor _ _ _ hmotorFirst
  obtain ⟨t', ht', hitem', hmodule', -⟩ := hstop "late" [⟨"Motor", none⟩, ⟨"stop", none⟩] 0 rfl
  exact ⟨hdefines, hlookup hdefines,
    ⟨t, ht, (Option.some.inj hitem).symm, hmodule (by decide)⟩,
    t', ht', (Option.some.inj hitem').symm, hmodule' rfl⟩

/-- A module that takes a name from another one without dots. -/
def absoluteReader : Module :=
  ⟨"pkg.mod", none, [], [], [], [], [.selected (some "os") [⟨"path", none⟩] 0], []⟩

/-- Without dots the named module is not looked for below the importing one. -/
theorem undotted_import_not_below_importer :
    absoluteReader.imports.find? (·.binds "path") =
      some (.selected (some "os") [⟨"path", none⟩] 0) ∧
    absoluteReader.resolveImport "path" = some ⟨"os", "path"⟩ ∧
    components "os" ≠
      (components absoluteReader.name).take ((components absoluteReader.name).length - 0) ++
        components "os" :=
  ⟨rfl, rfl, by decide⟩

end Module

end RefBook
