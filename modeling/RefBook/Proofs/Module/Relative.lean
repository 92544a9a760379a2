import RefBook.Proofs.Path.Names
import RefBook.Proofs.Registry.Export

/-! # Relative imports and the layout of files

A `from` import with dots names its module by going up from the importing one, on dotted
names; the files of a package are named by going down from its root, on paths. Both ways
lead to the same names: an import of level `n` in a module below `k` directories finds
what lies below the first `k + 1 - n` of them. -/

namespace RefBook

open RefBook.Path (Plain moduleName sourceFile)

namespace Module

/-- The first import that binds a name decides what becomes of it. -/
theorem resolveImport_eq (m : Module) (name : String) :
    m.resolveImport name = (m.imports.find? (·.binds name)).bind (m.targetIn? name) := by
  unfold resolveImport
  induction m.imports with
  | nil => rfl
  | cons i imports ih =>
    rw [List.findSome?_cons, List.find?_cons]
    cases hb : i.binds name with
    | false =>
      rw [(m.targetIn?_eq_none_iff name i).mpr hb]
      exact ih
    | true =>
      cases ht : m.targetIn? name i with
      | none =>
        rw [(m.targetIn?_eq_none_iff name i).mp ht] at hb
        cases hb
      | some t => simp [ht]

/-- Going up from a module in a source file takes away the file and then directories,
and never reaches into the root. -/
theorem parentParts_sourceFile {m : Module} {root stem : String} {dirs : List String}
    (hplain : ∀ n ∈ dirs ++ [stem], Plain n)
    (hm : m.name = moduleName root (sourceFile (dirs ++ [stem]))) {level : Nat}
    (hlow : 1 ≤ level) (hhigh : level ≤ dirs.length + 1) :
    m.parentParts level = components root ++ dirs.take (dirs.length + 1 - level) := by
  have hparts : components m.name = components root ++ (dirs ++ [stem]) := by
    rw [hm, Path.moduleName_sourceFile root (by simp) hplain,
      components_dotted_cons root fun n hn => (hplain n hn).no_dot]
  have hlen : (components root ++ (dirs ++ [stem])).length - level =
      (components root).length + (dirs.length + 1 - level) := by
    simp only [List.length_append, List.length_singleton]
    omega
  rw [parentParts, hparts, hlen, List.take_length_add_append,
    List.take_append_of_le_length (by omega)]

/-- What lies below some of the directories on a plain path has a plain path. -/
theorem plain_below {stem : String} {dirs path : List String}
    (hplain : ∀ n ∈ dirs ++ [stem], Plain n) (hpath : ∀ n ∈ path, Plain n) (count : Nat) :
    ∀ n ∈ dirs.take count ++ path, Plain n := by
  intro n hn
  rcases List.mem_append.mp hn with hn | hn
  · exact hplain n (List.mem_append_left _ (List.mem_of_mem_take hn))
  · exact hpath n hn

/-- A relative import below a source file names what a path from the root names. -/
theorem fromModule_sourceFile {m : Module} {root stem : String} {dirs path : List String}
    (hplain : ∀ n ∈ dirs ++ [stem], Plain n) (hpath : ∀ n ∈ path, Plain n) (hne : path ≠ [])
    (hm : m.name = moduleName root (sourceFile (dirs ++ [stem]))) {level : Nat}
    (hlow : 1 ≤ level) (hhigh : level ≤ dirs.length + 1) :
    m.fromModule (some (dotted path)) level =
      moduleName root (sourceFile (dirs.take (dirs.length + 1 - level) ++ path)) := by
  obtain ⟨n, rfl⟩ : ∃ n, level = n + 1 := ⟨level - 1, by omega⟩
  have hroot : components root ++ dirs.take (dirs.length + 1 - (n + 1)) ≠ [] := by
    simp [components_ne_nil]
  rw [Path.moduleName_sourceFile root (by simp [hne]) (plain_below hplain hpath _)]
  calc m.fromModule (some (dotted path)) (n + 1)
      = dotted (components root ++ dirs.take (dirs.length + 1 - (n + 1)) ++ [dotted path]) := by
        rw [fromModule, parentParts_sourceFile hplain hm hlow hhigh]
        simp
    _ = dotted (components root ++ dirs.take (dirs.length + 1 - (n + 1)) ++ path) := by
        rw [dotted_append hroot (List.cons_ne_nil _ _), dotted_singleton, dotted_append hroot hne]
    _ = dotted (components root ++ (dirs.take (dirs.length + 1 - (n + 1)) ++ path)) := by
        rw [List.append_assoc]
    _ = dotted (root :: (dirs.take (dirs.length + 1 - (n + 1)) ++ path)) := by
        rw [dotted_append (components_ne_nil root) (by simp [hne]), dotted_components,
          ← List.singleton_append, dotted_append (List.cons_ne_nil _ _) (by simp [hne]),
          dotted_singleton]

end Module

/-- The package of a path is named like the module of that path, with the mark of a
package. -/
theorem moduleName_sourceFile_init (root : String) {names : List String} (hne : names ≠ [])
    (h : ∀ n ∈ names, Plain n) :
    moduleName root (sourceFile (names ++ ["__init__"])) =
      moduleName root (sourceFile names) ++ Module.packageSuffix := by
  have hinit : ∀ n ∈ names ++ ["__init__"], Plain n := by
    intro n hn
    rcases List.mem_append.mp hn with hn | hn
    · exact h n hn
    · rw [List.mem_singleton.mp hn]
      decide
  rw [Path.moduleName_sourceFile root (by simp) hinit, Path.moduleName_sourceFile root hne h,
    ← List.cons_append, dotted_append (List.cons_ne_nil _ _) (List.cons_ne_nil _ _),
    dotted_singleton, String.append_assoc]
  rfl

/-- **Relative imports follow the layout of files.** In the module of `d₁/../dₖ/f.py` a
name that comes from the module `m₁. .. .mⱼ` at level `n` is looked for in the module of
the file `m₁/../mⱼ.py` below the first `k + 1 - n` directories, and then in the package
of that path, for every root whatever its name. -/
theorem relative_import_follows_files (root stem name : String) (dirs path : List String)
    (level : Nat) (m : Module) (names : List ImportedName)
    (hplain : ∀ n ∈ dirs ++ [stem], Plain n) (hpath : ∀ n ∈ path, Plain n) (hne : path ≠ [])
    (hlow : 1 ≤ level) (hhigh : level ≤ dirs.length + 1)
    (hm : m.name = moduleName root (sourceFile (dirs ++ [stem])))
    (hfirst : m.imports.find? (·.binds name) =
      some (.selected (some (dotted path)) names level)) :
    ∃ t, m.resolveImport name = some t ∧
      (names.find? (·.bound == name)).map (·.name) = some t.item ∧
      t.module = moduleName root (sourceFile (dirs.take (dirs.length + 1 - level) ++ path)) ∧
      ∀ r : Registry, r.candidates t =
        [moduleName root (sourceFile (dirs.take (dirs.length + 1 - level) ++ path)),
          moduleName root (sourceFile (dirs.take (dirs.length + 1 - level) ++ path ++
            ["__init__"]))].filterMap r.get? := by
  have hbinds : (Import.selected (some (dotted path)) names level).binds name = true :=
    List.find?_some (p := Import.binds name) hfirst
  obtain ⟨n, hn⟩ : ∃ n, names.find? (·.bound == name) = some n := by
    rw [← Option.isSome_iff_exists, List.find?_isSome]
    exact List.any_eq_true.mp hbinds
  have hfrom := Module.fromModule_sourceFile hplain hpath hne hm hlow hhigh
  refine ⟨⟨m.fromModule (some (dotted path)) level, n.name⟩, ?_, ?_, hfrom, ?_⟩
  · rw [m.resolveImport_eq, hfirst, Option.bind_some, Module.targetIn?, hn, Option.map_some]
  · rw [hn, Option.map_some]
  · intro r
    rw [Registry.candidates, hfrom, moduleName_sourceFile_init root (by simp [hne])
      (Module.plain_below hplain hpath _)]

/-- The package `lib.tools.shapes`, which takes `Engine` from two levels up under a name
of its own, and has an earlier import of another name. -/
def shapesPackage : Module :=
  ⟨"lib.tools.shapes.__init__", none, [], [], [], [],
    [.selected (some "core") [⟨"Wheel", none⟩] 1,
      .selected (some "core.engine") [⟨"Gear", none⟩, ⟨"Engine", some "Motor"⟩] 3], ["Motor"]⟩

theorem shapesPackage_follows_files :
    shapesPackage.name = moduleName "lib" "tools/shapes/__init__.py" ∧
    ∃ t, shapesPackage.resolveImport "Motor" = some t ∧ t.item = "Engine" ∧
      t.module = moduleName "lib" "core/engine.py" ∧
      ∀ r : Registry, r.candidates t =
        [moduleName "lib" "core/engine.py",
          moduleName "lib" "core/engine/__init__.py"].filterMap r.get? := by
  obtain ⟨t, ht, hitem, hmodule, hcandidates⟩ := relative_import_follows_files "lib" "__init__"
    "Motor" ["tools", "shapes"] ["core", "engine"] 3 shapesPackage
    [⟨"Gear", none⟩, ⟨"Engine", some "Motor"⟩] (by decide) (by decide) (by decide) (by decide)
    (by decide) rfl rfl
  exact ⟨rfl, t, ht, (Option.some.inj hitem).symm, hmodule, hcandidates⟩

end RefBook
